import RouterBinding.Text.Hexadecimal

/-!
# Writing TOML strings

A string is written in the first form that shows it best: between quotes if nothing in it needs an
escape, between apostrophes, over several lines in either way, and at last with escapes. A control
character is one below the space or the delete character, other than a tab or a line end.
-/

namespace RouterBinding.Toml

/-- A character that no form but an escape can show. -/
def isControl (c : Char) : Bool := (c.toNat < 0x20 || c.toNat = 0x7f) && c ≠ '\t' && c ≠ '\n'

/-- Whether a character stands three times in a row. -/
def hasTriple (q : Char) : List Char → Bool
  | a :: b :: c :: rest => a = q && b = q && c = q || hasTriple q (b :: c :: rest)
  | _ => false

/-- The escape of a character between quotes, if it has one. -/
def escape? (c : Char) : Option (List Char) :=
  if c = '\x08' then some ['\\', 'b']
  else if c = '\t' then some ['\\', 't']
  else if c = '\n' then some ['\\', 'n']
  else if c = '\x0c' then some ['\\', 'f']
  else if c = '\r' then some ['\\', 'r']
  else if c = '"' then some ['\\', '"']
  else if c = '\\' then some ['\\', '\\']
  else if isControl c then some ('\\' :: 'u' :: upperHex 4 c.toNat)
  else none

/-- A character between quotes. -/
def escaped (c : Char) : List Char := (escape? c).getD [c]

/-- The characters between triple quotes, after `quotes` quotes in a row: line ends stay, and of
three quotes the last one is escaped. -/
def escapedLines (quotes : Nat) : List Char → List Char
  | [] => []
  | c :: rest =>
    if c = '"' then
      if quotes = 2 then '\\' :: '"' :: escapedLines 0 rest
      else '"' :: escapedLines (quotes + 1) rest
    else if c = '\n' then '\n' :: escapedLines 0 rest
    else escaped c ++ escapedLines 0 rest

/-- A line end after an opening delimiter, if the string has one itself. -/
def opening (cs : List Char) : List Char := if cs.contains '\n' then ['\n'] else []

def quotedForm (cs : List Char) : List Char := '"' :: cs.flatMap escaped ++ ['"']

def literalForm (cs : List Char) : List Char := '\'' :: cs ++ ['\'']

def quotedLinesForm (cs : List Char) : List Char :=
  ['"', '"', '"'] ++ opening cs ++ escapedLines 0 cs ++ ['"', '"', '"']

def literalLinesForm (cs : List Char) : List Char :=
  ['\'', '\'', '\''] ++ opening cs ++ cs ++ ['\'', '\'', '\'']

/-- The written form of a string. -/
def writeText (cs : List Char) : List Char :=
  let control := cs.any isControl
  let lines := cs.contains '\n'
  let slash := cs.contains '\\'
  if !control && !slash && !lines && !cs.contains '"' then quotedForm cs
  else if !control && !lines && !cs.contains '\'' then literalForm cs
  else if !control && !slash && !hasTriple '"' cs then quotedLinesForm cs
  else if !control && !hasTriple '\'' cs then literalLinesForm cs
  else if lines then quotedLinesForm cs
  else quotedForm cs

end RouterBinding.Toml
