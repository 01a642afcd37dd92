import RouterBinding.Text.Hexadecimal

/-!
# Blanks, keys and strings of TOML

The smallest parts of a TOML document. The functions take the characters still to be read and
return what is left of them.
-/

namespace RouterBinding.Toml

def isBlank (c : Char) : Bool := c = ' ' || c = '\t'

def skipBlanks (cs : List Char) : List Char := cs.dropWhile isBlank

/-- A character that may stand in a comment and, but for the delimiter, in a string. -/
def isPlain (c : Char) : Bool := c = '\t' || 0x20 ≤ c.toNat && c.toNat ≠ 0x7f

/-- What follows a line end. -/
def newline? : List Char → Option (List Char)
  | '\n' :: rest => some rest
  | '\r' :: '\n' :: rest => some rest
  | _ => none

/-- Skips a comment, if there is one. -/
def skipComment : List Char → List Char
  | '#' :: rest => rest.dropWhile isPlain
  | cs => cs

/-- The next line, after nothing but blanks and a comment on this one. -/
def lineEnd? (cs : List Char) : Option (List Char) :=
  match skipComment (skipBlanks cs) with
  | [] => some []
  | cs => newline? cs

/-- Skips blanks, line ends and comments, each of which ends with its line. -/
def skipLines? (inComment : Bool) : List Char → Option (List Char)
  | [] => if inComment then none else some []
  | '\n' :: rest => skipLines? false rest
  | '\r' :: '\n' :: rest => skipLines? false rest
  | c :: rest =>
    if inComment then if isPlain c then skipLines? true rest else none
    else if isBlank c then skipLines? false rest
    else if c = '#' then skipLines? true rest
    else some (c :: rest)

/-- The character that a one-letter escape stands for. -/
def escapeLetter? (c : Char) : Option Char :=
  if c = 'b' then some '\x08'
  else if c = 't' then some '\t'
  else if c = 'n' then some '\n'
  else if c = 'f' then some '\x0c'
  else if c = 'r' then some '\r'
  else if c = '"' then some '"'
  else if c = '\\' then some '\\'
  else none

/-- Puts a character in front of a string that was read. -/
def prepend (c : Char) : List Char × List Char → List Char × List Char
  | (text, rest) => (c :: text, rest)

/-- A string on one line, after its opening quote. -/
def basic? : List Char → Option (List Char × List Char)
  | [] => none
  | '"' :: rest => some ([], rest)
  | '\\' :: 'u' :: a :: b :: c :: d :: rest => do
    let char ← charOfCode? (← hexNumber? [a, b, c, d])
    (basic? rest).map (prepend char)
  | '\\' :: 'U' :: a :: b :: c :: d :: e :: f :: g :: h :: rest => do
    let char ← charOfCode? (← hexNumber? [a, b, c, d, e, f, g, h])
    (basic? rest).map (prepend char)
  | '\\' :: c :: rest => do
    let char ← escapeLetter? c
    (basic? rest).map (prepend char)
  | c :: rest => if isPlain c then (basic? rest).map (prepend c) else none

/-- A string on one line, after its opening apostrophe. -/
def literal? : List Char → Option (List Char × List Char)
  | [] => none
  | '\'' :: rest => some ([], rest)
  | c :: rest => if isPlain c then (literal? rest).map (prepend c) else none

/-- Up to two delimiters before the closing ones belong to the string. -/
def closing (q : Char) : List Char → List Char × List Char
  | a :: b :: rest =>
    if a = q then if b = q then ([q, q], rest) else ([q], b :: rest) else ([], a :: b :: rest)
  | [a] => if a = q then ([q], []) else ([], [a])
  | [] => ([], [])

/-- Where a string over several lines is: in its text, behind a backslash that has to be followed
by a line end, or behind that line end, where blanks are skipped. -/
inductive LineMode where
  | text
  | slash
  | skip
  deriving DecidableEq

/-- A string over several lines, after its opening quotes. -/
def basicLines? (mode : LineMode) : List Char → Option (List Char × List Char)
  | [] => none
  | '\r' :: '\n' :: rest =>
    if mode = .text then (basicLines? .text rest).map (prepend '\n') else basicLines? .skip rest
  | '\n' :: rest =>
    if mode = .text then (basicLines? .text rest).map (prepend '\n') else basicLines? .skip rest
  | '"' :: '"' :: '"' :: rest => if mode = .slash then none else some (closing '"' rest)
  | '\\' :: 'u' :: a :: b :: c :: d :: rest =>
    if mode = .slash then none
    else do
      let char ← charOfCode? (← hexNumber? [a, b, c, d])
      (basicLines? .text rest).map (prepend char)
  | '\\' :: 'U' :: a :: b :: c :: d :: e :: f :: g :: h :: rest =>
    if mode = .slash then none
    else do
      let char ← charOfCode? (← hexNumber? [a, b, c, d, e, f, g, h])
      (basicLines? .text rest).map (prepend char)
  | '\\' :: c :: rest =>
    if mode = .slash then none
    else if isBlank c || c = '\n' || c = '\r' then basicLines? .slash (c :: rest)
    else do
      let char ← escapeLetter? c
      (basicLines? .text rest).map (prepend char)
  | c :: rest =>
    if isBlank c && mode ≠ .text then basicLines? mode rest
    else if mode = .slash || !isPlain c then none
    else (basicLines? .text rest).map (prepend c)

/-- A string over several lines, after its opening apostrophes. -/
def literalLines? : List Char → Option (List Char × List Char)
  | [] => none
  | '\r' :: '\n' :: rest => (literalLines? rest).map (prepend '\n')
  | '\n' :: rest => (literalLines? rest).map (prepend '\n')
  | '\'' :: '\'' :: '\'' :: rest => some (closing '\'' rest)
  | c :: rest => if isPlain c then (literalLines? rest).map (prepend c) else none

/-- The first line end of a string over several lines is not part of it. -/
def afterOpening (cs : List Char) : List Char := (newline? cs).getD cs

/-- A string in any of its four forms. -/
def string? : List Char → Option (List Char × List Char)
  | '"' :: '"' :: '"' :: rest => basicLines? .text (afterOpening rest)
  | '"' :: rest => basic? rest
  | '\'' :: '\'' :: '\'' :: rest => literalLines? (afterOpening rest)
  | '\'' :: rest => literal? rest
  | _ => none

/-- A character of a key without quotes. -/
def isBare (c : Char) : Bool := c.isAlphanum || c = '-' || c = '_'

/-- One part of a key. -/
def keyPart? : List Char → Option (List Char × List Char)
  | '"' :: rest => basic? rest
  | '\'' :: rest => literal? rest
  | cs =>
    if cs.takeWhile isBare = [] then none else some (cs.takeWhile isBare, cs.dropWhile isBare)

/-- The parts of a key, with dots between and blanks around them; `fuel` bounds their number. -/
def keyParts? : (fuel : Nat) → List Char → Option (List String × List Char)
  | 0, _ => none
  | fuel + 1, cs => do
    let (part, rest) ← keyPart? (skipBlanks cs)
    match skipBlanks rest with
    | '.' :: rest =>
      let (parts, rest) ← keyParts? fuel rest
      some (String.ofList part :: parts, rest)
    | rest => some ([String.ofList part], rest)

/-- The nesting at which a document is refused. -/
def nestingLimit : Nat := 80

/-- A key with fewer parts than the limit. -/
def key? (cs : List Char) : Option (List String × List Char) :=
  keyParts? (nestingLimit - 1) cs

end RouterBinding.Toml
