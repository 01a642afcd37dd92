import RouterBinding.Json.Tree
import RouterBinding.Text.Hexadecimal

/-!
# Reading JSON texts

`Tree.parse?` reads one JSON document with blanks around it. Nesting has no limit here: what a
type of the library accepts is decided where it is decoded from the tree. The functions below take
the characters still to be read and return what is left of them.
-/

namespace RouterBinding.Json

/-- A space, a tab or a line end. -/
def isBlank (c : Char) : Bool := c = ' ' || c = '\n' || c = '\t' || c = '\r'

def skipBlanks (cs : List Char) : List Char := cs.dropWhile isBlank

/-- The character that a one-letter escape stands for. -/
def escaped? (c : Char) : Option Char :=
  if c = '"' then some '"'
  else if c = '\\' then some '\\'
  else if c = '/' then some '/'
  else if c = 'b' then some '\x08'
  else if c = 'f' then some '\x0c'
  else if c = 'n' then some '\n'
  else if c = 'r' then some '\r'
  else if c = 't' then some '\t'
  else none

/-- A piece of a string: a character, or the code of half of a surrogate pair. -/
inductive Piece where
  | char (c : Char)
  | half (code : Nat)

/-- The piece that four hexadecimal digits stand for. -/
def Piece.ofDigits? (a b c d : Char) : Option Piece := do
  let code ← hexNumber? [a, b, c, d]
  some (if 0xD800 ≤ code ∧ code < 0xE000 then .half code else .char (Char.ofNat code))

/-- The pieces of a string up to its closing quote. -/
def pieces? : List Char → Option (List Piece × List Char)
  | [] => none
  | '"' :: rest => some ([], rest)
  | '\\' :: 'u' :: a :: b :: c :: d :: rest => do
    let piece ← Piece.ofDigits? a b c d
    let (pieces, rest) ← pieces? rest
    some (piece :: pieces, rest)
  | '\\' :: c :: rest => do
    let c ← escaped? c
    let (pieces, rest) ← pieces? rest
    some (.char c :: pieces, rest)
  | c :: rest => do
    guard (0x20 ≤ c.toNat)
    let (pieces, rest) ← pieces? rest
    some (.char c :: pieces, rest)

/-- The characters of a string: each upper half of a surrogate pair is followed by a lower one. -/
def joinPieces : List Piece → Option (List Char)
  | [] => some []
  | .char c :: pieces => (joinPieces pieces).map (c :: ·)
  | .half high :: .half low :: pieces =>
    if high < 0xDC00 ∧ 0xDC00 ≤ low then
      (joinPieces pieces).map
        (Char.ofNat (0x10000 + (high - 0xD800) * 0x400 + (low - 0xDC00)) :: ·)
    else none
  | .half _ :: _ => none

/-- A string after its opening quote. -/
def string? (cs : List Char) : Option (Option String × List Char) := do
  let (pieces, rest) ← pieces? cs
  some ((joinPieces pieces).map String.ofList, rest)

/-- The digits in front and what follows them, if there is a digit. -/
def digits? (cs : List Char) : Option (List Char × List Char) :=
  if cs.takeWhile Char.isDigit = [] then none
  else some (cs.takeWhile Char.isDigit, cs.dropWhile Char.isDigit)

/-- The digits before the point: a zero stands alone. -/
def whole? : List Char → Option (List Char × List Char)
  | '0' :: rest => some (['0'], rest)
  | cs => digits? cs

/-- The point and the digits after it, if there is a point. -/
def fraction? : List Char → Option (List Char × List Char)
  | '.' :: rest => digits? rest
  | cs => some ([], cs)

/-- The sign in front: whether it is a minus, and what follows it. -/
def exponentSign : List Char → Bool × List Char
  | '-' :: rest => (true, rest)
  | '+' :: rest => (false, rest)
  | cs => (false, cs)

/-- The exponent, if there is one. -/
def exponent? : List Char → Option (Option (Bool × List Char) × List Char)
  | c :: rest =>
    if c = 'e' ∨ c = 'E' then do
      let (negative, rest) := exponentSign rest
      let (digits, rest) ← digits? rest
      some (some (negative, digits), rest)
    else some (none, c :: rest)
  | [] => some (none, [])

/-- A number. -/
def numeral? (cs : List Char) : Option (Numeral × List Char) := do
  let (negative, rest) := match cs with
    | '-' :: rest => (true, rest)
    | _ => (false, cs)
  let (whole, rest) ← whole? rest
  let (fraction, rest) ← fraction? rest
  let (exponent, rest) ← exponent? rest
  some (⟨negative, whole, fraction, exponent⟩, rest)

mutual

/-- A value; `fuel` bounds the calls. -/
def value? : (fuel : Nat) → List Char → Option (Tree × List Char)
  | 0, _ => none
  | fuel + 1, cs =>
    match skipBlanks cs with
    | 'n' :: 'u' :: 'l' :: 'l' :: rest => some (.null, rest)
    | 't' :: 'r' :: 'u' :: 'e' :: rest => some (.bool true, rest)
    | 'f' :: 'a' :: 'l' :: 's' :: 'e' :: rest => some (.bool false, rest)
    | '"' :: rest => do
      let (text, rest) ← string? rest
      some (.string text, rest)
    | '[' :: rest =>
      match skipBlanks rest with
      | ']' :: rest => some (.array [], rest)
      | _ => do
        let (items, rest) ← items? fuel rest
        some (.array items, rest)
    | '{' :: rest =>
      match skipBlanks rest with
      | '}' :: rest => some (.object [], rest)
      | _ => do
        let (members, rest) ← members? fuel rest
        some (.object members, rest)
    | cs => do
      let (numeral, rest) ← numeral? cs
      some (.number numeral, rest)

/-- The items of an array from one of them on, with the closing bracket. -/
def items? : (fuel : Nat) → List Char → Option (List Tree × List Char)
  | 0, _ => none
  | fuel + 1, cs => do
    let (item, rest) ← value? fuel cs
    match skipBlanks rest with
    | ',' :: rest =>
      let (items, rest) ← items? fuel rest
      some (item :: items, rest)
    | ']' :: rest => some ([item], rest)
    | _ => none

/-- The members of an object from one of them on, with the closing brace. -/
def members? : (fuel : Nat) → List Char → Option (List (Option String × Tree) × List Char)
  | 0, _ => none
  | fuel + 1, cs =>
    match skipBlanks cs with
    | '"' :: rest => do
      let (name, rest) ← string? rest
      match skipBlanks rest with
      | ':' :: rest =>
        let (value, rest) ← value? fuel rest
        match skipBlanks rest with
        | ',' :: rest =>
          let (members, rest) ← members? fuel rest
          some ((name, value) :: members, rest)
        | '}' :: rest => some ([(name, value)], rest)
        | _ => none
      | _ => none
    | _ => none

end

/-- The tree of a JSON document. -/
def Tree.parse? (text : String) : Option Tree :=
  let cs := text.toList
  match value? (2 * cs.length + 1) cs with
  | some (tree, rest) => if skipBlanks rest = [] then some tree else none
  | none => none

end RouterBinding.Json
