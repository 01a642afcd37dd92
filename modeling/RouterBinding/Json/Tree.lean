/-!
# JSON texts as trees

A `Tree` is a JSON text without its blanks: numbers keep their digits, members keep their order,
and a string whose escapes name half of a surrogate pair has no text. `Tree.compact` writes a tree
on one line and `Tree.pretty` indents it by two spaces a level; both escape only the quote, the
backslash and the control characters below the space.
-/

namespace RouterBinding.Json

/-- A number as it is written: the digits before the point, those after it (none if there is no
point), and the exponent with a mark for its minus sign. -/
structure Numeral where
  negative : Bool
  whole : List Char
  fraction : List Char
  exponent : Option (Bool × List Char)
  deriving DecidableEq

namespace Numeral

/-- The numeral of an integer, without leading zeros. -/
def ofInt (n : Int) : Numeral := ⟨n < 0, Nat.toDigits 10 n.natAbs, [], none⟩

/-- The characters of a numeral; an exponent is written with its sign. -/
def chars (n : Numeral) : List Char :=
  (if n.negative then ['-'] else []) ++ n.whole ++
    (if n.fraction = [] then [] else '.' :: n.fraction) ++
    match n.exponent with
    | none => []
    | some (negative, digits) => 'e' :: (if negative then '-' else '+') :: digits

end Numeral

/-- The tree of a JSON text. A string or a member name is `none` where its escapes name half of a
surrogate pair. -/
inductive Tree where
  | null
  | bool (value : Bool)
  | number (numeral : Numeral)
  | string (text : Option String)
  | array (items : List Tree)
  | object (members : List (Option String × Tree))

/-- The written form of a character inside a string. -/
def escape (c : Char) : List Char :=
  if c = '"' then ['\\', '"']
  else if c = '\\' then ['\\', '\\']
  else if c = '\x08' then ['\\', 'b']
  else if c = '\t' then ['\\', 't']
  else if c = '\n' then ['\\', 'n']
  else if c = '\x0c' then ['\\', 'f']
  else if c = '\r' then ['\\', 'r']
  else if c.toNat < 0x20 then
    ['\\', 'u', '0', '0', Nat.digitChar (c.toNat / 16), Nat.digitChar (c.toNat % 16)]
  else [c]

/-- A string between quotes; one without text is written as half of a surrogate pair. -/
def quoted : Option String → List Char
  | some text => '"' :: text.toList.flatMap escape ++ ['"']
  | none => ['"', '\\', 'u', 'd', '8', '0', '0', '"']

namespace Tree

/-- The tree of a string. -/
def text (s : String) : Tree := .string (some s)

/-- The tree of an integer. -/
def int (n : Int) : Tree := .number (.ofInt n)

/-- The tree of an object with texts as member names. -/
def record (members : List (String × Tree)) : Tree :=
  .object (members.map fun member => (some member.1, member.2))

/-- A text, or null for none. -/
def optional : Option String → Tree
  | some s => text s
  | none => .null

mutual

/-- The characters of the one-line form. -/
def chars : Tree → List Char
  | .null => "null".toList
  | .bool true => "true".toList
  | .bool false => "false".toList
  | .number n => n.chars
  | .string s => quoted s
  | .array [] => ['[', ']']
  | .array (item :: items) => '[' :: item.chars ++ itemChars items
  | .object [] => ['{', '}']
  | .object ((name, value) :: members) =>
    '{' :: quoted name ++ ':' :: value.chars ++ memberChars members

/-- The items after the first one, up to the end of their array. -/
def itemChars : List Tree → List Char
  | [] => [']']
  | item :: items => ',' :: item.chars ++ itemChars items

/-- The members after the first one, up to the end of their object. -/
def memberChars : List (Option String × Tree) → List Char
  | [] => ['}']
  | (name, value) :: members =>
    ',' :: quoted name ++ ':' :: value.chars ++ memberChars members

end

/-- A line end and the indentation of a nesting depth. -/
def newline (depth : Nat) : List Char := '\n' :: List.replicate (2 * depth) ' '

mutual

/-- The characters of the indented form inside `depth` brackets. -/
def prettyChars (depth : Nat) : Tree → List Char
  | .null => "null".toList
  | .bool true => "true".toList
  | .bool false => "false".toList
  | .number n => n.chars
  | .string s => quoted s
  | .array [] => ['[', ']']
  | .array (item :: items) =>
    '[' :: newline (depth + 1) ++ item.prettyChars (depth + 1) ++ prettyItemChars depth items
  | .object [] => ['{', '}']
  | .object ((name, value) :: members) =>
    '{' :: newline (depth + 1) ++ quoted name ++ ':' :: ' ' :: value.prettyChars (depth + 1) ++
      prettyMemberChars depth members

/-- The items after the first one, up to the end of their array inside `depth` brackets. -/
def prettyItemChars (depth : Nat) : List Tree → List Char
  | [] => newline depth ++ [']']
  | item :: items =>
    ',' :: newline (depth + 1) ++ item.prettyChars (depth + 1) ++ prettyItemChars depth items

/-- The members after the first one, up to the end of their object inside `depth` brackets. -/
def prettyMemberChars (depth : Nat) : List (Option String × Tree) → List Char
  | [] => newline depth ++ ['}']
  | (name, value) :: members =>
    ',' :: newline (depth + 1) ++ quoted name ++ ':' :: ' ' :: value.prettyChars (depth + 1) ++
      prettyMemberChars depth members

end

/-- The text of a tree on one line, without blanks. -/
def compact (t : Tree) : String := String.ofList t.chars

/-- The text of a tree with every item and member on a line of its own. -/
def pretty (t : Tree) : String := String.ofList (t.prettyChars 0)

end Tree

end RouterBinding.Json
