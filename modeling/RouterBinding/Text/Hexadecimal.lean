/-!
# Hexadecimal digits

`hexValue?` reads a digit in either case, `charOfCode?` finds the character of a number, and
`upperHex` writes a number with capital letters and zeros in front.
-/

namespace RouterBinding

/-- The value of a hexadecimal digit. -/
def hexValue? (c : Char) : Option Nat :=
  if c.isDigit then some (c.toNat - '0'.toNat)
  else if 'a' ≤ c ∧ c ≤ 'f' then some (c.toNat - 'a'.toNat + 10)
  else if 'A' ≤ c ∧ c ≤ 'F' then some (c.toNat - 'A'.toNat + 10)
  else none

/-- The number that some digits stand for, if all of them are hexadecimal. -/
def hexNumber? (digits : List Char) : Option Nat :=
  (digits.mapM hexValue?).map fun values => values.foldl (fun n d => n * 16 + d) 0

/-- The character of a code, if it is one. -/
def charOfCode? (code : Nat) : Option Char :=
  if code.isValidChar then some (Char.ofNat code) else none

/-- The capital digit of a value below sixteen. -/
def upperDigit (n : Nat) : Char := if n < 10 then Char.ofNat (48 + n) else Char.ofNat (55 + n)

/-- The last `width` digits of a number, with zeros in front. -/
def upperHex : (width : Nat) → Nat → List Char
  | 0, _ => []
  | width + 1, n => upperHex width (n / 16) ++ [upperDigit (n % 16)]

end RouterBinding
