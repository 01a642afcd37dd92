import RouterBinding.Json.Tree
import RouterBinding.Decimal.Shortest

/-!
# Numbers of a JSON text

An integer that fits 64 bits, signed or not, stays an integer; every other numeral is a binary64
number, and one beyond the largest finite number is refused. `Number.ofNumeral?` reads a numeral
and `Number.toNumeral` writes the shortest one that reads as the same number.
-/

namespace RouterBinding.Json

inductive Number where
  | integer (n : Int)
  | real (x : Double)
  deriving DecidableEq

/-- The value of a digit. -/
def digitValue (c : Char) : Nat := c.toNat - '0'.toNat

/-- The integer that a numeral without point and exponent stands for. A zero with a minus sign is
no integer. -/
def Numeral.toInt? (n : Numeral) : Option Int :=
  if n.fraction = [] ∧ n.exponent = none then
    let m := Nat.ofDigitChars 10 n.whole 0
    if n.negative then if m = 0 then none else some (-m) else some m
  else none

namespace Number

/-- The largest significand that is kept of a numeral. -/
def maxSignificand : Nat := UInt64.size - 1

/-- Reads on digits as long as the significand has 64 bits: the significand with what is left
of the digits. -/
def takeDigits (significand : Nat) : List Char → Nat × List Char
  | [] => (significand, [])
  | c :: rest =>
    let next := significand * 10 + digitValue c
    if next ≤ maxSignificand then takeDigits next rest else (significand, c :: rest)

/-- The value of the exponent. -/
def exponentValue : Option (Bool × List Char) → Int
  | none => 0
  | some (negative, digits) =>
    let m : Int := Nat.ofDigitChars 10 digits 0
    if negative then -m else m

/-- The significand and the power of ten of a numeral. Digits that no longer fit count as zeros
before the point and are dropped after it. -/
def scientific (n : Numeral) : Scientific :=
  let (significand, dropped) := takeDigits 0 n.whole
  let (significand, ignored) := takeDigits significand n.fraction
  ⟨significand, dropped.length - (n.fraction.length - ignored.length : Nat) +
    exponentValue n.exponent⟩

/-- The largest power of ten that is a finite binary64 number. -/
def maxPower : Nat := 308

def powerOfTen? (k : Nat) : Option Double := Double.round? (Nat.pow 10 k) 1

/-- Divides by `10 ^ k`, at most `10 ^ 308` at a time. -/
def divideByPower? (x : Double) (k : Nat) : Option Double :=
  if k ≤ maxPower then do x.div? (← powerOfTen? k)
  else if x.isZero then some x
  else do divideByPower? (← x.div? (← powerOfTen? maxPower)) (k - maxPower)
termination_by k
decreasing_by simp [maxPower] at *; omega

/-- The binary64 number of a decimal, by one rounded product or a chain of rounded quotients. -/
def double? (d : Scientific) : Option Double := do
  let x ← Double.round? d.coefficient 1
  if 0 ≤ d.exponent then
    if d.exponent ≤ maxPower then x.mul? (← powerOfTen? d.exponent.toNat)
    else if x.isZero then some x
    else none
  else divideByPower? x (-d.exponent).toNat

/-- The number that a numeral stands for. -/
def ofNumeral? (n : Numeral) : Option Number :=
  match n.toInt? with
  | some m =>
    if Int64.minValue.toInt ≤ m ∧ m < UInt64.size then some (.integer m) else real? n
  | none => real? n
where
  real? (n : Numeral) : Option Number := do
    let x ← double? (scientific n)
    some (.real { x with negative := n.negative })

/-- The numeral of a decimal: positional from `10 ^ (-5)` up to `10 ^ 16`, always with a point,
otherwise with one digit before the point and an exponent. -/
def realNumeral (negative : Bool) (d : Scientific) : Numeral :=
  let digits := Nat.toDigits 10 d.coefficient
  let place : Int := digits.length + d.exponent
  if 0 ≤ d.exponent ∧ place ≤ 16 then
    ⟨negative, digits ++ List.replicate d.exponent.toNat '0', ['0'], none⟩
  else if 0 < place ∧ place ≤ 16 then
    ⟨negative, digits.take place.toNat, digits.drop place.toNat, none⟩
  else if -5 < place ∧ place ≤ 0 then
    ⟨negative, ['0'], List.replicate (-place).toNat '0' ++ digits, none⟩
  else
    ⟨negative, digits.take 1, digits.drop 1,
      some (place - 1 < 0, Nat.toDigits 10 (place - 1).natAbs)⟩

/-- The written form of a number. -/
def toNumeral : Number → Numeral
  | .integer n => .ofInt n
  | .real x => if x.isZero then ⟨x.negative, ['0'], ['0'], none⟩
    else realNumeral x.negative x.shortest

end Number

end RouterBinding.Json
