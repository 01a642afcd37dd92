/-!
# Finite binary64 numbers

A `Double` is a significand of at most 53 bits times a power of two. `Double.round?` takes a
quotient of natural numbers to the nearest one, a tie to the even significand, and finds none
where the quotient rounds beyond the largest finite number. Products and quotients are the exact
ones, rounded once.
-/

namespace RouterBinding

/-- The number `significand * 2 ^ (scale - 1074)`, negated if `negative`. The scale is 0 unless
the significand has all its 53 bits. -/
structure Double where
  negative : Bool
  significand : Nat
  scale : Nat
  deriving DecidableEq

namespace Double

def zero : Double := ⟨false, 0, 0⟩

/-- The largest scale of a finite number. -/
def maxScale : Nat := 2045

def isZero (x : Double) : Bool := x.significand = 0

/-- The nearest integer to `num / den`; of two equally near ones the even one. -/
def nearest (num den : Nat) : Nat :=
  let floor := num / den
  let twice := 2 * (num % den)
  if twice > den ∨ (twice = den ∧ floor % 2 = 1) then floor + 1 else floor

/-- The least scale at which the integer part of `num / den` has at most 53 bits. -/
def scaleFor (num den : Nat) : Nat := (num / den).log2 - 52

/-- The number nearest to `num / den` in units of `2 ^ (-1074)`. -/
def ofUnits? (num den : Nat) : Option Double :=
  let scale := scaleFor num den
  let significand := nearest num (den <<< scale)
  let (significand, scale) :=
    if significand = 1 <<< 53 then (1 <<< 52, scale + 1) else (significand, scale)
  if scale ≤ maxScale then some ⟨false, significand, scale⟩ else none

/-- The number nearest to the quotient `num / den`. -/
def round? (num den : Nat) : Option Double := ofUnits? (num <<< 1074) den

/-- The rounded product of two numbers that are not negative. -/
def mul? (x y : Double) : Option Double :=
  ofUnits? ((x.significand * y.significand) <<< (x.scale + y.scale)) (1 <<< 1074)

/-- The rounded quotient of two numbers that are not negative. -/
def div? (x y : Double) : Option Double :=
  ofUnits? (x.significand <<< (x.scale + 1074)) (y.significand <<< y.scale)

end Double

end RouterBinding
