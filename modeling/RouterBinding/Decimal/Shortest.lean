import RouterBinding.Decimal.Double

/-!
# The shortest decimal that reads back

`Double.shortest x` is the decimal of the fewest digits that lies in the interval of reals that
round to `x`, and of those the nearest to `x`. On the grid of the decimals with `n` digits only
the two neighbours of `x` have to be looked at: if any point of the grid lies in the interval, so
does one of them.
-/

namespace RouterBinding

/-- The decimal `coefficient * 10 ^ exponent`. -/
structure Scientific where
  coefficient : Nat
  exponent : Int
  deriving DecidableEq

namespace Scientific

/-- The same decimal without zeros at the end of its coefficient; `fuel` bounds their number. -/
def strip (fuel : Nat) (d : Scientific) : Scientific :=
  match fuel with
  | 0 => d
  | fuel + 1 =>
    if d.coefficient % 10 = 0 then strip fuel ⟨d.coefficient / 10, d.exponent + 1⟩ else d

end Scientific

namespace Double

/-- Twice the distance to a neighbour and the number itself, in quarters of the last bit: the
lower end of the interval of reals that round to `x`, the number, and the upper end. Below a power
of two the neighbour is half as far. -/
def quarters (x : Double) : Nat × Nat × Nat :=
  let below := if x.significand = 1 <<< 52 ∧ x.scale ≠ 0 then 1 else 2
  (4 * x.significand - below, 4 * x.significand, 4 * x.significand + 2)

/-- The number of digits before the point of a number other than zero; below 1 it counts the zeros
after the point, negatively. -/
def pointPlace (x : Double) : Int :=
  let units := (x.significand <<< x.scale) * Nat.pow 10 400 / 1 <<< 1074
  (Nat.toDigits 10 units).length - 400

/-- The numerator and the denominator of `10 ^ k`. -/
def powerOfTen (k : Int) : Nat × Nat := (Nat.pow 10 k.toNat, Nat.pow 10 (-k).toNat)

/-- The nearest point to `x` of the grid `10 ^ k` that rounds to `x`, if there is one; of two
equally near points the even one. -/
def nearestOnGrid? (x : Double) (k : Int) : Option Nat :=
  let (low, mid, high) := x.quarters
  let (num, den) := powerOfTen k
  -- A quarter of the last bit is `2 ^ scale / 2 ^ 1076`; both sides are scaled to integers.
  let unit := den <<< x.scale
  let step := num <<< 1076
  let floor := mid * unit / step
  let inside := fun (c : Nat) =>
    if x.significand % 2 = 0 then low * unit ≤ c * step ∧ c * step ≤ high * unit
    else low * unit < c * step ∧ c * step < high * unit
  let below := mid * unit - floor * step
  let above := (floor + 1) * step - mid * unit
  if inside floor then
    if inside (floor + 1) ∧ (above < below ∨ (above = below ∧ floor % 2 = 1)) then
      some (floor + 1)
    else some floor
  else if inside (floor + 1) then some (floor + 1)
  else none

/-- The shortest decimal of at least `digits` digits; `fuel` bounds the further ones. -/
def shortestFrom (x : Double) (fuel digits : Nat) : Scientific :=
  let k := x.pointPlace - digits
  match x.nearestOnGrid? k, fuel with
  | some c, _ => Scientific.strip c.log2 ⟨c, k⟩
  | none, fuel + 1 => shortestFrom x fuel (digits + 1)
  | none, 0 => ⟨0, 0⟩

/-- The shortest decimal that rounds to a number other than zero, nearest to it among those.
Seventeen digits always suffice. -/
def shortest (x : Double) : Scientific := shortestFrom x 16 1

end Double

end RouterBinding
