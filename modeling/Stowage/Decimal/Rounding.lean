import Stowage.Decimal.Basic

/-! # Rounding quotients

A quotient of naturals rounded to a whole number, to a number of places, or to a number of
digits.  A half goes to the even neighbour.
-/

namespace Stowage.Decimal

/-- `numerator / denominator` to the nearest natural, a half to the even one. -/
def nearest (numerator denominator : Nat) : Nat :=
  let floor := numerator / denominator
  let rest := 2 * (numerator % denominator)
  if denominator < rest ∨ (rest = denominator ∧ floor % 2 = 1) then floor + 1 else floor

/-- The power of ten of the leading digit of `numerator / denominator`, a positive number. -/
def magnitude (numerator denominator : Nat) : Int :=
  if denominator ≤ numerator then (width (numerator / denominator) : Int) - 1
  else -(width ((denominator - 1) / numerator) : Int)

/-- `numerator / denominator` in units of `10 ^ power`, as a quotient again. -/
def inUnits (numerator denominator : Nat) (power : Int) : Nat × Nat :=
  (numerator * Nat.pow 10 (-power).toNat, denominator * Nat.pow 10 power.toNat)

def fixed (places numerator denominator : Nat) : List Char :=
  let shown := figures (nearest (numerator * Nat.pow 10 places) denominator)
  let padded := List.replicate (places + 1 - shown.length) '0' ++ shown
  let whole := padded.length - places
  if places = 0 then padded
  else padded.take whole ++ '.' :: padded.drop whole

def sixDigits (numerator denominator : Nat) : Decimal :=
  if numerator = 0 then ⟨0, 0⟩
  else
    let unit := magnitude numerator denominator - 5
    let (n, d) := inUnits numerator denominator unit
    stripped ⟨nearest n d, unit⟩

/-- At most six digits, an exponent from a million on, no point after whole numbers. -/
def general (numerator denominator : Nat) : List Char :=
  write ⟨6, false⟩ (sixDigits numerator denominator)

end Stowage.Decimal
