/-! # Quotients as doubles

The double nearest to a fraction of natural numbers.  The quotient is computed to more bits than a
double holds, and a last bit says whether anything was left; rounding that number once is as good as
rounding the fraction.
-/

namespace Stowage.Decimal

/-- `numerator / denominator`, shifted left by `shift` bits and one more, which is set if the
division leaves a remainder. -/
def shiftedQuotient (numerator denominator : Nat) (shift : Int) : Nat :=
  let numerator := numerator <<< shift.toNat
  let denominator := denominator <<< (-shift).toNat
  2 * (numerator / denominator) + if numerator % denominator = 0 then 0 else 1

/-- The double nearest to `numerator / denominator`. -/
def quotient (numerator denominator : Nat) : Float :=
  let shift : Int := 64 + denominator.log2 - numerator.log2
  (Float.ofNat (shiftedQuotient numerator denominator shift)).scaleB (-(shift + 1))

end Stowage.Decimal
