import Stowage.Decimal.Double
import Stowage.Decimal.Rounding

/-! # The fewest digits that identify a double

Around every double lies the interval of the reals that round to it.  Among the decimals in that
interval the one with the fewest digits is chosen, and of those the nearest to the double.
-/

namespace Stowage.Decimal

def compareDyadic (number : Decimal) (count : Nat) (power : Int) : Ordering :=
  compare (number.digits * Nat.pow 10 number.exponent.toNat * Nat.pow 2 (-power).toNat)
    (count * Nat.pow 2 power.toNat * Nat.pow 10 (-number.exponent).toNat)

/-- Whether `number` lies among the reals that round to the magnitude of `x`.  The ends of the
interval belong to it exactly when the mantissa is even. -/
def readsBack (x : Dyadic) (number : Decimal) : Bool :=
  let low := if x.narrow then 4 * x.mantissa - 1 else 4 * x.mantissa - 2
  let closed := x.mantissa % 2 == 0
  let fromLow := compareDyadic number low (x.exponent - 2)
  let fromHigh := compareDyadic number (4 * x.mantissa + 2) (x.exponent - 2)
  (fromLow == .gt || (closed && fromLow == .eq)) &&
    (fromHigh == .lt || (closed && fromHigh == .eq))

/-- The decimal nearest to `x` among those that are multiples of `10 ^ unit` and read back. -/
def onGrid? (x : Dyadic) (unit : Int) : Option Decimal :=
  let (n, d) := inUnits x.numerator x.denominator unit
  let below : Decimal := ⟨n / d, unit⟩
  let above : Decimal := ⟨n / d + 1, unit⟩
  match readsBack x below, readsBack x above with
  | true, true => some ⟨nearest n d, unit⟩
  | true, false => some below
  | false, true => some above
  | false, false => none

/-- The shortest decimal that identifies the magnitude of `x`.  Seventeen digits are enough for
every double; beyond them the exact value would be taken. -/
def shortest (x : Dyadic) : Decimal :=
  if x.mantissa = 0 then ⟨0, 0⟩
  else
    let leading := magnitude x.numerator x.denominator
    match (List.range 17).findSome? (fun (count : Nat) => onGrid? x (leading - count)) with
    | some number => stripped number
    | none => stripped ⟨x.numerator * Nat.pow 5 (-x.exponent).toNat, min x.exponent 0⟩

/-- A double with its sign in front of its written magnitude.  What is not finite has a name. -/
def signed (magnitude : Dyadic → List Char) (x : Float) : String :=
  match Dyadic.ofFloat? x with
  | none => if x != x then "nan" else if x < 0 then "-inf" else "inf"
  | some exact => String.ofList ((if exact.negative then ['-'] else []) ++ magnitude exact)

/-- The fewest digits that identify the double, an exponent from `10 ^ 16` on, a point in whole
numbers. -/
def floatText : Float → String :=
  signed fun x => write ⟨16, true⟩ (shortest x)

def tenthsText : Float → String :=
  signed fun x => fixed 1 x.numerator x.denominator

def generalText : Float → String :=
  signed fun x => general x.numerator x.denominator

end Stowage.Decimal
