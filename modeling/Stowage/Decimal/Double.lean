/-! # Doubles as exact numbers

A finite double is a sign, a natural number and a power of two.  All printing of doubles goes
through this form, so that it is exact integer arithmetic throughout.
-/

namespace Stowage

/-- The number `± mantissa · 2 ^ exponent`. -/
structure Dyadic where
  negative : Bool
  mantissa : Nat
  exponent : Int
  /-- The next smaller double is only half as far away as the next larger one. -/
  narrow : Bool := false

namespace Dyadic

/-- The magnitude is `numerator / denominator`. -/
def numerator (x : Dyadic) : Nat :=
  x.mantissa * Nat.pow 2 x.exponent.toNat

def denominator (x : Dyadic) : Nat :=
  Nat.pow 2 (-x.exponent).toNat

theorem denominator_pos (x : Dyadic) : 0 < x.denominator :=
  Nat.pow_pos (by decide)

/-- How many bits of a double are its fraction; eleven bits of its power and a sign stand above. -/
def fractionBits : Nat := 52

/-- The exact value of a double; none for infinities and what is not a number. -/
def ofFloat? (x : Float) : Option Dyadic :=
  let bits := x.toBits.toNat
  let power : Nat := (bits >>> fractionBits) % 2048
  let fraction : Nat := bits % (1 <<< fractionBits)
  let negative := bits >>> 63 == 1
  if power = 2047 then none
  else if power = 0 then some { negative, mantissa := fraction, exponent := -1074 }
  else some {
    negative
    mantissa := (1 <<< fractionBits) + fraction
    exponent := (power : Int) - 1075
    narrow := fraction == 0 && 1 < power }

def isInt (x : Dyadic) (n : Int) : Bool :=
  let signed : Int := if x.negative then -x.numerator else x.numerator
  signed == n * x.denominator

end Dyadic

end Stowage
