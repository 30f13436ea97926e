import Stowage.Decimal.Shortest

/-! # Timescales

Times and spans of time are numbers of seconds.  Programs run on doubles; the laws of waiting are
those of exact numbers, for which there is an instance as well.
-/

namespace Stowage

/-- The arithmetic of waiting. -/
class Timescale (τ : Type) where
  zero : τ
  add : τ → τ → τ
  sub : τ → τ → τ
  lt : τ → τ → Bool
  le : τ → τ → Bool
  /-- The span doubled a number of times. -/
  doubled : τ → Nat → τ
  /-- Whether a span doubled that often is known to exceed the ceiling, without doubling it. -/
  exceeds : (span ceiling : τ) → Nat → Bool
  tenths : τ → String
  general : τ → String

namespace Timescale

variable {τ : Type} [Timescale τ]

/-- The smaller of two times, the first where neither is. -/
def min (a b : τ) : τ :=
  if lt b a then b else a

def max (a b : τ) : τ :=
  if lt a b then b else a

end Timescale

/-- Two to a power below 1024, as a double. -/
def powerOfTwo (power : Nat) : Float :=
  Float.ofBits (UInt64.ofNat ((power + 1023) <<< Dyadic.fractionBits))

instance : Timescale Float where
  zero := 0
  add a b := a + b
  sub a b := a - b
  lt a b := a < b
  le a b := a ≤ b
  doubled span count := span * powerOfTwo count
  exceeds span ceiling count :=
    span > 0 && ceiling > 0 && Float.ofNat count > ceiling.log2 - span.log2
  tenths := Decimal.tenthsText
  general := Decimal.generalText

def signedRat (magnitude : Nat → Nat → List Char) (x : Rat) : String :=
  String.ofList ((if x < 0 then ['-'] else []) ++ magnitude x.num.natAbs x.den)

instance : Timescale Rat where
  zero := 0
  add a b := a + b
  sub a b := a - b
  lt a b := a < b
  le a b := a ≤ b
  doubled span count := span * 2 ^ count
  exceeds _ _ _ := false
  tenths := signedRat (Decimal.fixed 1)
  general := signedRat Decimal.general

end Stowage
