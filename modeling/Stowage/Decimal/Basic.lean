/-! # Decimals

A decimal is a row of digits and a power of ten.  This module writes decimals down: positionally
or with an exponent, as a `Layout` decides.
-/

namespace Stowage

/-- The number `digits · 10 ^ exponent`. -/
structure Decimal where
  digits : Nat
  exponent : Int
deriving DecidableEq, Repr

namespace Decimal

def figures (n : Nat) : List Char :=
  Nat.toDigits 10 n

/-- The most digits of a whole number that is read or written. -/
def maxDigits : Nat := 4300

/-- The digits of a whole number behind its sign; none if there are too many of them. -/
def wholeText? (n : Int) : Option String :=
  if (figures n.natAbs).length ≤ maxDigits then some (toString n) else none

/-- How many digits `n` has when zero has none. -/
def width (n : Nat) : Nat :=
  if n = 0 then 0 else (figures n).length

structure Layout where
  /-- Numbers of at least this many digits before the point are written with an exponent. -/
  wholeDigits : Int
  /-- Whether a whole number in positional form ends in a point and a zero. -/
  markWhole : Bool

/-- Trailing zeros move from the digits into the exponent. -/
def stripped (number : Decimal) : Decimal :=
  go number.digits number.digits number.exponent
where
  go : Nat → Nat → Int → Decimal
    | 0, digits, exponent => ⟨digits, exponent⟩
    | fuel + 1, digits, exponent =>
      if digits ≠ 0 ∧ digits % 10 = 0 then go fuel (digits / 10) (exponent + 1)
      else ⟨digits, exponent⟩

/-- A power of ten as an exponent: a sign and at least two digits. -/
def exponentText (power : Int) : List Char :=
  let magnitude := figures power.natAbs
  'e' :: (if power < 0 then '-' else '+') ::
    (List.replicate (2 - magnitude.length) '0' ++ magnitude)

/-- The digits with a point after the first `whole` of them; zeros fill up what is missing. -/
def positional (markWhole : Bool) (shown : List Char) (whole : Int) : List Char :=
  if whole ≤ 0 then '0' :: '.' :: (List.replicate whole.natAbs '0' ++ shown)
  else if shown.length ≤ whole.toNat then
    shown ++ List.replicate (whole.toNat - shown.length) '0' ++
      (if markWhole then ['.', '0'] else [])
  else shown.take whole.toNat ++ '.' :: shown.drop whole.toNat

/-- A decimal without trailing zeros, written down.  Below `0.0001` and from
`10 ^ layout.wholeDigits` on an exponent is used. -/
def write (layout : Layout) (number : Decimal) : List Char :=
  if number.digits = 0 then positional layout.markWhole ['0'] 1
  else
    let shown := figures number.digits
    let whole : Int := shown.length + number.exponent
    if whole < -3 ∨ layout.wholeDigits < whole then
      match shown with
      | [] => []
      | [digit] => digit :: exponentText (whole - 1)
      | digit :: others => digit :: '.' :: (others ++ exponentText (whole - 1))
    else positional layout.markWhole shown whole

end Decimal

end Stowage
