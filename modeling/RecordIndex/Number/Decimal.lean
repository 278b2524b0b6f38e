import RecordIndex.Number

namespace RecordIndex

/-!
# Reading decimals

A decimal literal is read through one machine multiplication or division.
The digits are gathered into a 64-bit significand, as many of them as fit,
and the result is that significand, as a double, times or divided by one
power of ten.  The answer is the nearest double while the significand needs
at most 53 bits and the power of ten is exact, and may be off in the last
place beyond that.  A literal beyond the largest double is refused rather
than read as infinity.  So does the `serde_json` library read decimals, unless
it is told to be exact.
-/

/-- The digits of a literal that have been read: a significand below `2 ^ 64`
and the power of ten it is to be scaled by. -/
structure DecimalDigits where
  significand : Nat
  exponent : Int
  /-- A digit did not fit, so later digits are only counted. -/
  full : Bool
deriving DecidableEq

namespace DecimalDigits

def start : DecimalDigits :=
  ⟨0, 0, false⟩

/-- Whether one more digit keeps the significand within 64 bits. -/
def fits (d : DecimalDigits) (digit : Nat) : Bool :=
  !d.full && decide (d.significand * 10 + digit < 0x10000000000000000)

/-- A digit before the point.  Once the significand is full, each further
digit scales the number by ten. -/
def wholeDigit (d : DecimalDigits) (digit : Nat) : DecimalDigits :=
  if d.fits digit then { d with significand := d.significand * 10 + digit }
  else { d with exponent := d.exponent + 1, full := true }

/-- A digit after the point.  Digits that do not fit are dropped. -/
def fractionDigit (d : DecimalDigits) (digit : Nat) : DecimalDigits :=
  if d.fits digit then
    { d with significand := d.significand * 10 + digit, exponent := d.exponent - 1 }
  else { d with full := true }

end DecimalDigits

namespace Number

/-- A power of ten up to `10 ^ 308`, as the nearest double. -/
def powerOfTen (k : Nat) : Float :=
  Float.ofScientific 1 false k

/-- Scale by a power of ten.  An exponent below -308 is taken in steps of that
size; no significand is left after three of them. -/
def scaleDecimal : Nat -> Float -> Int -> Option Float
  | steps, x, exponent =>
      if exponent.natAbs ≤ 308 then
        if 0 ≤ exponent then
          let scaled := x * powerOfTen exponent.toNat
          if (ofFloat scaled).isInfinite then none else some scaled
        else
          some (x / powerOfTen exponent.natAbs)
      else if x == 0 then
        some x
      else if 0 ≤ exponent then
        none
      else
        match steps with
        | 0 => some 0
        | steps + 1 => scaleDecimal steps (x / powerOfTen 308) (exponent + 308)

/-- The double that a decimal literal stands for, unless it is too large. -/
def ofDigits? (negative : Bool) (d : DecimalDigits) : Option Number :=
  (scaleDecimal 3 (UInt64.ofNat d.significand).toFloat d.exponent).map fun x =>
    ofFloat (if negative then -x else x)

end Number

end RecordIndex
