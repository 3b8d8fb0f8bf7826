import ForestQuery.Binary64.Rounding
import ForestQuery.Decimal.Digits

/-!
# Decimal numbers

A decimal number is a sign, a whole number of digits and a power of ten. `Decimal.toBinary64` is
the number of the 64-bit format nearest to it.
-/

namespace ForestQuery

/-- The number `± significand * 10 ^ exponent`. -/
structure Decimal where
  /-- Whether the number is written with a minus. -/
  negative : Bool
  /-- The digits, read as one whole number. -/
  significand : Nat
  /-- The power of ten they count. -/
  exponent : Int
deriving DecidableEq

namespace Decimal

/-- The quotient of whole numbers that is the magnitude in units of `2 ^ -1074`. -/
def unitRatio (significand : Nat) (exponent : Int) : Nat × Nat :=
  match exponent with
  | .ofNat e => (significand * Nat.pow 10 e * unitsPerOne, 1)
  | .negSucc e => (significand * unitsPerOne, Nat.pow 10 (e + 1))

/-- The nearest number of the 64-bit format, a tie going to the even neighbour. A number whose
power of ten alone puts it far beyond either end of the format is not written out first: from
`10 ^ 401` up all is infinite, and under `10 ^ -400` all is zero. -/
def toBinary64 (d : Decimal) : Binary64 :=
  if d.significand = 0 then
    .finite (.zero d.negative)
  else if 400 < d.exponent then
    .infinite d.negative
  else if d.exponent + d.significand.log2 + 1 < -400 then
    .finite (.zero d.negative)
  else
    -- between the two ends the power of ten is small enough to write the number out
    let ratio := unitRatio d.significand d.exponent
    .ofRatio d.negative ratio.1 ratio.2

end Decimal

end ForestQuery
