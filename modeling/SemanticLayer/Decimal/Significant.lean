import SemanticLayer.Decimal.Exact
import SemanticLayer.Decimal.Reading
import SemanticLayer.Decimal.Shortest

/-!
Numbers written with at most fifteen significant digits, which is how a store turns them into text.
-/

namespace SemanticLayer.Decimal

/-- The number of digits. -/
def significantDigits : Nat := 15

/-- The fraction in units of ten to a power, rounded. -/
def roundAt (top bottom : Nat) (power : Int) : Nat :=
  roundHalfEven (top * tenTo (-power).toNat) (bottom * tenTo power.toNat)

/-- The greatest power of ten not above a positive fraction, looked for downwards from `power`. -/
def leadingPower (top bottom : Nat) : Nat → Int → Int
  | 0, power => power
  | steps + 1, power =>
    if bottom * tenTo power.toNat ≤ top * tenTo (-power).toNat then power
    else leadingPower top bottom steps (power - 1)

/-- The digits of a positive fraction, rounded to the number of significant digits. -/
def significant (top bottom : Nat) : Digits :=
  let power := leadingPower top bottom 700 310
  let unit := power - significantDigits + 1
  Digits.normalize 20 { digits := roundAt top bottom unit, exponent := unit }

/-- Numbers from 0.0001 up to 10^15 are written positionally; there is always a point with a digit
on either side of it. -/
def significantLayout : Layout :=
  ⟨-4, 14, 2, true⟩

/-- The text of a binary number. -/
def writeSignificant (x : Float) : String :=
  let sign := if isNegative x then "-" else ""
  let (top, bottom) := sizeFraction x
  if !isFinite x then sign ++ "Inf"
  else if top = 0 then "0.0"
  else sign ++ significantLayout.write (significant top bottom)

end SemanticLayer.Decimal
