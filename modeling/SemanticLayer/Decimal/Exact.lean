import SemanticLayer.Decimal.Rounding

/-!
Binary numbers as exact fractions, and their order.
-/

namespace SemanticLayer.Decimal

/-- The size of a finite number, as numerator and denominator. -/
def sizeFraction (x : Float) : Nat × Nat :=
  let bits := x.toBits.toNat
  let exponent := bits / twoTo 52 % twoTo 11
  let fraction := bits % twoTo 52
  let mantissa := if exponent = 0 then fraction else twoTo 52 + fraction
  scaleByTwo mantissa 1 ((max exponent 1 : Nat) - 1075)

/-- Whether the number has a minus sign. -/
def isNegative (x : Float) : Bool :=
  twoTo 63 ≤ x.toBits.toNat

/-- A whole number with the sign of another number. -/
def signed (x : Float) (size : Nat) : Int :=
  if isNegative x then -(size : Int) else size

/-- The whole number that a finite number is, if it is one. -/
def whole? (x : Float) : Option Int :=
  let (top, bottom) := sizeFraction x
  if top % bottom = 0 then some (signed x (top / bottom)) else none

/-- The nearest whole number, a half going to the even neighbour. -/
def roundToInt (x : Float) : Int :=
  let (top, bottom) := sizeFraction x
  signed x (roundHalfEven top bottom)

/-- Numbers other than undefined ones are ordered as their keys; the two zeros have the same key. -/
def orderKey (x : Float) : Int :=
  signed x (x.toBits.toNat % twoTo 63)

/-- The key of the number nearest to a positive fraction. -/
def fractionKey (numerator denominator : Nat) : Int :=
  (nearestBits numerator denominator).toNat

end SemanticLayer.Decimal
