/-!
The powers of two and of ten, and the binary number nearest to a fraction. A fraction is scaled by a
power of two to have 53 binary digits before the point and rounded there, a half going to the even
neighbour; below the range of normal numbers fewer digits are kept.
-/

namespace SemanticLayer.Decimal

def twoTo (exponent : Nat) : Nat := Nat.pow 2 exponent

def tenTo (exponent : Nat) : Nat := Nat.pow 10 exponent

/-- The quotient to the nearest whole number, a half to the even neighbour. -/
def roundHalfEven (numerator denominator : Nat) : Nat :=
  let quotient := numerator / denominator
  let twice := 2 * (numerator % denominator)
  if twice < denominator then quotient
  else if denominator < twice then quotient + 1
  else quotient + quotient % 2

/-- The fraction times a power of two, as numerator and denominator. -/
def scaleByTwo (numerator denominator : Nat) (power : Int) : Nat × Nat :=
  (numerator * twoTo power.toNat, denominator * twoTo (-power).toNat)

/-- The bits of the binary number nearest to a positive fraction. -/
def nearestBits (numerator denominator : Nat) : UInt64 :=
  let estimate : Int := numerator.log2 - denominator.log2 - 52
  let (top, bottom) := scaleByTwo numerator denominator (-estimate)
  let exponent := max (if top / bottom < twoTo 52 then estimate - 1 else estimate) (-1074)
  let (top, bottom) := scaleByTwo numerator denominator (-exponent)
  let mantissa := roundHalfEven top bottom
  let (mantissa, exponent) :=
    if mantissa = twoTo 53 then (twoTo 52, exponent + 1) else (mantissa, exponent)
  if 971 < exponent then (0x7ff0000000000000 : UInt64)
  else if mantissa < twoTo 52 then mantissa.toUInt64
  else (((exponent + 1075).toNat - 1) * twoTo 52 + mantissa).toUInt64

/-- The binary number nearest to a fraction; out of range it is infinite. -/
def nearest (negative : Bool) (numerator denominator : Nat) : Float :=
  let sign : UInt64 := if negative then 0x8000000000000000 else 0
  if numerator = 0 then Float.ofBits sign
  else Float.ofBits (sign ||| nearestBits numerator denominator)

/-- The quotient of two numbers of which the second is not zero. -/
def ratio (numerator denominator : Nat) : Float :=
  nearest false numerator denominator

/-- The binary number nearest to a whole number; out of range it is infinite. -/
def ofInt (n : Int) : Float :=
  nearest (n < 0) n.natAbs 1

/-- A rounded quotient lies within half a unit of the exact one. -/
theorem roundHalfEven_near (numerator denominator : Nat) (h : 0 < denominator) :
    2 * (roundHalfEven numerator denominator * denominator) ≤ 2 * numerator + denominator ∧
      2 * numerator ≤ 2 * (roundHalfEven numerator denominator * denominator) + denominator := by
  have split := Nat.div_add_mod numerator denominator
  have small := Nat.mod_lt numerator h
  have swap : numerator / denominator * denominator = denominator * (numerator / denominator) :=
    Nat.mul_comm ..
  simp only [roundHalfEven]
  split
  · omega
  · split
    · rw [Nat.add_mul]; omega
    · rcases Nat.mod_two_eq_zero_or_one (numerator / denominator) with even | odd
      · rw [even, Nat.add_zero]; omega
      · rw [odd, Nat.add_mul]; omega

end SemanticLayer.Decimal
