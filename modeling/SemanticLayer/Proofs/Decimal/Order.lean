import Mathlib
import SemanticLayer.Decimal.Exact

/-!
The order of binary numbers and the order of their keys. The bits of a number, its sign apart, grow
with its size: the exponent counts before the mantissa, and no mantissa is longer than one exponent
is from the next.
-/

namespace SemanticLayer.Decimal

open Float.Model Float.Model.UnpackedFloat

/-! ### Fields -/

section

variable (bits : BitVec 64)

theorem toNat_unpackMantissa :
    (@unpackMantissa Format.binary64 bits).toNat = bits.toNat % 2 ^ 52 := by
  simp [unpackMantissa]

theorem toNat_unpackExponent :
    (@unpackExponent Format.binary64 bits).toNat = bits.toNat / 2 ^ 52 % 2 ^ 11 := by
  simp [unpackExponent, Nat.shiftRight_eq_div_pow]

theorem toNat_unpackSign :
    (@unpackSign Format.binary64 bits).toNat = bits.toNat / 2 ^ 63 := by
  have h := bits.isLt
  simp [unpackSign, Nat.shiftRight_eq_div_pow]
  omega

end

/-! ### Sizes -/

/-- The sign of a number other than an undefined one, and the whole number that its other bits
spell. -/
inductive Spells : UnpackedFloat → Sign → Nat → Prop
  | zero (sign : Sign) : Spells (.zero sign) sign 0
  | finite (sign : Sign) {mantissa size : Nat} {exponent : Int} (hpos : 0 < mantissa)
      (hleast : -1074 ≤ exponent) (hshort : mantissa < 2 ^ 53)
      (hnormal : exponent = -1074 ∨ 2 ^ 52 ≤ mantissa)
      (hsize : size = (exponent + 1074) * 2 ^ 52 + mantissa) (hfinite : size < 2047 * 2 ^ 52) :
      Spells (.finite sign mantissa exponent hpos) sign size
  | infinity (sign : Sign) : Spells (.infinity sign) sign (2047 * 2 ^ 52)

/-- What the bits of a number say, if they do not say that it is undefined. -/
theorem spells_unpack (bits : BitVec 64)
    (h : UnpackedFloat.unpack Format.binary64 bits ≠ .notANumber) :
    Spells (UnpackedFloat.unpack Format.binary64 bits)
      (.ofBitVec (@unpackSign Format.binary64 bits)) (bits.toNat % 2 ^ 63) := by
  have hmantissa := toNat_unpackMantissa bits
  have hexponent := toNat_unpackExponent bits
  have hsize : bits.toNat % 2 ^ 63 =
      (@unpackExponent Format.binary64 bits).toNat * 2 ^ 52 +
        (@unpackMantissa Format.binary64 bits).toNat := by omega
  have hshort := (@unpackMantissa Format.binary64 bits).isLt
  have hbias : Format.binary64.exponentBias = 1023 := rfl
  unfold UnpackedFloat.unpack at h ⊢
  dsimp only at h hshort ⊢
  rw [hsize]
  split_ifs at h ⊢ with hmost hzero hleast hzero
  · rw [hmost, hzero]
    exact .infinity _
  · exact absurd rfl h
  · rw [hleast, hzero]
    exact .zero _
  · have hnone : (@unpackExponent Format.binary64 bits).toNat = 0 := by
      rw [hleast]
      rfl
    rw [hnone]
    refine .finite _ _ ?_ (by omega) (.inl (by omega)) (by omega) (by omega)
    omega
  · have hsome : (@unpackExponent Format.binary64 bits).toNat ≠ 0 :=
      fun hnone => hleast (BitVec.eq_of_toNat_eq hnone)
    have hlast : (@unpackExponent Format.binary64 bits).toNat ≠ 2047 :=
      fun hall => hmost (BitVec.eq_of_toNat_eq hall)
    -- The leading digit of a number is not among its bits, unless the number is very small.
    have hlead : (1#1 ++ @unpackMantissa Format.binary64 bits).toNat =
        2 ^ 52 + (@unpackMantissa Format.binary64 bits).toNat := by
      rw [BitVec.toNat_append, ← Nat.shiftLeft_add_eq_or_of_lt hshort]
      rfl
    refine .finite _ _ (by omega) (by omega) (.inr (by omega)) ?_ (by omega)
    rw [hlead]
    omega

/-! ### Order -/

theorem apply_ofBitVec (bits : BitVec 64) (size : Nat) :
    (Sign.ofBitVec (@unpackSign Format.binary64 bits)).apply size =
      if 2 ^ 63 ≤ bits.toNat then -(size : Int) else size := by
  have hsign := toNat_unpackSign bits
  have hlt := bits.isLt
  split
  · have hone : @unpackSign Format.binary64 bits = 1#1 :=
      BitVec.eq_of_toNat_eq (hsign.trans (by simp; omega))
    rw [hone]
    rfl
  · have hzero : @unpackSign Format.binary64 bits = 0#1 :=
      BitVec.eq_of_toNat_eq (hsign.trans (by simp; omega))
    rw [hzero]
    rfl

theorem exists_spells {x : Float} (h : x.toModel.unpack ≠ .notANumber) :
    ∃ sign size, Spells x.toModel.unpack sign size ∧ orderKey x = sign.apply size := by
  refine ⟨_, _, spells_unpack _ h, ?_⟩
  rw [apply_ofBitVec, orderKey, signed, isNegative]
  simp only [decide_eq_true_eq]
  rfl

/-- The exponent counts before the mantissa. -/
theorem size_le {mantissa other size otherSize : Nat} {exponent otherExponent : Int}
    (hleast : -1074 ≤ exponent) (hshort : mantissa < 2 ^ 53)
    (hnormal : otherExponent = -1074 ∨ 2 ^ 52 ≤ other)
    (hsize : size = (exponent + 1074) * 2 ^ 52 + mantissa)
    (hother : otherSize = (otherExponent + 1074) * 2 ^ 52 + other)
    (h : ((compare exponent otherExponent).then (compare mantissa other)).isLE = true) :
    size ≤ otherSize := by
  rw [Ordering.isLE_then_iff_or, Int.compare_eq_lt, Int.compare_eq_eq, Nat.isLE_compare] at h
  omega

/-- The order of numbers of one sign is that of their sizes, or the reverse. -/
theorem Spells.key_le {one two : UnpackedFloat} {sign otherSign : Sign} {size otherSize : Nat}
    (hone : Spells one sign size) (htwo : Spells two otherSign otherSize)
    (h : one.le two = true) : sign.apply size ≤ otherSign.apply otherSize := by
  cases sign with
  | negative =>
    cases otherSign with
    | negative =>
      refine Int.neg_le_neg (Int.ofNat_le.2 ?_)
      cases hone with
      | zero => cases htwo <;> first | exact Nat.le_refl _ | cases h
      | finite _ _ hleast hshort hnormal hsize hfinite =>
        cases htwo with
        | zero => exact Nat.zero_le _
        | finite _ _ hotherLeast hotherShort _ hotherSize =>
          refine size_le hotherLeast hotherShort hnormal hotherSize hsize ?_
          rwa [← Int.compare_swap, ← Nat.compare_swap, ← Ordering.swap_then]
        | infinity => cases h
      | infinity => cases htwo <;> omega
    | positive =>
      simp only [Sign.apply]
      omega
  | positive =>
    cases otherSign with
    | negative => cases hone <;> cases htwo <;> first | exact Int.le_refl _ | cases h
    | positive =>
      refine Int.ofNat_le.2 ?_
      cases hone with
      | zero => exact Nat.zero_le _
      | finite _ _ hleast hshort _ hsize hfinite =>
        cases htwo with
        | zero => cases h
        | finite _ _ _ _ hotherNormal hotherSize =>
          exact size_le hleast hshort hotherNormal hsize hotherSize h
        | infinity => exact Nat.le_of_lt hfinite
      | infinity => cases htwo <;> first | exact Nat.le_refl _ | cases h

/-- Only numbers that are not undefined can be compared. -/
theorem unpack_of_le {x y : Float} (h : x ≤ y) :
    x.toModel.unpack ≠ .notANumber ∧ y.toModel.unpack ≠ .notANumber := by
  have hle : x.toModel.unpack.le y.toModel.unpack = true := of_decide_eq_true h
  constructor
  · intro hnan
    rw [hnan] at hle
    cases hle
  · intro hnan
    rw [hnan] at hle
    cases hx : x.toModel.unpack <;> rw [hx] at hle <;> cases hle

theorem isNaN_of_le {x y : Float} (h : x ≤ y) : x.isNaN = false ∧ y.isNaN = false := by
  have hdefined : ∀ number : UnpackedFloat, number ≠ .notANumber → number.isNaN = false := by
    intro number hnumber
    cases number with
    | notANumber => exact absurd rfl hnumber
    | infinity | zero | finite => rfl
  exact (unpack_of_le h).imp (hdefined _) (hdefined _)

/-- A number that is not greater than another one has a key that is not greater. -/
theorem orderKey_le {x y : Float} (h : x ≤ y) : orderKey x ≤ orderKey y := by
  obtain ⟨hone, htwo⟩ := unpack_of_le h
  obtain ⟨sign, size, hspells, hkey⟩ := exists_spells hone
  obtain ⟨otherSign, otherSize, hother, hotherKey⟩ := exists_spells htwo
  rw [hkey, hotherKey]
  exact hspells.key_le hother (of_decide_eq_true h)

end SemanticLayer.Decimal
