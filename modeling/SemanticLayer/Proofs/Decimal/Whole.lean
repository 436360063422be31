import Mathlib.Data.Nat.Digits.Defs
import SemanticLayer.Decimal.Reading
import SemanticLayer.Proofs.Text.Case
import SemanticLayer.Proofs.Text.Digit

/-!
Whole numbers read from digits. A run of digits is read as the number it spells, unless it is too
long, and the written form of a number is a run of digits that spells it.
-/

namespace SemanticLayer.Decimal

open Text

/-! ### Reading -/

/-- The values of the digits. -/
def valuesOf (ds : List Char) : List Nat :=
  ds.filterMap digitValue?

section

variable {ds : List Char}

theorem length_valuesOf (ds : List Char) : (valuesOf ds).length = ds.countP isDecimalDigit :=
  List.length_filterMap_eq_countP

theorem readMoreDigits_of_digits (h : ∀ d ∈ ds, isDecimalDigit d = true) :
    readMoreDigits ds = (valuesOf ds, []) := by
  induction ds with
  | nil => rfl
  | cons d rest ih =>
    obtain ⟨hd, hrest⟩ := List.forall_mem_cons.1 h
    obtain ⟨value, hvalue⟩ := Option.isSome_iff_exists.1 hd
    rw [valuesOf, List.filterMap_cons_some hvalue, ← valuesOf]
    cases rest with
    | nil => simp [readMoreDigits, hvalue, valuesOf]
    | cons e rest => simp [readMoreDigits, hvalue, ih hrest]

theorem readDigitRun_of_digits (hne : ds ≠ []) (h : ∀ d ∈ ds, isDecimalDigit d = true) :
    readDigitRun ds = (valuesOf ds, []) := by
  obtain ⟨d, rest, rfl⟩ := List.exists_cons_of_ne_nil hne
  rw [readDigitRun, List.head?_cons, Option.any_some, if_pos (h d List.mem_cons_self),
    readMoreDigits_of_digits h]

/-- The sign of a whole number, as it is written. -/
def signOf (negative : Bool) : List Char :=
  if negative then ['-'] else []

theorem readSign_of_digits (negative : Bool) (hne : ds ≠ [])
    (h : ∀ d ∈ ds, isDecimalDigit d = true) : readSign (signOf negative ++ ds) = (negative, ds) := by
  cases negative with
  | true => rfl
  | false =>
    obtain ⟨d, rest, rfl⟩ := List.exists_cons_of_ne_nil hne
    have hd := h d List.mem_cons_self
    have hminus : d ≠ '-' := by
      rintro rfl
      exact absurd hd (by decide)
    have hplus : d ≠ '+' := by
      rintro rfl
      exact absurd hd (by decide)
    simp [signOf, readSign, hminus, hplus]

theorem trimChars_of_digits (negative : Bool) (h : ∀ d ∈ ds, isDecimalDigit d = true) :
    trimChars (signOf negative ++ ds) = signOf negative ++ ds := by
  have hall : ∀ c ∈ signOf negative ++ ds, isBlank c = false := by
    intro c hc
    rcases List.mem_append.1 hc with hc | hc
    · cases negative with
      | true => rw [List.mem_singleton.1 hc]; decide
      | false => cases hc
    · exact not_isBlank_of_isDecimalDigit (h c hc)
  exact trimChars_eq_self (fun c hc => hall c (List.mem_of_mem_head? hc))
    fun c hc => hall c (List.mem_of_mem_getLast? hc)

/-- The whole number that the digits of a text spell, after a minus if one stands first. -/
def spelled (text : String) : Int :=
  if text.toList.head? = some '-' then -ofDigits (valuesOf text.toList)
  else ofDigits (valuesOf text.toList)

theorem spelled_of_digits (h : ∀ d ∈ ds, isDecimalDigit d = true) :
    spelled (String.ofList ds) = ofDigits (valuesOf ds) := by
  have hminus : ds.head? ≠ some '-' := fun hhead =>
    absurd (h '-' (List.mem_of_mem_head? hhead)) (by decide)
  rw [spelled, String.toList_ofList, if_neg hminus]

theorem spelled_of_minus (ds : List Char) :
    spelled (String.ofList ('-' :: ds)) = -ofDigits (valuesOf ds) := by
  have hnone : digitValue? '-' = none := by decide
  rw [spelled, String.toList_ofList, if_pos List.head?_cons, valuesOf, List.filterMap_cons_none hnone,
    valuesOf]

/-- A run of digits after an optional minus is the whole number that it spells, unless it is too
long. -/
theorem readInt_of_digits (negative : Bool) (hne : ds ≠ [])
    (h : ∀ d ∈ ds, isDecimalDigit d = true) :
    readInt (String.ofList (signOf negative ++ ds)) =
      if digitLimit < ds.length then .error (.tooLong ds.length)
      else .ok (spelled (String.ofList (signOf negative ++ ds))) := by
  have hspelled : spelled (String.ofList (signOf negative ++ ds)) =
      if negative then -(ofDigits (valuesOf ds) : Int) else ofDigits (valuesOf ds) := by
    cases negative with
    | true => exact spelled_of_minus ds
    | false => exact spelled_of_digits h
  have hlength : (valuesOf ds).length = ds.length := by
    rw [length_valuesOf, List.countP_eq_length.2 h]
  have hvalues : valuesOf ds ≠ [] := by
    rw [← List.length_pos_iff, hlength]
    exact List.length_pos_iff.2 hne
  rw [hspelled, readInt, String.toList_ofList, trimChars_of_digits negative h,
    readSign_of_digits negative hne h]
  dsimp only
  rw [readDigitRun_of_digits hne h, ← hlength]
  obtain ⟨value, values, hcons⟩ := List.exists_cons_of_ne_nil hvalues
  rw [hcons]

end

/-- Further digits make a number no smaller. -/
theorem ofDigits_le_append (values more : List Nat) : ofDigits values ≤ ofDigits (values ++ more) := by
  have hgrow : ∀ n : Nat, n ≤ more.foldl (fun n value => 10 * n + value) n := by
    induction more with
    | nil => exact fun n => Nat.le_refl n
    | cons value more ih =>
      intro n
      have hmore := ih (10 * n + value)
      rw [List.foldl_cons]
      omega
  rw [ofDigits, ofDigits, List.foldl_append]
  exact hgrow _

/-! ### Writing -/

theorem toList_toString (n : Nat) : (toString n).toList = Nat.toDigits 10 n := Nat.toList_repr

theorem mem_toString {n : Nat} {c : Char} (h : c ∈ (toString n).toList) :
    c ∈ "0123456789".toList := by
  rw [toList_toString] at h
  have hdigit := Nat.isDigit_of_mem_toDigits (by decide) (by decide) h
  have hall : ∀ k < 10, Char.ofNat (48 + k) ∈ "0123456789".toList := by decide
  simp only [Char.isDigit, Bool.and_eq_true, decide_eq_true_eq, ge_iff_le,
    UInt32.le_iff_toNat_le] at hdigit
  change 48 ≤ c.toNat ∧ c.toNat ≤ 57 at hdigit
  have hmem := hall (c.toNat - 48) (by omega)
  rwa [Nat.add_sub_cancel' hdigit.1, Char.ofNat_toNat] at hmem

theorem toString_ne_nil (n : Nat) : (toString n).toList ≠ [] := by
  rw [toList_toString]
  exact Nat.toDigits_ne_nil

/-- A number other than zero is not written with a zero first. -/
theorem head?_toString {n : Nat} (h : 0 < n) : ∀ c ∈ (toString n).toList.head?, c ≠ '0' := by
  rw [toList_toString]
  induction n using Nat.strongRecOn with
  | ind n ih =>
    by_cases hn : n < 10
    · have hdigit : ∀ digit < 10, 0 < digit → (Nat.toDigits 10 digit).head? ≠ some '0' := by
        decide
      rintro c hc rfl
      exact hdigit n hn h hc
    · rw [Nat.toDigits_of_base_le (by decide) (by omega),
        List.head?_append_of_ne_nil _ Nat.toDigits_ne_nil]
      exact ih (n / 10) (by omega) (by omega)

/-- The digits of a number spell the number. -/
theorem ofDigits_toString (n : Nat) : ofDigits (valuesOf (toString n).toList) = n := by
  have hvalue : "0123456789".toList.Forall fun c => digitValue? c = some (c.toNat - '0'.toNat) := by
    decide
  have hvalues : valuesOf (toString n).toList =
      (toString n).toList.map fun c => c.toNat - '0'.toNat := by
    rw [valuesOf, ← List.filterMap_eq_map]
    exact List.filterMap_congr fun c hc =>
      List.forall_iff_forall_mem.1 hvalue c (mem_toString hc)
  rw [hvalues, ofDigits, List.foldl_map, toList_toString]
  exact Nat.ofDigitChars_toDigits (by decide) (by decide)

end SemanticLayer.Decimal
