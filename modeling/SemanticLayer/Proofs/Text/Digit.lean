import Mathlib.Algebra.Group.Nat.Defs
import Mathlib.Data.List.Pairwise
import SemanticLayer.Text.Blank
import SemanticLayer.Text.Digit
import SemanticLayer.Text.Word

/-!
Decimal digits are word characters, and blanks are none. The search in a table of changes finds the
place between the changes at or below a code point and those above it; each script's ten digits lie
between two changes of the table of letters and numerals.
-/

namespace SemanticLayer.Text

theorem isDecimalDigit_of_mem {d : Char} (h : d ∈ "0123456789".toList) :
    isDecimalDigit d = true := by
  have hdigits : "0123456789".toList.all isDecimalDigit = true := by decide
  exact List.all_eq_true.1 hdigits d h

/-- The search finds the first index whose value is above the bound. -/
theorem rankBetween_eq {value : Nat → Nat} {bound rank : Nat}
    (hbelow : ∀ i < rank, value i ≤ bound) (habove : ∀ i, rank ≤ i → bound < value i)
    {steps low high : Nat} (hlow : low ≤ rank) (hhigh : rank ≤ high) (hsteps : high - low < 2 ^ steps) :
    rankBetween value bound steps low high = rank := by
  induction steps generalizing low high with
  | zero =>
    rw [rankBetween]
    omega
  | succ steps ih =>
    rw [Nat.pow_succ] at hsteps
    rw [rankBetween]
    split
    · omega
    · dsimp only
      split
      · rename_i hmiddle
        have hlt : (low + high) / 2 < rank := by
          by_contra hge
          have hvalue := habove _ (Nat.le_of_not_lt hge)
          omega
        exact ih (by omega) hhigh (by omega)
      · rename_i hmiddle
        have hle : rank ≤ (low + high) / 2 := by
          by_contra hlt
          exact hmiddle (hbelow _ (Nat.lt_of_not_le hlt))
        exact ih hlow hle (by omega)

/-- A code point between two changes belongs to the set if an even number of changes lie before
them. -/
theorem Ranges.contains_of_between {before after : List Nat} {low high code : Nat}
    (hedges : (before ++ low :: high :: after).Pairwise (· < ·)) (heven : before.length % 2 = 0)
    (hlow : low ≤ code) (hhigh : code < high) :
    Ranges.contains ⟨(before ++ low :: high :: after).toArray⟩ code = true := by
  have hrank : rankOf (fun i => (before ++ low :: high :: after).toArray[i]?.getD code.succ) code
      (before ++ low :: high :: after).toArray.size = before.length + 1 := by
    rw [List.pairwise_append, List.pairwise_cons, List.pairwise_cons] at hedges
    obtain ⟨-, ⟨-, hafter, -⟩, hbefore⟩ := hedges
    refine rankBetween_eq (fun i hi => ?_) (fun i hi => ?_) (Nat.zero_le _) (by simp) ?_
    · simp only [List.getElem?_toArray]
      rcases Nat.lt_or_eq_of_le (Nat.le_of_lt_succ hi) with hlt | rfl
      · rw [List.getElem?_append_left hlt, List.getElem?_eq_getElem hlt, Option.getD_some]
        have hless := hbefore _ (List.getElem_mem hlt) low List.mem_cons_self
        omega
      · simpa using hlow
    · simp only [List.getElem?_toArray]
      obtain ⟨k, rfl⟩ : ∃ k, i = before.length + (k + 1) := ⟨i - before.length - 1, by omega⟩
      rw [List.getElem?_append_right (by omega), Nat.add_sub_cancel_left, List.getElem?_cons_succ]
      cases k with
      | zero => simpa using hhigh
      | succ k =>
        rw [List.getElem?_cons_succ]
        cases hk : after[k]? with
        | none => simp
        | some edge =>
          have hless := hafter edge (List.mem_of_getElem? hk)
          simp only [Option.getD_some]
          omega
    · have hsize := Nat.lt_log2_self (n := (before ++ low :: high :: after).toArray.size)
      rw [Nat.pow_succ] at hsize ⊢
      omega
  rw [Ranges.contains, hrank]
  simp only [beq_iff_eq]
  omega

/-- Neighbouring changes with an even number of changes before them enclose ten code points from each
of the starts on, which come in their order. -/
def enclosesAll : List Nat → List Nat → Bool
  | low :: high :: rest, starts =>
    ((starts.takeWhile (· < high)).all fun start => low ≤ start && start + 9 < high) &&
      enclosesAll rest (starts.dropWhile (· < high))
  | _, starts => starts.isEmpty

theorem Ranges.contains_of_enclosesAll {edges starts : List Nat} (hedges : edges.Pairwise (· < ·))
    (h : enclosesAll edges starts = true) {start code : Nat} (hstart : start ∈ starts)
    (hfirst : start ≤ code) (hlast : code < start + 10) :
    Ranges.contains ⟨edges.toArray⟩ code = true := by
  have hsplit : ∀ before : List Nat, before.length % 2 = 0 → (before ++ edges).Pairwise (· < ·) →
      Ranges.contains ⟨(before ++ edges).toArray⟩ code = true := by
    fun_induction enclosesAll edges starts with
    | case1 low high rest starts ih =>
      intro before heven hsorted
      obtain ⟨hhere, hlater⟩ := Bool.and_eq_true_iff.1 h
      rw [← List.takeWhile_append_dropWhile (p := (· < high)) (l := starts)] at hstart
      rcases List.mem_append.1 hstart with hstart | hstart
      · have hbetween := List.all_eq_true.1 hhere start hstart
        simp only [Bool.and_eq_true, decide_eq_true_eq] at hbetween
        exact contains_of_between hsorted heven (by omega) (by omega)
      · rw [List.pairwise_cons, List.pairwise_cons] at hedges
        have hfound := ih hedges.2.2 hlater hstart (before ++ [low, high])
          (by simp; omega) (by simpa using hsorted)
        simpa using hfound
    | case2 =>
      rw [List.isEmpty_iff] at h
      simp [h] at hstart
  exact hsplit [] rfl hedges

theorem zeros_enclosed : enclosesAll wideAlphanumerics.edges.toList zeros.tail = true := by
  decide +kernel

theorem wideAlphanumerics_increase : wideAlphanumerics.edges.toList.Pairwise (· < ·) := by
  rw [← List.isChain_iff_pairwise]
  decide +kernel

theorem isWord_of_isDecimalDigit {c : Char} (h : isDecimalDigit c = true) : isWord c = true := by
  unfold isDecimalDigit digitValue? at h
  split at h
  · rename_i hsmall
    split at h
    · rename_i hdigit
      rw [isWord, isAlphanumeric_of_isAlphanum c hsmall (by simp [Char.isAlphanum, hdigit]),
        Bool.or_true]
    · cases h
  · rename_i hwide
    rw [Option.isSome_map, List.find?_isSome] at h
    obtain ⟨start, hstart, hcode⟩ := h
    simp only [Bool.and_eq_true, decide_eq_true_eq] at hcode
    have hlater : start ∈ zeros.tail := by
      have hzeros : zeros = 48 :: zeros.tail := rfl
      rw [hzeros] at hstart
      rcases List.mem_cons.1 hstart with rfl | hstart
      · omega
      · exact hstart
    have hcontains := Ranges.contains_of_enclosesAll wideAlphanumerics_increase zeros_enclosed
      hlater hcode.1 hcode.2
    rw [isWord, isAlphanumeric, if_neg hwide, ← Bool.or_false (wideAlphanumerics.contains _)]
    simp only [Bool.or_eq_true]
    exact .inr (.inl hcontains)

theorem isWord_of_isBlank {c : Char} (h : isBlank c = true) : isWord c = false := by
  have hall : ∀ code ∈ (List.range' 9 5 ++ List.range' 28 5 ++ List.range' 8192 11 ++
      [133, 160, 5760, 8232, 8233, 8239, 8287, 12288]), isWord (Char.ofNat code) = false := by
    decide +kernel
  have hcode := hall c.toNat (by
    simp only [isBlank, Bool.or_eq_true, Bool.and_eq_true, decide_eq_true_eq, beq_iff_eq] at h
    simp only [List.mem_append, List.mem_range'_1, List.mem_cons, List.not_mem_nil, or_false]
    omega)
  rwa [Char.ofNat_toNat] at hcode

theorem not_isBlank_of_isDecimalDigit {c : Char} (h : isDecimalDigit c = true) :
    isBlank c = false := by
  rw [← Bool.not_eq_true]
  intro hblank
  have hword := isWord_of_isDecimalDigit h
  rw [isWord_of_isBlank hblank] at hword
  cases hword

/-- Digits have code points of their own, apart from those of the letters that names start with. -/
theorem toNat_of_isDecimalDigit {c : Char} (h : isDecimalDigit c = true) :
    48 ≤ c.toNat ∧ c.toNat ≤ 57 ∨ 1632 ≤ c.toNat ∧ c.toNat ≠ 8490 ∧ c.toNat ≠ 8491 := by
  unfold isDecimalDigit digitValue? at h
  split at h
  · split at h
    · rename_i hdigit
      simp only [Char.isDigit, Bool.and_eq_true, decide_eq_true_eq, ge_iff_le,
        UInt32.le_iff_toNat_le] at hdigit
      exact .inl hdigit
    · cases h
  · rename_i hwide
    rw [Option.isSome_map, List.find?_isSome] at h
    obtain ⟨start, hstart, hcode⟩ := h
    simp only [Bool.and_eq_true, decide_eq_true_eq] at hcode
    have hapart : ∀ start ∈ zeros, start = 48 ∨
        1632 ≤ start ∧ (start + 9 < 8490 ∨ 8491 < start) := by decide +kernel
    have hplace := hapart start hstart
    omega

end SemanticLayer.Text
