import Mathlib.Data.List.DropRight
import Mathlib.Data.String.Basic
import SemanticLayer.Text.Blank
import SemanticLayer.Text.Case

/-!
Lower case is reached in one step: none of the small letters of the table is a capital letter of it,
so a text in lower case stays as it is. Letter case has nothing to do with blanks, so a text without
blanks at its start has none there in lower case either.
-/

namespace SemanticLayer.Text

/-! ### The table of small letters -/

theorem toNat_ofNat {code : Nat} (h : code.isValidChar) : (Char.ofNat code).toNat = code := by
  rw [Char.ofNat, dif_pos h]
  rfl

theorem CaseRun.exists_of_find? {runs : Array CaseRun} {code other : Nat}
    (h : CaseRun.find? runs code = some other) :
    ∃ run ∈ runs.toList, run.first ≤ code ∧ code ≤ run.last ∧
      (code - run.first) % run.step = 0 ∧ other = run.target + (code - run.first) := by
  obtain ⟨run, hrun, hother⟩ := Option.bind_eq_some_iff.1 h
  split at hother
  · rename_i hcode
    simp only [Bool.and_eq_true, decide_eq_true_eq, beq_iff_eq] at hcode
    exact ⟨run, Array.mem_toList_iff.2 (Array.mem_of_getElem? hrun), hcode.1.1, hcode.1.2, hcode.2,
      (Option.some.inj hother).symm⟩
  · cases hother

/-- No target of one run is a source of the other: one lies behind the other, or they take turns.
Written with the operations that are evaluated fastest, since all pairs of runs are gone through. -/
def CaseRun.isApart (run other : CaseRun) : Bool :=
  (run.target + (run.last - run.first)).blt other.first || other.last.blt run.target ||
    ((run.step.beq 2 || run.first.beq run.last) && other.step.beq 2 &&
      ((run.target + other.first) % 2).beq 1)

theorem CaseRun.not_source_of_isApart {run other : CaseRun} (h : run.isApart other = true)
    {code small : Nat} (hfirst : run.first ≤ code) (hlast : code ≤ run.last)
    (hstep : (code - run.first) % run.step = 0) (hsmall : small = run.target + (code - run.first))
    (hsource : other.first ≤ small ∧ small ≤ other.last) :
    (small - other.first) % other.step ≠ 0 := by
  simp only [isApart, Bool.or_eq_true, Bool.and_eq_true, Nat.blt_eq, Nat.beq_eq] at h
  rcases h with (hbefore | hafter) | ⟨⟨hturns, hother⟩, hodd⟩
  · omega
  · omega
  · rw [hother]
    rcases hturns with hturns | hsingle
    · rw [hturns] at hstep
      omega
    · omega

theorem smallLetters_isApart :
    (smallLetters.toList.all fun run => smallLetters.toList.all run.isApart) = true := by
  decide +kernel

/-- The small letters are characters outside the first 128 and never the dotted capital; only the
kelvin sign goes to a letter of the basic alphabet. -/
theorem smallLetters_targets :
    ∀ run ∈ smallLetters.toList,
      (run.target = 107 ∧ run.first = 8490 ∧ run.last = 8490 ∨
        128 ≤ run.target ∧ (run.target + (run.last - run.first) < 304 ∨ 304 < run.target)) ∧
      (run.target + (run.last - run.first) < 0xd800 ∨
        0xdfff < run.target ∧ run.target + (run.last - run.first) < 0x110000) := by
  decide +kernel

/-- No run leads to a blank. -/
theorem smallLetters_not_blank :
    ∀ run ∈ smallLetters.toList,
      ∀ blanks ∈ [(9, 13), (28, 32), (133, 133), (160, 160), (5760, 5760), (8192, 8202),
        (8232, 8233), (8239, 8239), (8287, 8287), (12288, 12288)],
      run.target + (run.last - run.first) < blanks.1 ∨ blanks.2 < run.target := by
  decide +kernel

/-! ### Small characters -/

/-- The character is its own lower case. -/
def IsSmall (c : Char) : Prop := lowerChar c = [c]

instance : DecidablePred IsSmall := fun c => inferInstanceAs (Decidable (lowerChar c = [c]))

theorem IsSmall.ne_sigma {c : Char} (h : IsSmall c) : (c.toNat == 931) = false := by
  rw [beq_eq_false_iff_ne]
  intro hcode
  obtain rfl : c = Char.ofNat 931 := by rw [← hcode, Char.ofNat_toNat]
  exact absurd h (by decide +kernel)

theorem isSmall_of_find? {c : Char} (hwide : 128 ≤ c.toNat) (hdotted : c.toNat ≠ 304)
    (hfind : CaseRun.find? smallLetters c.toNat = none) : IsSmall c := by
  rw [IsSmall, lowerChar, if_neg (by omega), if_neg (by simpa using hdotted), hfind]
  rfl

theorem isSmall_toLower {c : Char} (h : c.toNat < 128) : IsSmall c.toLower := by
  have hall : ∀ code : Fin 128, lowerChar (Char.ofNat code.val).toLower =
      [(Char.ofNat code.val).toLower] := by
    decide +kernel
  have hcode := hall ⟨c.toNat, h⟩
  rwa [Char.ofNat_toNat] at hcode

theorem isValidChar_of_find? {code small : Nat}
    (h : CaseRun.find? smallLetters code = some small) : small.isValidChar := by
  obtain ⟨run, hrun, hfirst, hlast, -, hsmall⟩ := CaseRun.exists_of_find? h
  obtain ⟨-, hvalid⟩ := smallLetters_targets run hrun
  unfold Nat.isValidChar
  omega

/-- The small letter that a letter goes to goes to no other. -/
theorem isSmall_of_find?_eq_some {code small : Nat}
    (h : CaseRun.find? smallLetters code = some small) : IsSmall (Char.ofNat small) := by
  obtain ⟨run, hrun, hfirst, hlast, hstep, hsmall⟩ := CaseRun.exists_of_find? h
  obtain ⟨htarget, -⟩ := smallLetters_targets run hrun
  have hcode : (Char.ofNat small).toNat = small := toNat_ofNat (isValidChar_of_find? h)
  rcases htarget with ⟨hkelvin, hfirst, hlast⟩ | ⟨hwide, hdotted⟩
  · obtain rfl : small = 107 := by omega
    decide +kernel
  · refine isSmall_of_find? (by omega) (by omega) ?_
    rw [hcode, Option.eq_none_iff_forall_ne_some]
    intro other hother
    obtain ⟨next, hnext, hfrom, hto, hsource, -⟩ := CaseRun.exists_of_find? hother
    have hapart : run.isApart next = true :=
      List.all_eq_true.1 (List.all_eq_true.1 smallLetters_isApart run hrun) next hnext
    exact CaseRun.not_source_of_isApart hapart hfirst hlast hstep hsmall ⟨hfrom, hto⟩ hsource

/-- What the lower case of a character consists of: the small letter of a letter of the first 128
or of the table, the two characters of the dotted capital, or the character itself. -/
theorem mem_lowerChar_cases {c d : Char} (h : d ∈ lowerChar c) :
    (c.toNat < 128 ∧ d = c.toLower) ∨
      (c.toNat = 304 ∧ d ∈ ['i', Char.ofNat 775]) ∨
      (128 ≤ c.toNat ∧ c.toNat ≠ 304 ∧ CaseRun.find? smallLetters c.toNat = none ∧ d = c) ∨
      ∃ small, CaseRun.find? smallLetters c.toNat = some small ∧ d = Char.ofNat small := by
  by_cases hnarrow : c.toNat < 128
  · rw [lowerChar, if_pos hnarrow, List.mem_singleton] at h
    exact .inl ⟨hnarrow, h⟩
  · by_cases hdotted : c.toNat = 304
    · rw [lowerChar, if_neg hnarrow, if_pos (by simpa using hdotted)] at h
      exact .inr (.inl ⟨hdotted, h⟩)
    · rw [lowerChar, if_neg hnarrow, if_neg (by simpa using hdotted), List.mem_singleton] at h
      cases hfind : CaseRun.find? smallLetters c.toNat with
      | none =>
        rw [hfind] at h
        exact .inr (.inr (.inl ⟨by omega, hdotted, rfl, h⟩))
      | some small =>
        rw [hfind] at h
        exact .inr (.inr (.inr ⟨small, rfl, h⟩))

theorem isSmall_of_mem_lowerChar {c d : Char} (h : d ∈ lowerChar c) : IsSmall d := by
  rcases mem_lowerChar_cases h with
    ⟨hnarrow, rfl⟩ | ⟨-, hd⟩ | ⟨hwide, hdotted, hfind, rfl⟩ | ⟨small, hfind, rfl⟩
  · exact isSmall_toLower hnarrow
  · rcases List.mem_pair.1 hd with rfl | rfl
    · decide +kernel
    · decide +kernel
  · exact isSmall_of_find? hwide hdotted hfind
  · exact isSmall_of_find?_eq_some hfind

/-! ### Blanks -/

theorem not_isBlank_of_find?_eq_some {code small : Nat}
    (h : CaseRun.find? smallLetters code = some small) : isBlank (Char.ofNat small) = false := by
  obtain ⟨run, hrun, hfirst, hlast, -, hsmall⟩ := CaseRun.exists_of_find? h
  have hcode : (Char.ofNat small).toNat = small := toNat_ofNat (isValidChar_of_find? h)
  have hblanks := smallLetters_not_blank run hrun
  simp only [List.forall_mem_cons, List.not_mem_nil, false_implies, implies_true,
    and_true] at hblanks
  rw [← Bool.not_eq_true, isBlank, hcode]
  simp only [Bool.or_eq_true, Bool.and_eq_true, decide_eq_true_eq, beq_iff_eq]
  omega

theorem not_isBlank_of_mem_lowerChar {c d : Char} (h : d ∈ lowerChar c)
    (hc : isBlank c = false) : isBlank d = false := by
  rcases mem_lowerChar_cases h with
    ⟨hnarrow, rfl⟩ | ⟨-, hd⟩ | ⟨-, -, -, rfl⟩ | ⟨small, hfind, rfl⟩
  · have hall : ∀ code : Fin 128,
        isBlank (Char.ofNat code.val).toLower = isBlank (Char.ofNat code.val) := by
      decide +kernel
    have hcode := hall ⟨c.toNat, hnarrow⟩
    rwa [Char.ofNat_toNat, hc] at hcode
  · rcases List.mem_pair.1 hd with rfl | rfl
    · decide
    · decide
  · exact hc
  · exact not_isBlank_of_find?_eq_some hfind

theorem lowerChar_ne_nil (c : Char) : lowerChar c ≠ [] := by
  unfold lowerChar
  split
  · exact List.cons_ne_nil _ _
  · split <;> exact List.cons_ne_nil _ _

/-- A text without a blank at its start has none there in lower case. -/
theorem not_isBlank_of_mem_head?_lowerFrom {before cs : List Char}
    (h : ∀ c ∈ cs.head?, isBlank c = false) :
    ∀ d ∈ (lowerFrom before cs).head?, isBlank d = false := by
  cases cs with
  | nil => intro d hd; cases hd
  | cons c rest =>
    intro d hd
    have hc : isBlank c = false := h c rfl
    rw [lowerFrom] at hd
    split at hd
    · have hsigmas : ∀ code ∈ [962, 963], isBlank (Char.ofNat code) = false := by decide
      obtain rfl := Option.mem_some_iff.1 hd
      split
      · exact hsigmas 962 (by decide)
      · exact hsigmas 963 (by decide)
    · rw [List.head?_append_of_ne_nil _ (lowerChar_ne_nil c)] at hd
      exact not_isBlank_of_mem_lowerChar (List.mem_of_mem_head? hd) hc

theorem not_isBlank_of_mem_head?_trimChars {cs : List Char} :
    ∀ c ∈ (trimChars cs).head?, isBlank c = false := by
  intro c hc
  obtain ⟨tail, htail⟩ := List.head?_eq_some_iff.1 hc
  obtain ⟨rest, hrest⟩ : trimChars cs <+: cs.dropWhile isBlank := List.rdropWhile_prefix isBlank _
  have hhead := List.head?_dropWhile_not isBlank cs
  rwa [← hrest, htail] at hhead

theorem not_isBlank_of_mem_getLast?_trimChars {cs : List Char} :
    ∀ c ∈ (trimChars cs).getLast?, isBlank c = false := by
  intro c hc
  have hlast := List.rdropWhile_last_not isBlank (cs.dropWhile isBlank)
  obtain ⟨hne, rfl⟩ := List.mem_getLast?_eq_getLast hc
  exact Bool.eq_false_iff.2 (hlast hne)

/-- A text with no blank at its start or its end is trimmed. -/
theorem trimChars_eq_self {cs : List Char} (hhead : ∀ c ∈ cs.head?, isBlank c = false)
    (hlast : ∀ c ∈ cs.getLast?, isBlank c = false) : trimChars cs = cs := by
  have hstart : cs.dropWhile isBlank = cs := by
    cases cs with
    | nil => rfl
    | cons c rest => exact List.dropWhile_cons_of_neg (by rw [hhead c rfl]; decide)
  rw [trimChars, hstart]
  change cs.rdropWhile isBlank = cs
  rw [List.rdropWhile_eq_self_iff]
  intro hne
  rw [hlast _ (List.getLast?_eq_some_getLast hne)]
  decide

/-! ### Texts in lower case -/

theorem isSmall_of_mem_lowerFrom {before cs : List Char} {d : Char}
    (h : d ∈ lowerFrom before cs) : IsSmall d := by
  induction cs generalizing before with
  | nil => cases h
  | cons c rest ih =>
    rw [lowerFrom] at h
    rcases List.mem_append.1 h with h | h
    · split at h
      · have hsigmas : ∀ code ∈ [962, 963], IsSmall (Char.ofNat code) := by
          decide +kernel
        obtain rfl := List.mem_singleton.1 h
        split
        · exact hsigmas 962 (by decide)
        · exact hsigmas 963 (by decide)
      · exact isSmall_of_mem_lowerChar h
    · exact ih h

theorem lowerFrom_of_isSmall (before : List Char) {cs : List Char} (h : ∀ c ∈ cs, IsSmall c) :
    lowerFrom before cs = cs := by
  induction cs generalizing before with
  | nil => rfl
  | cons c rest ih =>
    obtain ⟨hc, hrest⟩ := List.forall_mem_cons.1 h
    rw [lowerFrom, hc.ne_sigma, ih _ hrest]
    exact congrArg (· ++ rest) hc

theorem isSmall_of_mem_lower {s : String} {d : Char} (h : d ∈ (lower s).toList) : IsSmall d := by
  rw [lower, String.toList_ofList] at h
  exact isSmall_of_mem_lowerFrom h

/-- A text in lower case stays as it is. -/
theorem lower_of_isSmall {s : String} (h : ∀ c ∈ s.toList, IsSmall c) : lower s = s := by
  rw [lower, lowerFrom_of_isSmall [] h, String.ofList_toList]

theorem lower_lower (s : String) : lower (lower s) = lower s :=
  lower_of_isSmall fun _ h => isSmall_of_mem_lower h

end SemanticLayer.Text
