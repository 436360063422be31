import Mathlib.Data.List.TakeWhile
import Mathlib.Tactic.SplitIfs
import SemanticLayer.Inference.Name
import SemanticLayer.Proofs.Text.Case

/-!
Names that normalising leaves as they are, and the two spellings of a table's name. A name that
counts as a singular has one other spelling, with the plural ending that its own ending asks for,
and the spellings of this plural lead back to the name. Only a name in `u` is not found again: its
plural ends in `us` and so counts as a singular itself.
-/

namespace SemanticLayer

open Text

/-! ### Normalised names -/

theorem insideMarks_of_getLast? {opening closing : Char} {cs : List Char}
    (h : cs.getLast? ≠ some closing) : insideMarks opening closing cs = cs := by
  rw [insideMarks, if_neg]
  simp [h]

/-- The name is in lower case and has no blank at its start. Normalising a name leaves nothing else,
though there may still be a blank or a mark at the end. -/
structure BeginsNormal (name : String) : Prop where
  head : ∀ c ∈ name.toList.head?, isBlank c = false
  small : ∀ c ∈ name.toList, IsSmall c

namespace BeginsNormal

variable {name stem ending : String}

theorem of_normalizeName (name : String) : BeginsNormal (normalizeName name) where
  head := by
    rw [normalizeName, trim, lower, String.toList_ofList, String.toList_ofList]
    exact not_isBlank_of_mem_head?_lowerFrom not_isBlank_of_mem_head?_trimChars
  small := fun _ h => isSmall_of_mem_lower h

theorem append (hstem : BeginsNormal stem) (hending : BeginsNormal ending) :
    BeginsNormal (stem ++ ending) where
  head := by
    rw [String.toList_append, List.head?_append]
    intro c hc
    rcases Option.or_eq_some_iff.1 hc with hc | ⟨-, hc⟩
    · exact hstem.head c hc
    · exact hending.head c hc
  small := by
    rw [String.toList_append, List.forall_mem_append]
    exact ⟨hstem.small, hending.small⟩

theorem of_append (h : BeginsNormal (stem ++ ending)) : BeginsNormal stem where
  head := by
    intro c hc
    apply h.head c
    rw [String.toList_append, List.head?_append]
    exact Option.or_eq_some_iff.2 (.inl hc)
  small := by
    have hsmall := h.small
    rw [String.toList_append, List.forall_mem_append] at hsmall
    exact hsmall.1

/-- Normalising leaves a name as it is if no blank and no mark stands at its end either. -/
theorem normalizeName_eq_self (h : BeginsNormal name) {last : Char}
    (hlast : name.toList.getLast? = some last) (hblank : isBlank last = false)
    (hmark : last ∉ ['\x60', '"', ']']) : normalizeName name = name := by
  have htrimmed : trimChars name.toList = name.toList := by
    refine trimChars_eq_self h.head ?_
    intro c hc
    rw [hlast] at hc
    rwa [← Option.some.inj hc]
  have hmarks {closing : Char} (hclosing : closing ∈ ['\x60', '"', ']']) :
      name.toList.getLast? ≠ some closing := by
    rw [hlast]
    exact fun heq => hmark (Option.some.inj heq ▸ hclosing)
  rw [normalizeName, htrimmed, insideMarks_of_getLast? (hmarks (by decide)),
    insideMarks_of_getLast? (hmarks (by decide)), insideMarks_of_getLast? (hmarks (by decide)),
    trim, String.toList_ofList, htrimmed, String.ofList_toList, lower_of_isSmall h.small]

end BeginsNormal

/-- A name that has been normalised stays as it is if it ends like an identifier. -/
theorem normalizeName_normalizeName {name : String}
    (h : (normalizeName name).toList.getLast? = some 'd') :
    normalizeName (normalizeName name) = normalizeName name :=
  (BeginsNormal.of_normalizeName name).normalizeName_eq_self h (by decide) (by decide)

/-- The endings that make plurals and names of identifiers. -/
def nameEndings : List String := ["s", "es", "ies", "_id", "_uuid"]

theorem normalizeName_append {stem ending : String} (hstem : BeginsNormal stem)
    (hending : ending ∈ nameEndings) : normalizeName (stem ++ ending) = stem ++ ending := by
  have hall : ∀ ending ∈ nameEndings, ending.toList ≠ [] ∧ ending.toList.Forall fun c =>
      isBlank c = false ∧ c ∉ ['\x60', '"', ']'] ∧ IsSmall c := by
    decide +kernel
  obtain ⟨hne, hchars⟩ := hall ending hending
  rw [List.forall_iff_forall_mem] at hchars
  have hbegins : BeginsNormal ending :=
    ⟨fun c hc => (hchars c (List.mem_of_mem_head? hc)).1, fun c hc => (hchars c hc).2.2⟩
  obtain ⟨hblank, hmark, -⟩ := hchars _ (List.getLast_mem hne)
  refine (hstem.append hbegins).normalizeName_eq_self ?_ hblank hmark
  rw [String.toList_append, List.getLast?_append, List.getLast?_eq_some_getLast hne]
  rfl

/-! ### Spellings -/

/-- The name of a table as it is compared: it is normalised, and no qualifier stands before it. -/
structure IsBareName (name : String) : Prop where
  normal : normalizeName name = name
  undotted : '.' ∉ name.toList

theorem IsBareName.beginsNormal {name : String} (h : IsBareName name) : BeginsNormal name :=
  h.normal ▸ BeginsNormal.of_normalizeName name

theorem IsBareName.tableSpellings_eq {name : String} (h : IsBareName name) (hne : name ≠ "") :
    tableSpellings name = name :: numberForms name := by
  have hwhole : afterLast '.' name = name := by
    rw [afterLast, List.takeWhile_eq_self_iff.2, List.reverse_reverse, String.ofList_toList]
    intro c hc
    rw [bne_iff_ne]
    rintro rfl
    exact h.undotted (List.mem_reverse.1 hc)
  rw [tableSpellings, h.normal, hwhole]
  exact if_neg (by simpa using hne)

theorem exists_stem_of_endsWithConsonantY {text : String} (h : endsWithConsonantY text = true) :
    ∃ stem, stem ≠ "" ∧ text = stem ++ "y" := by
  unfold endsWithConsonantY at h
  split at h
  · rename_i before rest hreverse
    refine ⟨String.ofList (before :: rest).reverse, ?_, ?_⟩
    · rw [Ne, ← String.toList_inj, String.toList_ofList]
      simp
    · rw [← String.toList_inj, String.toList_append, String.toList_ofList,
        ← List.reverse_reverse text.toList, hreverse, List.reverse_cons]
      rfl
  · cases h

/-- A name that counts as a singular: an `s` at its end follows another `s` or a `u`. -/
def IsSingular (base : String) : Prop :=
  endsWith base "s" = false ∨ endsWith base "ss" = true ∨ endsWith base "us" = true

instance (base : String) : Decidable (IsSingular base) :=
  inferInstanceAs (Decidable (_ ∨ _))

/-- How a singular becomes a plural, by its ending. -/
inductive PluralForm : String → String → Prop
  | es {base ending : String} (hbase : endsWith base ending = true)
      (hending : ending ∈ ["ss", "us", "x", "z", "ch", "sh"]) : PluralForm base (base ++ "es")
  | ies {stem : String} (hstem : stem ≠ "") : PluralForm (stem ++ "y") (stem ++ "ies")
  | s {base : String} (hbase : endsWith base "s" = false) : PluralForm base (base ++ "s")

section Plurals

variable {base plural : String}

theorem IsSingular.not_endsWith_es (h : IsSingular base) : endsWith base "es" = false := by
  rcases h with h | h | h
  · rw [← Bool.not_eq_true] at h ⊢
    exact fun hes => h (endsWith_trans hes (by decide))
  · exact not_endsWith_of_endsWith h (by decide) (by decide)
  · exact not_endsWith_of_endsWith h (by decide) (by decide)

/-- None of the rules that look for a plural applies to a singular, so the one spelling that is
added is its plural. -/
theorem IsSingular.numberForms_eq (h : IsSingular base) :
    ∃ plural, numberForms base = [plural] ∧ PluralForm base plural := by
  have hplural : ∀ ending ∈ ["ies", "ses", "xes", "zes", "ches", "shes"],
      endsWith base ending = false := by
    intro ending hending
    have hall : ∀ ending ∈ ["ies", "ses", "xes", "zes", "ches", "shes"],
        endsWith ending "es" = true := by
      decide
    rw [← Bool.not_eq_true]
    intro hbase
    exact absurd (endsWith_trans hbase (hall ending hending)) (by simp [h.not_endsWith_es])
  obtain ⟨hies, hothers⟩ := List.forall_mem_cons.1 hplural
  have hany : ["ses", "xes", "zes", "ches", "shes"].any (endsWith base) = false :=
    List.any_eq_false.2 fun ending hending => by rw [hothers ending hending]; decide
  rw [numberForms, hies, hany]
  simp only [Bool.false_and, Bool.false_eq_true, if_false, List.nil_append]
  split_ifs with hhiss hs hy hsibilant
  · rcases Bool.or_eq_true_iff.1 hhiss with hhiss | hhiss
    · exact ⟨_, rfl, .es hhiss (by decide)⟩
    · exact ⟨_, rfl, .es hhiss (by decide)⟩
  · rw [Bool.or_eq_true_iff] at hhiss
    exact absurd h (not_or.2 ⟨by simp [hs], hhiss⟩)
  · obtain ⟨stem, hstem, rfl⟩ := exists_stem_of_endsWithConsonantY hy
    have hdrop : dropLast (stem ++ "y") 1 = stem := dropLast_append stem "y" rfl
    exact ⟨stem ++ "ies", by rw [hdrop], .ies hstem⟩
  · obtain ⟨ending, hending, hbase⟩ := List.any_eq_true.1 hsibilant
    exact ⟨_, rfl, .es hbase (List.mem_cons_of_mem _ (List.mem_cons_of_mem _ hending))⟩
  · exact ⟨_, rfl, .s (Bool.eq_false_iff.2 hs)⟩

namespace PluralForm

theorem length_lt (h : PluralForm base plural) : base.length < plural.length := by
  cases h with
  | es =>
    rw [String.length_append]
    exact Nat.lt_add_of_pos_right (by decide)
  | ies =>
    rw [String.length_append, String.length_append]
    exact Nat.add_lt_add_left (by decide) _
  | s =>
    rw [String.length_append]
    exact Nat.lt_add_of_pos_right (by decide)

/-- A singular in `ss` or `us` gets `es`. -/
theorem eq_append_es (h : PluralForm base plural) (hs : endsWith base "s" = true) :
    plural = base ++ "es" := by
  cases h with
  | es => rfl
  | @ies stem hstem =>
    have hy : endsWith (stem ++ "y") "s" = false :=
      not_endsWith_of_endsWith (endsWith_append stem "y") (by decide) (by decide)
    rw [hy] at hs
    cases hs
  | s hbase =>
    rw [hbase] at hs
    cases hs

/-- A plural ends in `s`, and no dot comes in. -/
theorem isBareName (h : PluralForm base plural) (hname : IsBareName base) :
    IsBareName plural := by
  have hending : ∃ stem, ∃ ending ∈ nameEndings, plural = stem ++ ending ∧ BeginsNormal stem ∧
      '.' ∉ stem.toList := by
    cases h with
    | es => exact ⟨base, "es", by decide, rfl, hname.beginsNormal, hname.undotted⟩
    | @ies stem hstem =>
      refine ⟨stem, "ies", by decide, rfl, hname.beginsNormal.of_append, ?_⟩
      intro hdot
      exact hname.undotted (by rw [String.toList_append]; exact List.mem_append_left _ hdot)
    | s => exact ⟨base, "s", by decide, rfl, hname.beginsNormal, hname.undotted⟩
  obtain ⟨stem, ending, hending, rfl, hstem, hdot⟩ := hending
  have hall : ∀ ending ∈ nameEndings, '.' ∉ ending.toList := by decide
  refine ⟨normalizeName_append hstem hending, ?_⟩
  rw [String.toList_append, List.mem_append]
  exact not_or.2 ⟨hdot, hall ending hending⟩

/-- The rule that made a plural is undone by one that looks for it. -/
theorem mem_numberForms (h : PluralForm base plural) (hu : endsWith base "u" = false) :
    base ∈ numberForms plural := by
  cases h with
  | @es _ ending hbase hending =>
    have hall : ∀ ending ∈ ["ss", "us", "x", "z", "ch", "sh"],
        ∃ part ∈ ["ses", "xes", "zes", "ches", "shes"], endsWith (ending ++ "es") part = true := by
      decide
    obtain ⟨part, hpart, hends⟩ := hall ending hending
    have hplural : endsWith (base ++ "es") (ending ++ "es") = true := by
      rwa [endsWith_append_append]
    have hany : ["ses", "xes", "zes", "ches", "shes"].any (endsWith (base ++ "es")) = true :=
      List.any_eq_true.2 ⟨part, hpart, endsWith_trans hplural hends⟩
    have hdrop : dropLast (base ++ "es") 2 = base := dropLast_append base "es" rfl
    rw [numberForms, if_pos hany, hdrop]
    simp
  | @ies stem hstem =>
    have hlong : 3 < (stem ++ "ies").length := by
      have hpos : stem.length ≠ 0 := by simpa using hstem
      have hies : "ies".length = 3 := rfl
      rw [String.length_append, hies]
      omega
    have hies : (endsWith (stem ++ "ies") "ies" && decide (3 < (stem ++ "ies").length)) = true := by
      rw [endsWith_append, decide_eq_true hlong, Bool.and_self]
    have hdrop : dropLast (stem ++ "ies") 3 = stem := dropLast_append stem "ies" rfl
    rw [numberForms, if_pos hies, hdrop]
    simp
  | s hbase =>
    -- The letter before the new ending is the last one of the name, neither an `s` nor a `u`.
    have hss : endsWith (base ++ "s") "ss" = false := by
      rw [← hbase]
      exact endsWith_append_append base "s" "s"
    have hus : endsWith (base ++ "s") "us" = false := by
      rw [← hu]
      exact endsWith_append_append base "u" "s"
    have hdrop : dropLast (base ++ "s") 1 = base := dropLast_append base "s" rfl
    rw [numberForms, hss, hus, Bool.or_self, if_neg Bool.false_ne_true,
      if_pos (endsWith_append base "s"), hdrop]
    simp

/-- The plural of a name in `u` counts as a singular, so what is added to it is longer still. -/
theorem not_mem_numberForms (h : PluralForm base plural) (hu : endsWith base "u" = true) :
    base ∉ numberForms plural := by
  cases h with
  | @es _ ending hbase hending =>
    have hall : ∀ ending ∈ ["ss", "us", "x", "z", "ch", "sh"],
        endsWith ending "u" = false ∧ "u".toList.length ≤ ending.toList.length := by
      decide
    obtain ⟨hending, hle⟩ := hall ending hending
    rw [not_endsWith_of_endsWith hbase hending hle] at hu
    cases hu
  | @ies stem hstem =>
    have hy : endsWith (stem ++ "y") "u" = false :=
      not_endsWith_of_endsWith (endsWith_append stem "y") (by decide) (by decide)
    rw [hy] at hu
    cases hu
  | s hbase =>
    have hus : endsWith (base ++ "s") "us" = true := by
      rw [← hu]
      exact endsWith_append_append base "u" "s"
    have hsingular : IsSingular (base ++ "s") := .inr (.inr hus)
    obtain ⟨other, hforms, hother⟩ := hsingular.numberForms_eq
    have hlt : base.length < other.length := (length_lt (.s hbase)).trans hother.length_lt
    rw [hforms, List.mem_singleton]
    rintro rfl
    exact lt_irrefl _ hlt

/-- A name is among the spellings of its plural unless it ends in `u`. -/
theorem mem_tableSpellings_iff (h : PluralForm base plural) (hname : IsBareName base) :
    base ∈ tableSpellings plural ↔ endsWith base "u" = false := by
  have hlt : base.length < plural.length := h.length_lt
  have hplural : plural ≠ "" := by
    rintro rfl
    exact Nat.not_lt_zero _ hlt
  have hne : base ≠ plural := by
    rintro rfl
    exact lt_irrefl _ hlt
  rw [(h.isBareName hname).tableSpellings_eq hplural, List.mem_cons, or_iff_right hne]
  constructor
  · intro hmem
    rw [← Bool.not_eq_true]
    exact fun hu => h.not_mem_numberForms hu hmem
  · exact h.mem_numberForms

end PluralForm

end Plurals

/-! ### Columns named after a table -/

/-- A column that is named after an identifier of a table refers to the tables of which this name is
a spelling, and to no others. -/
theorem refersTo_append_iff {base ending table : String} (hbase : BeginsNormal base)
    (hending : ending ∈ ["_id", "_uuid"]) :
    refersTo (base ++ ending) table = true ↔ base ∈ tableSpellings table := by
  have hname (spelling : String) :
      base ++ ending = spelling ++ "_id" ∨ base ++ ending = spelling ++ "_uuid" ↔
        base = spelling := by
    have hapart {one two : String} : one ++ "_id" ≠ two ++ "_uuid" := by
      intro heq
      have hid : endsWith (two ++ "_uuid") "_id" = true := heq ▸ endsWith_append one "_id"
      exact absurd (endsWith_of_length_le (endsWith_append two "_uuid") hid (by decide)) (by decide)
    rcases List.mem_pair.1 hending with rfl | rfl
    · rw [or_iff_left hapart, String.append_left_inj]
    · rw [or_iff_right (Ne.symm hapart), String.append_left_inj]
  have hmem : ending ∈ nameEndings := by
    have hall : ∀ ending ∈ ["_id", "_uuid"], ending ∈ nameEndings := by decide
    exact hall ending hending
  rw [refersTo]
  simp only [normalizeName_append hbase hmem, List.any_eq_true, Bool.or_eq_true, beq_iff_eq, hname]
  simp

/-! ### Singular and plural -/

section Singulars

variable {base plural : String}

theorem IsSingular.tableSpellings_eq (h : IsSingular base) (hname : IsBareName base)
    (hne : base ≠ "") : ∃ plural, tableSpellings base = [base, plural] ∧ PluralForm base plural := by
  obtain ⟨plural, hforms, hplural⟩ := h.numberForms_eq
  exact ⟨plural, by rw [hname.tableSpellings_eq hne, hforms], hplural⟩

/-- The other spelling of a singular is its plural. The empty name has no other spelling. -/
theorem IsSingular.pluralForm_of_mem (h : IsSingular base) (hname : IsBareName base)
    (hmem : plural ∈ tableSpellings base) (hne : plural ≠ base) : PluralForm base plural := by
  by_cases hempty : base = ""
  · subst hempty
    have hspellings : tableSpellings "" = [""] := by decide +kernel
    rw [hspellings, List.mem_singleton] at hmem
    exact absurd hmem hne
  · obtain ⟨other, hspellings, hother⟩ := h.tableSpellings_eq hname hempty
    rw [hspellings, List.mem_pair] at hmem
    rcases hmem with rfl | rfl
    · exact absurd rfl hne
    · exact hother

/-- A singular has one other spelling, its plural, and a column named after the plural refers to the
table of the singular name. The converse holds just where the name does not end in `u`: then it is a
spelling of its plural, and a column named after it refers to the table of the plural name. -/
theorem plural_finds_singular_iff (hname : IsBareName base) (hsingular : IsSingular base) :
    (base ≠ "" → ∃ plural, plural ≠ base ∧ tableSpellings base = [base, plural]) ∧
      ∀ plural ∈ tableSpellings base, plural ≠ base →
        (endsWith base "s" = true → plural = base ++ "es") ∧
        (base ∈ tableSpellings plural ↔ endsWith base "u" = false) ∧
        ∀ ending ∈ ["_id", "_uuid"],
          (refersTo (base ++ ending) plural = true ↔ endsWith base "u" = false) ∧
            refersTo (plural ++ ending) base = true := by
  constructor
  · intro hne
    obtain ⟨plural, hspellings, hplural⟩ := hsingular.tableSpellings_eq hname hne
    refine ⟨plural, ?_, hspellings⟩
    rintro rfl
    exact lt_irrefl _ hplural.length_lt
  · intro plural hmem hne
    have hplural : PluralForm base plural := hsingular.pluralForm_of_mem hname hmem hne
    have hspelt : base ∈ tableSpellings plural ↔ endsWith base "u" = false :=
      hplural.mem_tableSpellings_iff hname
    refine ⟨hplural.eq_append_es, hspelt, fun ending hending => ⟨?_, ?_⟩⟩
    · exact (refersTo_append_iff hname.beginsNormal hending).trans hspelt
    · exact (refersTo_append_iff (hplural.isBareName hname).beginsNormal hending).2 hmem

theorem plural_finds_singular_iff_category :
    (IsBareName "category" ∧ IsSingular "category" ∧
        "categories" ∈ tableSpellings "category" ∧ "categories" ≠ "category") ∧
      "category" ∈ tableSpellings "categories" ∧
      refersTo ("category" ++ "_id") "categories" = true ∧
      refersTo ("categories" ++ "_id") "category" = true := by
  have hname : IsBareName "category" := ⟨by decide +kernel, by decide⟩
  have hsingular : IsSingular "category" := by decide
  have hmem : "categories" ∈ tableSpellings "category" := by decide +kernel
  have hne : "categories" ≠ "category" := by decide
  have hu : endsWith "category" "u" = false := by decide
  obtain ⟨-, hspelt, hrefers⟩ :=
    (plural_finds_singular_iff hname hsingular).2 "categories" hmem hne
  obtain ⟨hsingularId, hpluralId⟩ := hrefers "_id" (by decide)
  exact ⟨⟨hname, hsingular, hmem, hne⟩, hspelt.2 hu, hsingularId.2 hu, hpluralId⟩

/-- A menu is not found through the table of menus. -/
theorem plural_misses_singular :
    ¬ ∀ base plural : String, IsBareName base → IsSingular base → plural ∈ tableSpellings base →
      plural ≠ base → base ∈ tableSpellings plural ∧ refersTo (base ++ "_id") plural = true ∧
        refersTo (plural ++ "_id") base = true := by
  intro h
  have hname : IsBareName "menu" := ⟨by decide +kernel, by decide⟩
  have hmem : "menus" ∈ tableSpellings "menu" := by decide +kernel
  obtain ⟨hspelt, -⟩ := h "menu" "menus" hname (by decide) hmem (by decide)
  have hspellings : tableSpellings "menus" = ["menus", "menuses"] := by decide +kernel
  rw [hspellings] at hspelt
  exact absurd hspelt (by decide)

end Singulars

end SemanticLayer
