import SemanticLayer.Proofs.Plan.Meaning

/-!
Filters on texts. The value of such a filter is put into a pattern as it is, so the filter finds the
texts that its name says just where no character of the value has a meaning in patterns.
-/

namespace SemanticLayer

/-- Whether a character has a meaning in patterns. -/
def isWild (c : Char) : Bool :=
  c == '%' || c == '_' || c == '\\'

theorem isWild_eq_false {c : Char} : isWild c = false ↔ c ≠ '%' ∧ c ≠ '_' ∧ c ≠ '\\' := by
  simp [isWild, and_assoc]

/-! ### Patterns without wild characters -/

namespace Dialect

variable {dialect : Dialect} {pattern v s : List Char}

theorem fits_nil : dialect.fits [] s = true ↔ s = [] := by
  rw [fits, List.isEmpty_iff]

theorem fits_percent : dialect.fits ('%' :: pattern) s = true ↔
    ∃ rest, rest <:+ s ∧ dialect.fits pattern rest = true := by
  simp only [fits, List.any_eq_true, List.mem_tails]

theorem fits_percent_nil : dialect.fits ['%'] s = true :=
  fits_percent.2 ⟨[], List.nil_suffix, rfl⟩

theorem fits_cons {c : Char} (h : isWild c = false) : dialect.fits (c :: pattern) s = true ↔
    ∃ d rest, s = d :: rest ∧ dialect.fold d = dialect.fold c ∧
      dialect.fits pattern rest = true := by
  obtain ⟨hpercent, hunderscore, hbackslash⟩ := isWild_eq_false.1 h
  cases s with
  | nil => simp [fits, hbackslash]
  | cons d rest =>
    have hfits : dialect.fits (c :: pattern) (d :: rest) =
        (dialect.fold c == dialect.fold d && dialect.fits pattern rest) := by
      simp [fits, hbackslash]
    rw [hfits, Bool.and_eq_true, beq_iff_eq]
    constructor
    · rintro ⟨hfold, hrest⟩
      exact ⟨d, rest, rfl, hfold.symm, hrest⟩
    · rintro ⟨_, _, hs, hfold, hrest⟩
      obtain ⟨rfl, rfl⟩ := List.cons.inj hs
      exact ⟨hfold.symm, hrest⟩

/-- A pattern that starts with characters without a meaning fits the texts that start with them. -/
theorem fits_append (h : ∀ c ∈ v, isWild c = false) : dialect.fits (v ++ pattern) s = true ↔
    ∃ w rest, s = w ++ rest ∧ w.map dialect.fold = v.map dialect.fold ∧
      dialect.fits pattern rest = true := by
  induction v generalizing s with
  | nil => simp
  | cons c v ih =>
    rw [List.forall_mem_cons] at h
    rw [List.cons_append, fits_cons h.1]
    constructor
    · rintro ⟨d, rest, rfl, hfold, hrest⟩
      obtain ⟨w, rest, rfl, hw, hrest⟩ := (ih h.2).1 hrest
      exact ⟨d :: w, rest, rfl, by rw [List.map_cons, List.map_cons, hfold, hw], hrest⟩
    · rintro ⟨w, rest, rfl, hw, hrest⟩
      obtain ⟨d, w, rfl, hfold, hw⟩ := List.map_eq_cons_iff.1 hw
      exact ⟨d, w ++ rest, rfl, hfold, (ih h.2).2 ⟨w, rest, rfl, hw, hrest⟩⟩

theorem fits_start (h : ∀ c ∈ v, isWild c = false) : dialect.fits (v ++ ['%']) s = true ↔
    v.map dialect.fold <+: s.map dialect.fold := by
  rw [fits_append h]
  constructor
  · rintro ⟨w, rest, rfl, hw, -⟩
    rw [List.map_append, hw]
    exact List.prefix_append _ _
  · rintro ⟨rest, hrest⟩
    obtain ⟨w, more, rfl, hw, -⟩ := List.map_eq_append_iff.1 hrest.symm
    exact ⟨w, more, rfl, hw, fits_percent_nil⟩

theorem suffix_map {α β : Type} {f : α → β} {l : List β} {s : List α} :
    l <:+ s.map f ↔ ∃ rest, rest <:+ s ∧ rest.map f = l := by
  constructor
  · rintro ⟨before, h⟩
    obtain ⟨w, rest, rfl, -, hrest⟩ := List.map_eq_append_iff.1 h.symm
    exact ⟨rest, List.suffix_append _ _, hrest⟩
  · rintro ⟨rest, hrest, rfl⟩
    exact hrest.map f

theorem fits_end (h : ∀ c ∈ v, isWild c = false) : dialect.fits ('%' :: v) s = true ↔
    v.map dialect.fold <:+ s.map dialect.fold := by
  rw [fits_percent, suffix_map]
  refine exists_congr fun rest => and_congr_right fun _ => ?_
  have hv : dialect.fits (v ++ []) rest = true ↔ ∃ w more, rest = w ++ more ∧
      w.map dialect.fold = v.map dialect.fold ∧ dialect.fits [] more = true := fits_append h
  rw [List.append_nil] at hv
  simp [hv, fits_nil]

theorem fits_within (h : ∀ c ∈ v, isWild c = false) :
    dialect.fits ('%' :: (v ++ ['%'])) s = true ↔
      v.map dialect.fold <:+: s.map dialect.fold := by
  rw [fits_percent, List.infix_iff_prefix_suffix]
  constructor
  · rintro ⟨rest, hrest, hfits⟩
    exact ⟨_, (fits_start h).1 hfits, hrest.map _⟩
  · rintro ⟨l, hprefix, hsuffix⟩
    obtain ⟨rest, hrest, rfl⟩ := suffix_map.1 hsuffix
    exact ⟨rest, hrest, (fits_start h).2 hprefix⟩

end Dialect

/-! ### Patterns with wild characters -/

/-- A text that fits the pattern and is no longer than it, where percent signs stand for nothing. A
backslash at the end is read with a percent sign behind it. -/
def plainest : List Char → List Char
  | [] => []
  | '%' :: v => plainest v
  | '_' :: v => 'a' :: plainest v
  | ['\\'] => ['%']
  | '\\' :: c :: v => c :: plainest v
  | c :: v => c :: plainest v

/-- Induction over what a pattern is made of. -/
@[elab_as_elim]
theorem pattern_induction {motive : List Char → Prop} (nil : motive [])
    (percent : ∀ v, motive v → motive ('%' :: v))
    (underscore : ∀ v, motive v → motive ('_' :: v))
    (backslash : motive ['\\'])
    (escaped : ∀ c v, motive v → motive ('\\' :: c :: v))
    (plain : ∀ c v, isWild c = false → motive v → motive (c :: v)) (v : List Char) : motive v := by
  induction v using plainest.induct with
  | case1 => exact nil
  | case2 v ih => exact percent v ih
  | case3 v ih => exact underscore v ih
  | case4 => exact backslash
  | case5 c v ih => exact escaped c v ih
  | case6 c v hpercent hunderscore hlast hescaped ih =>
    have hbackslash : c ≠ '\\' := by
      rintro rfl
      cases v with
      | nil => exact hlast rfl rfl
      | cons d v => exact hescaped d v rfl rfl
    exact plain c v (isWild_eq_false.2 ⟨hpercent, hunderscore, hbackslash⟩) ih

theorem plainest_cons {c : Char} (h : isWild c = false) (v : List Char) :
    plainest (c :: v) = c :: plainest v := by
  obtain ⟨hpercent, hunderscore, hbackslash⟩ := isWild_eq_false.1 h
  simp [plainest, hbackslash]

theorem length_plainest_le (v : List Char) : (plainest v).length ≤ v.length := by
  induction v using pattern_induction with
  | nil | backslash => rfl
  | percent v ih | underscore v ih | escaped c v ih =>
    simp only [plainest, List.length_cons]
    omega
  | plain c v h ih =>
    rw [plainest_cons h]
    exact Nat.succ_le_succ ih

namespace Dialect

variable {dialect : Dialect} {v : List Char}

/-- A text is as the value itself only where the value has no wild character. -/
theorem not_wild_of_plainest (h : (plainest v).map dialect.fold = v.map dialect.fold) :
    ∀ c ∈ v, isWild c = false := by
  have hlength := congrArg List.length h
  rw [List.length_map, List.length_map] at hlength
  induction v using pattern_induction with
  | nil => simp
  | percent v =>
    have := length_plainest_le v
    simp only [plainest, List.length_cons] at hlength
    omega
  | underscore v =>
    have hfold : dialect.fold 'a' = dialect.fold '_' := (List.cons.inj h).1
    cases dialect <;> exact absurd hfold (by decide)
  | backslash =>
    have hfold : dialect.fold '%' = dialect.fold '\\' := (List.cons.inj h).1
    cases dialect <;> exact absurd hfold (by decide)
  | escaped c v =>
    have := length_plainest_le v
    simp only [plainest, List.length_cons] at hlength
    omega
  | plain c v hc ih =>
    rw [plainest_cons hc] at h hlength
    rw [List.forall_mem_cons]
    exact ⟨hc, ih (List.cons.inj h).2 (Nat.succ.inj hlength)⟩

theorem fits_plainest (v : List Char) : dialect.fits (v ++ ['%']) (plainest v) = true := by
  induction v using pattern_induction with
  | nil => exact fits_percent_nil
  | percent v ih => exact fits_percent.2 ⟨_, List.suffix_rfl, ih⟩
  | underscore v ih => exact ih
  | backslash => simp [fits, plainest]
  | escaped c v ih => simpa [fits, plainest] using ih
  | plain c v hc ih =>
    rw [plainest_cons hc]
    exact (fits_cons hc).2 ⟨c, _, rfl, rfl, ih⟩

/-- Without a percent sign behind it, a value may be a pattern that nothing fits. -/
theorem fits_plainest_or_never (dialect : Dialect) (v : List Char) :
    dialect.fits v (plainest v) = true ∨ ∀ s, ¬ dialect.fits v s = true := by
  induction v using pattern_induction with
  | nil => exact .inl rfl
  | percent v ih =>
    refine ih.imp (fun h => fits_percent.2 ⟨_, List.suffix_rfl, h⟩) fun h s hs => ?_
    obtain ⟨rest, -, hrest⟩ := fits_percent.1 hs
    exact h rest hrest
  | underscore v ih =>
    refine ih.imp id fun h s hs => ?_
    cases s with
    | nil => simp [fits] at hs
    | cons d rest => exact h rest hs
  | backslash => exact .inr fun s hs => by simp [fits] at hs
  | escaped c v ih =>
    refine ih.imp (fun h => by simpa [fits, plainest] using h) fun h s hs => ?_
    cases s with
    | nil => simp [fits] at hs
    | cons d rest =>
      simp only [fits, Bool.and_eq_true] at hs
      exact h rest hs.2
  | plain c v hc ih =>
    rw [plainest_cons hc]
    refine ih.imp (fun h => (fits_cons hc).2 ⟨c, _, rfl, rfl, h⟩) fun h s hs => ?_
    obtain ⟨d, rest, -, -, hrest⟩ := (fits_cons hc).1 hs
    exact h rest hrest

/-- Where a text that fits is no longer than the value and yet has the value in it, it is as the
value, and the value has no wild character. -/
theorem not_wild_of_infix (h : v.map dialect.fold <:+: (plainest v).map dialect.fold) :
    ∀ c ∈ v, isWild c = false := by
  have hlength : ((plainest v).map dialect.fold).length ≤ (v.map dialect.fold).length := by
    simpa using length_plainest_le v
  exact not_wild_of_plainest (h.eq_of_length_le hlength).symm

theorem fits_start_iff (dialect : Dialect) (v : List Char) :
    (∀ s, dialect.fits (v ++ ['%']) s = true ↔ v.map dialect.fold <+: s.map dialect.fold) ↔
      ∀ c ∈ v, isWild c = false := by
  constructor
  · intro h
    exact not_wild_of_infix ((h _).1 (fits_plainest v)).isInfix
  · exact fun h s => fits_start h

theorem fits_within_iff (dialect : Dialect) (v : List Char) :
    (∀ s, dialect.fits ('%' :: (v ++ ['%'])) s = true ↔
        v.map dialect.fold <:+: s.map dialect.fold) ↔
      ∀ c ∈ v, isWild c = false := by
  constructor
  · intro h
    exact not_wild_of_infix ((h _).1 (fits_percent.2 ⟨_, List.suffix_rfl, fits_plainest v⟩))
  · exact fun h s => fits_within h

theorem fits_end_iff (dialect : Dialect) (v : List Char) :
    (∀ s, dialect.fits ('%' :: v) s = true ↔ v.map dialect.fold <:+ s.map dialect.fold) ↔
      ∀ c ∈ v, isWild c = false := by
  constructor
  · intro h
    rcases fits_plainest_or_never dialect v with hfits | hnever
    · exact not_wild_of_infix
        ((h _).1 (fits_percent.2 ⟨_, List.suffix_rfl, hfits⟩)).isInfix
    · -- The value itself ends with the value, but does not fit.
      obtain ⟨rest, -, hrest⟩ := fits_percent.1 ((h v).2 List.suffix_rfl)
      exact absurd hrest (hnever rest)
  · exact fun h s => fits_end h

end Dialect

/-! ### Filters -/

namespace FilterOperator

/-- What the name of a filter says about its value and a text, letter case aside where patterns do
not tell it. -/
def Says (dialect : Dialect) (v s : String) : FilterOperator → Prop
  | .contains => v.toList.map dialect.fold <:+: s.toList.map dialect.fold
  | .startsWith => v.toList.map dialect.fold <+: s.toList.map dialect.fold
  | .endsWith => v.toList.map dialect.fold <:+ s.toList.map dialect.fold
  | _ => False

end FilterOperator

namespace FilterItem

variable {dialect : Dialect} {column : String} {item : FilterItem} {v : String}
  {x : Option StoredValue}

theorem truth?_like {negated : Bool} {pattern : String}
    (h : item.condition = .ok (.like negated pattern)) :
    item.truth? dialect column x =
      some (if negated then (dialect.like x pattern).not else dialect.like x pattern) := by
  rw [truth?_of_condition h (.inr (by simp [Condition.values, isWritable])), clauseTruth?_like]

theorem passes_like {pattern : String} {value : StoredValue}
    (h : item.condition = .ok (.like false pattern)) :
    item.Passes dialect column (some value) ↔
      dialect.fits pattern.toList value.text.toList = true := by
  rw [Passes, truth?_like h]
  simp [Dialect.like, Truth.ofBool_eq_holds]

theorem passes_contains {value : StoredValue} :
    (item.asks .contains (.text v)).Passes dialect column (some value) ↔
      dialect.fits ('%' :: (v.toList ++ ['%'])) value.text.toList = true := by
  have hcondition : (item.asks .contains (.text v)).condition =
      .ok (.like false ("%" ++ v ++ "%")) := rfl
  rw [passes_like hcondition]
  simp

theorem passes_startsWith {value : StoredValue} :
    (item.asks .startsWith (.text v)).Passes dialect column (some value) ↔
      dialect.fits (v.toList ++ ['%']) value.text.toList = true := by
  have hcondition : (item.asks .startsWith (.text v)).condition = .ok (.like false (v ++ "%")) :=
    rfl
  rw [passes_like hcondition]
  simp

theorem passes_endsWith {value : StoredValue} :
    (item.asks .endsWith (.text v)).Passes dialect column (some value) ↔
      dialect.fits ('%' :: v.toList) value.text.toList = true := by
  have hcondition : (item.asks .endsWith (.text v)).condition = .ok (.like false ("%" ++ v)) := rfl
  rw [passes_like hcondition]
  simp

theorem truth?_notContains : (item.asks .notContains (.text v)).truth? dialect column x =
    ((item.asks .contains (.text v)).truth? dialect column x).map Truth.not := by
  have hcontains : (item.asks .contains (.text v)).condition =
      .ok (.like false ("%" ++ v ++ "%")) := rfl
  have hnotContains : (item.asks .notContains (.text v)).condition =
      .ok (.like true ("%" ++ v ++ "%")) := rfl
  rw [truth?_like hcontains, truth?_like hnotContains]
  rfl

/-- A filter is as its name says: it keeps a row with a text just where its name says so. -/
def MeansItsName (dialect : Dialect) (column : String) (item : FilterItem)
    (operator : FilterOperator) (v : String) : Prop :=
  ∀ value : StoredValue, (item.asks operator (.text v)).Passes dialect column (some value) ↔
    operator.Says dialect v value.text

/-- All texts are texts of stored values. -/
theorem forall_text {p : List Char → Prop} :
    (∀ value : StoredValue, p value.text.toList) ↔ ∀ s, p s := by
  constructor
  · intro h s
    have htext := h (.of (.text (.ofList s)))
    rwa [StoredValue.of, Json.plain, String.toList_ofList] at htext
  · exact fun h value => h _

theorem contains_meansItsName_iff : item.MeansItsName dialect column .contains v ↔
    ∀ c ∈ v.toList, isWild c = false := by
  rw [← Dialect.fits_within_iff dialect v.toList, ← forall_text]
  exact forall_congr' fun value => iff_congr passes_contains Iff.rfl

theorem startsWith_meansItsName_iff : item.MeansItsName dialect column .startsWith v ↔
    ∀ c ∈ v.toList, isWild c = false := by
  rw [← Dialect.fits_start_iff dialect v.toList, ← forall_text]
  exact forall_congr' fun value => iff_congr passes_startsWith Iff.rfl

theorem endsWith_meansItsName_iff : item.MeansItsName dialect column .endsWith v ↔
    ∀ c ∈ v.toList, isWild c = false := by
  rw [← Dialect.fits_end_iff dialect v.toList, ← forall_text]
  exact forall_congr' fun value => iff_congr passes_endsWith Iff.rfl

/-- Filters for a part, for the start and for the end of a text are as their names say for just the
values without a wild character. The filter for texts without a part is always the negation of that
for texts with it. -/
theorem textFilters_mean_iff (dialect : Dialect) (column : String) (item : FilterItem)
    (v : String) :
    (∀ operator ∈ [FilterOperator.contains, .startsWith, .endsWith],
        (item.MeansItsName dialect column operator v ↔ ∀ c ∈ v.toList, isWild c = false)) ∧
      ∀ x, (item.asks .notContains (.text v)).truth? dialect column x =
        ((item.asks .contains (.text v)).truth? dialect column x).map Truth.not := by
  refine ⟨?_, fun x => truth?_notContains⟩
  simp only [List.forall_mem_cons]
  exact ⟨contains_meansItsName_iff, startsWith_meansItsName_iff, endsWith_meansItsName_iff, nofun⟩

/-- A filter on the discounts of orders. -/
def ofDiscounts : FilterItem :=
  ⟨⟨"orders", "discount", none⟩, .contains, .text "50%", .null, .and⟩

/-- The percent sign of the value stands for any run of characters. -/
theorem contains_not_meansItsName :
    ¬ ofDiscounts.MeansItsName .postgres "t1.discount" .contains "50%" := by
  intro hmeans
  have hpasses : (ofDiscounts.asks .contains (.text "50%")).Passes .postgres "t1.discount"
      (some (.of (.text "1500"))) := by
    decide +kernel
  exact absurd ((hmeans _).1 hpasses) (by unfold FilterOperator.Says; decide +kernel)

end FilterItem

end SemanticLayer
