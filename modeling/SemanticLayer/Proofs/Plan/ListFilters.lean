import SemanticLayer.Proofs.Plan.Meaning

/-!
Filters on lists of values beside filters on single values. A single value that stands for no value
asks whether the column has one; in a list it is compared like any other. So the two agree just
where no such value is listed.
-/

namespace SemanticLayer

/-! ### Values of columns -/

theorem sameValue_self_of_nullLike {v : Json} (h : isNullLike v = true) (hnull : v.isNull = false) :
    sameValue v v = true := by
  cases v with
  | null => cases hnull
  | float x =>
    have hnan : x.isNaN = true := h
    rw [sameValue, if_pos hnan, hnan]
  | text s => exact beq_self_eq_true s
  | bool _ | int _ | list _ | object _ => cases h

theorem nullLike_of_same {v w : Json} (h : isNullLike v = true) (hsame : sameValue v w = true) :
    isNullLike w = true := by
  cases v with
  | null => cases w <;> cases hsame
  | bool _ | int _ | list _ | object _ => cases h
  | float x =>
    cases w with
    | float y =>
      have hnan : x.isNaN = true := h
      rwa [sameValue, if_pos hnan] at hsame
    | _ => cases hsame
  | text s =>
    cases w with
    | text t =>
      obtain rfl : s = t := beq_iff_eq.1 hsame
      exact h
    | _ => cases hsame

namespace StoredValue

variable {v w : Json}

/-- Where a value that stands for no value is held, it is not found to differ. -/
theorem same_of_self_ne (h : isNullLike v = true) : (of v).same v ≠ .fails := by
  unfold of
  cases hnull : v.isNull with
  | true => simp [hnull]
  | false => simp [hnull, sameValue_self_of_nullLike h hnull, Truth.ofBool]

/-- Every value that does stand for one is found to differ from it. -/
theorem same_of_eq_fails (hv : isNullLike v = true) (hw : isNullLike w = false) :
    (of v).same w = .fails := by
  have hnull : w.isNull = false := by
    cases w with
    | null => cases hw
    | _ => rfl
  have hdiffer : sameValue v w = false := by
    rw [← Bool.not_eq_true]
    intro hsame
    rw [nullLike_of_same hv hsame] at hw
    cases hw
  simp [of, hnull, hdiffer, Truth.ofBool]

end StoredValue

/-! ### Single values and lists -/

namespace FilterItem

variable {dialect : Dialect} {column : String} {item : FilterItem} {x : Option StoredValue}
  {v : Json} {values : List Json}

/-- A comparison with a value that stands for no value asks whether the column has one. -/
theorem truth?_equality {negated : Bool} (h : item.condition = .ok (equality negated v))
    (htakes : dialect.Takes [v]) :
    item.truth? dialect column x =
      some (if isNullLike v then .ofBool (x.isSome == negated)
        else if negated then (equalTo x v).not else equalTo x v) := by
  unfold equality at h
  cases hnull : isNullLike v <;> cases negated <;> rw [hnull] at h
  · rw [truth?_of_condition h htakes, clauseTruth?_equal]
    rfl
  · rw [truth?_of_condition h htakes, clauseTruth?_notEqual]
    rfl
  · rw [truth?_of_condition h (.inr nofun), clauseTruth?_isNull]
    cases x <;> rfl
  · rw [truth?_of_condition h (.inr nofun), clauseTruth?_isNotNull]
    cases x <;> rfl

theorem passes_equals (h : dialect.Takes [v]) :
    (item.asks .equals v).Passes dialect column x ↔
      if isNullLike v then x = none else equalTo x v = .holds := by
  have hcondition : (item.asks .equals v).condition = .ok (equality false v) := rfl
  rw [Passes, truth?_equality hcondition h]
  cases isNullLike v <;> simp [Truth.ofBool_eq_holds]

theorem passes_notEquals (h : dialect.Takes [v]) :
    (item.asks .notEquals v).Passes dialect column x ↔
      if isNullLike v then x ≠ none else equalTo x v = .fails := by
  have hcondition : (item.asks .notEquals v).condition = .ok (equality true v) := rfl
  rw [Passes, truth?_equality hcondition h]
  cases isNullLike v <;>
    simp [Truth.ofBool_eq_holds, Truth.not_eq_holds, Option.isSome_iff_ne_none]

theorem passes_isIn (h : dialect.Takes values) :
    (item.asks .isIn (.list values)).Passes dialect column x ↔
      ∃ v ∈ values, equalTo x v = .holds := by
  have hcondition : (item.asks .isIn (.list values)).condition = .ok (.among false values) := rfl
  rw [Passes, truth?_of_condition hcondition h, clauseTruth?_among,
    if_neg Bool.false_ne_true, Option.some.injEq, Truth.any_eq_holds, List.mem_map]

theorem passes_notIn (h : dialect.Takes values) :
    (item.asks .notIn (.list values)).Passes dialect column x ↔
      ∀ v ∈ values, equalTo x v = .fails := by
  have hcondition : (item.asks .notIn (.list values)).condition = .ok (.among true values) := rfl
  rw [Passes, truth?_of_condition hcondition h, clauseTruth?_among, if_pos rfl,
    Option.some.injEq, Truth.not_eq_holds, Truth.any_eq_fails, List.forall_mem_map]

/-- For each row: a list keeps it just if a single one of the values does. -/
def ListAgrees (dialect : Dialect) (column : String) (item : FilterItem) (values : List Json) :
    Prop :=
  ∀ x, (item.asks .isIn (.list values)).Passes dialect column x ↔
    ∃ v ∈ values, (item.asks .equals v).Passes dialect column x

/-- For each row: the negation of a list keeps it just if that of every single value does. -/
def NegatedListAgrees (dialect : Dialect) (column : String) (item : FilterItem)
    (values : List Json) : Prop :=
  ∀ x, (item.asks .notIn (.list values)).Passes dialect column x ↔
    ∀ v ∈ values, (item.asks .notEquals v).Passes dialect column x

theorem listAgrees_iff (h : dialect.Takes values) :
    item.ListAgrees dialect column values ↔ ∀ v ∈ values, isNullLike v = false := by
  constructor
  · -- A row without a value passes a single filter for such a value, but no list.
    intro hagrees v hv
    rw [← Bool.not_eq_true]
    intro hnull
    have hpasses : (item.asks .equals v).Passes dialect column none := by
      rw [passes_equals (h.single hv), if_pos hnull]
    obtain ⟨w, -, hw⟩ := (passes_isIn h).1 ((hagrees none).2 ⟨v, hv, hpasses⟩)
    cases hw
  · intro hvalues x
    rw [passes_isIn h]
    refine exists_congr fun v => and_congr_right fun hv => ?_
    rw [passes_equals (h.single hv), hvalues v hv, if_neg Bool.false_ne_true]

theorem negatedListAgrees_iff (h : dialect.Takes values) :
    item.NegatedListAgrees dialect column values ↔ ∀ v ∈ values, isNullLike v = false := by
  constructor
  · -- A row that holds such a value passes all single filters, but not the list.
    intro hagrees v hv
    rw [← Bool.not_eq_true]
    intro hnull
    have hpasses : ∀ w ∈ values,
        (item.asks .notEquals w).Passes dialect column (some (.of v)) := by
      intro w hw
      rw [passes_notEquals (h.single hw)]
      cases hother : isNullLike w with
      | true => simp
      | false => simpa [equalTo] using StoredValue.same_of_eq_fails hnull hother
    exact StoredValue.same_of_self_ne hnull
      ((passes_notIn h).1 ((hagrees _).2 hpasses) v hv)
  · intro hvalues x
    rw [passes_notIn h]
    refine forall₂_congr fun v hv => ?_
    rw [passes_notEquals (h.single hv), hvalues v hv, if_neg Bool.false_ne_true]

/-- A list agrees with its values, each asked for alone, just if none of them stands for no value;
and so does its negation. -/
theorem lists_agree_iff (dialect : Dialect) (column : String) (item : FilterItem)
    {values : List Json} (h : dialect.Takes values) :
    (item.ListAgrees dialect column values ↔ ∀ v ∈ values, isNullLike v = false) ∧
      (item.NegatedListAgrees dialect column values ↔ ∀ v ∈ values, isNullLike v = false) :=
  ⟨listAgrees_iff h, negatedListAgrees_iff h⟩

/-- A filter on the states of orders. -/
def ofStates : FilterItem :=
  ⟨⟨"orders", "state", none⟩, .equals, .text "new", .null, .and⟩

theorem lists_agree_iff_states :
    Dialect.Takes .bigQuery [.text "new", .text "(blank)", .int 7] ∧
      (ofStates.ListAgrees .bigQuery "t1.state" [.text "new", .text "(blank)", .int 7] ↔
        ∀ v ∈ [.text "new", .text "(blank)", .int 7], isNullLike v = false) ∧
      (ofStates.NegatedListAgrees .bigQuery "t1.state" [.text "new", .text "(blank)", .int 7] ↔
        ∀ v ∈ [.text "new", .text "(blank)", .int 7], isNullLike v = false) := by
  have h : Dialect.Takes .bigQuery [.text "new", .text "(blank)", .int 7] := by
    refine .inr ?_
    decide +kernel
  exact ⟨h, lists_agree_iff .bigQuery "t1.state" ofStates h⟩

/-- Where null is listed, the list does not find the rows without a value, and its negation finds
no row at all. -/
theorem lists_disagree_on_null :
    ¬ ofStates.ListAgrees .postgres "t1.state" [.null] ∧
      ¬ ofStates.NegatedListAgrees .postgres "t1.state" [.text "paid", .null] := by
  constructor
  · intro hagrees
    have hlist : (ofStates.asks .isIn (.list [.null])).Passes .postgres "t1.state" none :=
      (hagrees none).2 ⟨.null, by simp, by decide +kernel⟩
    exact absurd hlist (by decide +kernel)
  · intro hagrees
    have hlist : (ofStates.asks .notIn (.list [.text "paid", .null])).Passes .postgres "t1.state"
        (some (.of (.text "new"))) :=
      (hagrees _).2 (by decide +kernel)
    exact absurd hlist (by decide +kernel)

end FilterItem

end SemanticLayer
