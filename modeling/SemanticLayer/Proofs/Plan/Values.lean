import SemanticLayer.Proofs.Plan.Filters
import SemanticLayer.Proofs.Plan.Template

/-!
The values of filters never shape a statement. Two requests that ask the same of other values are
planned alike: both fail in the same way, or the statements of both plans have the same fixed text
with the values of the filters at the same places.
-/

namespace SemanticLayer

/-! ### Requests that differ in their values -/

namespace FilterItem

/-- The filters ask the same, of values that may differ: but not in whether a value to be equal to
is null, in how many values a list has, and in whether an end of a range is missing. -/
structure SameButValues (left right : FilterItem) : Prop where
  column : left.toColumnRef = right.toColumnRef
  operator : left.operator = right.operator
  connective : left.connective = right.connective
  nullLike : left.operator = .equals ∨ left.operator = .notEquals →
    isNullLike left.value = isNullLike right.value
  length : left.operator = .isIn ∨ left.operator = .notIn →
    (listed left.value).length = (listed right.value).length
  missing : left.operator = .between →
    left.value.isNull = right.value.isNull ∧ left.value2.isNull = right.value2.isNull

/-- All whole numbers among the values are near to a binary number. -/
def InRange (item : FilterItem) : Prop :=
  ∀ v ∈ item.value :: item.value2 :: listed item.value, isWritable v = true

/-- The values that a filter puts into a statement: its own, or patterns made of its value. -/
def placed (item : FilterItem) : List Json :=
  match item.operator with
  | .equals | .notEquals => if isNullLike item.value then [] else [item.value]
  | .contains | .notContains => [.text ("%" ++ item.value.plain ++ "%")]
  | .startsWith => [.text (item.value.plain ++ "%")]
  | .endsWith => [.text ("%" ++ item.value.plain)]
  | .greaterThan | .greaterOrEqual | .lessThan | .lessOrEqual => [item.value]
  | .between => [item.value, item.value2]
  | .isIn | .notIn => listed item.value
  | .isNull | .isNotNull | .unsupported _ => []

variable {item left right : FilterItem}

theorem values_equality (negated : Bool) (value : Json) :
    (equality negated value).values = if isNullLike value then [] else [value] := by
  cases hnull : isNullLike value <;> cases negated <;> simp [equality, hnull, Condition.values]

/-- The values of the condition that a filter states are those that it puts into the statement. -/
theorem values_of_condition {condition : Condition} (h : item.condition = .ok condition) :
    condition.values = item.placed := by
  unfold FilterItem.condition at h
  unfold placed
  cases hoperator : item.operator with
  | equals | notEquals =>
    rw [hoperator] at h
    obtain rfl := Except.ok.inj h
    exact values_equality _ _
  | between =>
    rw [hoperator] at h
    dsimp only at h
    split at h
    · cases h
    · obtain rfl := Except.ok.inj h
      rfl
  | unsupported =>
    rw [hoperator] at h
    cases h
  | _ =>
    rw [hoperator] at h
    obtain rfl := Except.ok.inj h
    rfl

theorem values_of_term {dialect : Dialect} {entry : String × FilterItem} {term : FilterTerm}
    (h : termIn dialect entry = .ok term) : term.condition.values = entry.2.placed := by
  obtain ⟨condition, hcondition, rfl⟩ := map_eq_ok.1 h
  exact values_of_condition (conditionIn_eq_ok.1 hcondition).1

theorem values_of_terms {dialect : Dialect} {entries : List (String × FilterItem)}
    {terms : List FilterTerm}
    (h : List.Forall₂ (fun entry term => termIn dialect entry = .ok term) entries terms) :
    terms.flatMap (·.condition.values) = entries.flatMap (·.2.placed) := by
  induction h with
  | nil => rfl
  | cons hterm _ ih => rw [List.flatMap_cons, List.flatMap_cons, ih, values_of_term hterm]

theorem equality_sameShape (negated : Bool) {v w : Json} (h : isNullLike v = isNullLike w) :
    (equality negated v).SameShape (equality negated w) := by
  unfold equality
  rw [h]
  cases isNullLike w <;> cases negated
  · exact .compare _ _ _
  · exact .compare _ _ _
  · exact .isNull
  · exact .isNotNull

/-- The conditions of such filters differ in nothing but their values. -/
theorem SameButValues.condition (h : left.SameButValues right) :
    Agree Eq Condition.SameShape left.condition right.condition := by
  have hcolumn : left.column = right.column := congrArg ColumnRef.column h.column
  unfold FilterItem.condition
  rw [← h.operator]
  cases hoperator : left.operator with
  | equals => exact .ok (equality_sameShape false (h.nullLike (.inl hoperator)))
  | notEquals => exact .ok (equality_sameShape true (h.nullLike (.inr hoperator)))
  | contains => exact .ok (.like _ _ _)
  | notContains => exact .ok (.like _ _ _)
  | startsWith => exact .ok (.like _ _ _)
  | endsWith => exact .ok (.like _ _ _)
  | greaterThan => exact .ok (.compare _ _ _)
  | greaterOrEqual => exact .ok (.compare _ _ _)
  | lessThan => exact .ok (.compare _ _ _)
  | lessOrEqual => exact .ok (.compare _ _ _)
  | between =>
    obtain ⟨hlow, hhigh⟩ := h.missing hoperator
    dsimp only
    rw [hlow, hhigh, hcolumn]
    split
    · exact .error rfl
    · exact .ok (.between _ _ _ _)
  | isIn => exact .ok (.among _ (h.length (.inl hoperator)))
  | notIn => exact .ok (.among _ (h.length (.inr hoperator)))
  | isNull => exact .ok .isNull
  | isNotNull => exact .ok .isNotNull
  | unsupported => exact .error rfl

/-- What a filter puts into a statement is one of its values or a text. -/
theorem mem_placed {v : Json} (h : v ∈ item.placed) :
    v ∈ item.value :: item.value2 :: listed item.value ∨ ∃ pattern, v = .text pattern := by
  unfold placed at h
  cases hoperator : item.operator with
  | equals | notEquals =>
    rw [hoperator] at h
    dsimp only at h
    split at h
    · cases h
    · exact .inl (List.mem_singleton.1 h ▸ List.mem_cons_self)
  | contains | notContains | startsWith | endsWith =>
    rw [hoperator] at h
    exact .inr ⟨_, List.mem_singleton.1 h⟩
  | between =>
    rw [hoperator] at h
    exact .inl (List.mem_append_left (listed item.value) h)
  | isIn | notIn =>
    rw [hoperator] at h
    exact .inl (List.mem_append_right [item.value, item.value2] h)
  | isNull | isNotNull | unsupported =>
    rw [hoperator] at h
    cases h
  | _ =>
    rw [hoperator] at h
    exact .inl (List.mem_singleton.1 h ▸ List.mem_cons_self)

/-- Where all numbers are in range, every condition can be written. -/
theorem InRange.isWritable {condition : Condition} (h : item.InRange) (dialect : Dialect)
    (hcondition : item.condition = .ok condition) : condition.isWritable dialect = true := by
  rw [Condition.isWritable, Bool.or_eq_true, List.all_eq_true, values_of_condition hcondition]
  refine .inr fun v hv => ?_
  rcases mem_placed hv with hv | ⟨pattern, rfl⟩
  · exact h v hv
  · rfl

theorem SameButValues.conditionIn (h : left.SameButValues right) (dialect : Dialect)
    (hleft : left.InRange) (hright : right.InRange) :
    Agree Eq Condition.SameShape (left.conditionIn dialect) (right.conditionIn dialect) := by
  have hconditions : Agree Eq Condition.SameShape (liftM left.condition : Except Fault Condition)
      (liftM right.condition : Except Fault Condition) :=
    h.condition.lift fun _ _ => congrArg Fault.reported
  refine hconditions.bind fun condition other hcondition hother hsame => ?_
  rw [if_pos (hleft.isWritable dialect (lift_eq_ok.1 hcondition)),
    if_pos (hright.isWritable dialect (lift_eq_ok.1 hother))]
  exact .ok hsame

theorem SameButValues.length_placed (h : left.SameButValues right) :
    left.placed.length = right.placed.length := by
  unfold placed
  rw [← h.operator]
  cases hoperator : left.operator with
  | equals =>
    dsimp only
    rw [h.nullLike (.inl hoperator)]
    split <;> rfl
  | notEquals =>
    dsimp only
    rw [h.nullLike (.inr hoperator)]
    split <;> rfl
  | isIn => exact h.length (.inl hoperator)
  | notIn => exact h.length (.inr hoperator)
  | _ => rfl

theorem SameButValues.termIn {aliasName : String} (h : left.SameButValues right)
    (dialect : Dialect) (hleft : left.InRange) (hright : right.InRange) :
    Agree Eq FilterTerm.SameShape (FilterItem.termIn dialect (aliasName, left))
      (FilterItem.termIn dialect (aliasName, right)) := by
  have hconditions := h.conditionIn dialect hleft hright
  refine hconditions.map fun condition other hsame => ⟨h.connective, ?_, hsame⟩
  dsimp only
  rw [h.column]

end FilterItem

/-- The requests are the same, but for the values of their filters. -/
structure QuerySpec.SameButValues (left right : QuerySpec) : Prop where
  rest : right = { left with filters := right.filters }
  filters : List.Forall₂ FilterItem.SameButValues left.filters right.filters

/-! ### Compiled filters -/

namespace PlanContext

variable {context : PlanContext} {dialect : Dialect} {skipped : List String}
  {lefts rights items : List FilterItem}

/-- Of such filters the same are dropped. -/
theorem exists_kept (context : PlanContext) (skipped : List String)
    (h : List.Forall₂ FilterItem.SameButValues lefts rights) :
    ∃ kept : List (String × FilterItem × FilterItem),
      (kept.map Prod.snd).Sublist (lefts.zip rights) ∧
      (∀ entry ∈ kept, entry.2.1.SameButValues entry.2.2) ∧
      context.keptFilters skipped lefts = kept.map (fun entry => (entry.1, entry.2.1)) ∧
      context.keptFilters skipped rights = kept.map fun entry => (entry.1, entry.2.2) := by
  induction h with
  | nil => exact ⟨[], .slnil, by simp, rfl, rfl⟩
  | @cons left right _ _ hsame _ ih =>
    obtain ⟨kept, hsublist, hkept, hleft, hright⟩ := ih
    have halias : context.filterAlias? skipped right = context.filterAlias? skipped left := by
      rw [filterAlias?, filterAlias?, hsame.column]
    unfold keptFilters at hleft hright ⊢
    rw [List.filterMap_cons, List.filterMap_cons, halias, hleft, hright]
    cases context.filterAlias? skipped left with
    | none => exact ⟨kept, hsublist.cons _, hkept, rfl, rfl⟩
    | some aliasName =>
      refine ⟨(aliasName, left, right) :: kept, hsublist.cons_cons _, ?_, rfl, rfl⟩
      exact List.forall_mem_cons.2 ⟨hsame, hkept⟩

/-- The values of compiled filters are those that the filters put into the statement. -/
theorem values_of_filters {terms : List FilterTerm}
    (htables : ∀ item ∈ items, (context.catalog.resolve? item.tableId).isSome = true)
    (h : context.filters dialect skipped items = .ok terms) :
    terms.flatMap (·.condition.values) =
      (context.keptFilters skipped items).flatMap (·.2.placed) := by
  rw [filters_eq htables] at h
  exact FilterItem.values_of_terms (forall₂_of_mapM h)

/-- Such filters are compiled alike. -/
theorem filters_agree (h : List.Forall₂ FilterItem.SameButValues lefts rights)
    (hleft : ∀ item ∈ lefts, item.InRange) (hright : ∀ item ∈ rights, item.InRange)
    (htables : ∀ item ∈ lefts, (context.catalog.resolve? item.tableId).isSome = true)
    (hothers : ∀ item ∈ rights, (context.catalog.resolve? item.tableId).isSome = true) :
    Agree Eq (List.Forall₂ FilterTerm.SameShape) (context.filters dialect skipped lefts)
      (context.filters dialect skipped rights) := by
  obtain ⟨kept, hsublist, hkept, hlefts, hrights⟩ := exists_kept context skipped h
  have hrelated : List.Forall₂ (fun entry other => entry.1 = other.1 ∧
      entry.2.SameButValues other.2 ∧ entry.2.InRange ∧ other.2.InRange)
      (kept.map fun entry => (entry.1, entry.2.1))
      (kept.map fun entry => (entry.1, entry.2.2)) := by
    rw [List.forall₂_map_left_iff, List.forall₂_map_right_iff, List.forall₂_same]
    intro entry hentry
    obtain ⟨hl, hr⟩ := List.of_mem_zip (hsublist.subset (List.mem_map_of_mem hentry))
    exact ⟨rfl, hkept entry hentry, hleft _ hl, hright _ hr⟩
  rw [filters_eq htables, filters_eq hothers, hlefts, hrights]
  refine Agree.mapM hrelated ?_
  rintro ⟨aliasName, item⟩ ⟨_, other⟩ ⟨rfl, hsame, hl, hr⟩
  exact hsame.termIn dialect hl hr

/-- The values of such filters come from the same ones of them, at the same places. -/
theorem exists_placed {terms others : List FilterTerm}
    (h : List.Forall₂ FilterItem.SameButValues lefts rights)
    (htables : ∀ item ∈ lefts, (context.catalog.resolve? item.tableId).isSome = true)
    (htablesToo : ∀ item ∈ rights, (context.catalog.resolve? item.tableId).isSome = true)
    (hterms : context.filters dialect skipped lefts = .ok terms)
    (hothers : context.filters dialect skipped rights = .ok others) :
    ∃ kept : List (FilterItem × FilterItem), kept.Sublist (lefts.zip rights) ∧
      (∀ pair ∈ kept, pair.1.placed.length = pair.2.placed.length) ∧
      terms.flatMap (·.condition.values) = kept.flatMap (·.1.placed) ∧
      others.flatMap (·.condition.values) = kept.flatMap (·.2.placed) := by
  obtain ⟨kept, hsublist, hkept, hlefts, hrights⟩ := exists_kept context skipped h
  refine ⟨kept.map Prod.snd, hsublist, ?_, ?_, ?_⟩
  · exact List.forall_mem_map.2 fun entry hentry => (hkept entry hentry).length_placed
  · rw [values_of_filters htables hterms, hlefts, List.flatMap_map, List.flatMap_map]
  · rw [values_of_filters htablesToo hothers, hrights, List.flatMap_map, List.flatMap_map]

end PlanContext

/-! ### Plans -/

namespace QueryPlan

/-- The statements say the same of the values in the lists. Where values are handed over beside a
statement, it is the same text; where they are written out, nothing but their literals differs. -/
def SameText (left right : QueryPlan) (values others : List Json) : Prop :=
  match Dialect.ofEngine left.engine with
  | .postgres => left.sql = right.sql ∧ left.parameters = values ∧ right.parameters = others ∧
      (parameterFields 1 left.parameters).map Prod.fst =
        (parameterFields 1 right.parameters).map Prod.fst
  | .bigQuery => left.parameters = [] ∧ right.parameters = [] ∧
      ∃ first texts, texts.length = values.length ∧ left.sql = interleave first texts values ∧
        right.sql = interleave first texts others

/-- The plans are the same, but for what the filters put into their statements: of the filters that
are not dropped, the one plan has the values of the one request and the other those of the other, at
the same places. -/
structure SameButValues (lefts rights : List FilterItem) (left right : QueryPlan) : Prop where
  model : left.model = right.model
  engine : left.engine = right.engine
  root : left.root = right.root
  tables : left.tables = right.tables
  relationships : left.relationships = right.relationships
  columns : left.columns = right.columns
  skipped : left.skipped = right.skipped
  text : ∃ kept : List (FilterItem × FilterItem), kept.Sublist (lefts.zip rights) ∧
    (∀ pair ∈ kept, pair.1.placed.length = pair.2.placed.length) ∧
    left.SameText right (kept.flatMap (·.1.placed)) (kept.flatMap (·.2.placed))

theorem names_parameterFields (number : Nat) (values : List Json) :
    (parameterFields number values).map Prod.fst =
      (List.range' number values.length).map parameterName := by
  induction values generalizing number with
  | nil => rfl
  | cons v rest ih =>
    rw [parameterFields, List.map_cons, ih, List.length_cons, List.range'_succ, List.map_cons]

theorem values_parameterFields (number : Nat) (values : List Json) :
    (parameterFields number values).map Prod.snd = values := by
  induction values generalizing number with
  | nil => rfl
  | cons v rest ih => rw [parameterFields, List.map_cons, ih]

end QueryPlan

variable {limits : RowLimits} {catalog : Catalog} {spec : QuerySpec}

/-- Plans whose filters differ in nothing but their values have the same text but for these. -/
theorem PlanStages.sameText {stages : PlanStages} {filters : List FilterTerm}
    (h : List.Forall₂ FilterTerm.SameShape stages.filters filters) (items : List FilterItem) :
    (stages.plan limits catalog spec).SameText
      ({ stages with filters }.plan limits catalog { spec with filters := items })
      (stages.filters.flatMap (·.condition.values)) (filters.flatMap (·.condition.values)) := by
  let statement := stages.statement limits spec
  let other : SelectStatement := { statement with filters }
  have hplaces : List.Forall₂ Piece.SamePlace statement.pieces other.pieces :=
    SelectStatement.samePlaces_pieces h
  have hvalues : pieceValues statement.pieces = stages.filters.flatMap (·.condition.values) :=
    SelectStatement.values_eq
  have hothers : pieceValues other.pieces = filters.flatMap (·.condition.values) :=
    SelectStatement.values_eq
  have hlength := length_pieceValues_of_samePlaces hplaces
  rw [← hvalues, ← hothers]
  unfold QueryPlan.SameText
  cases hdialect : Dialect.ofEngine (stages.plan limits catalog spec).engine with
  | postgres =>
    have hwrite : statement.write = other.write := by
      have hleft : statement.dialect = .postgres := hdialect
      rw [statement.write_eq, other.write_eq, hleft]
      exact writePieces_postgres_of_samePlaces hplaces 0
    have hleft : statement.parameters = pieceValues statement.pieces :=
      (SelectStatement.parameters_postgres hdialect).trans hvalues.symm
    have hright : other.parameters = pieceValues other.pieces :=
      (SelectStatement.parameters_postgres hdialect).trans hothers.symm
    have hnumber : statement.parameters.length = other.parameters.length :=
      (congrArg List.length hleft).trans (hlength.trans (congrArg List.length hright.symm))
    refine ⟨hwrite, hleft, hright, ?_⟩
    rw [QueryPlan.names_parameterFields, QueryPlan.names_parameterFields]
    exact congrArg (fun number => (List.range' 1 number).map parameterName) hnumber
  | bigQuery =>
    have hwrite (written : SelectStatement) (h : written.dialect = .bigQuery) : written.write =
        interleave (fixedTexts written.pieces).1 (fixedTexts written.pieces).2
          (pieceValues written.pieces) := by
      rw [written.write_eq, h, writePieces_bigQuery]
    refine ⟨SelectStatement.parameters_bigQuery hdialect,
      SelectStatement.parameters_bigQuery hdialect, (fixedTexts statement.pieces).1,
      (fixedTexts statement.pieces).2, length_fixedTexts _, hwrite statement hdialect, ?_⟩
    rw [fixedTexts_of_samePlaces hplaces]
    exact hwrite other hdialect

/-- The tables of a request are connected alike, whatever the values of its filters are. -/
theorem PlanScope.survey_sameButValues {filters : List FilterItem}
    (h : List.Forall₂ FilterItem.SameButValues spec.filters filters) :
    survey catalog { spec with filters } = survey catalog spec := by
  have hmentions : filters.map (·.toColumnRef) = spec.filters.map (·.toColumnRef) := by
    rw [← List.forall₂_eq_eq_eq, List.forall₂_map_left_iff, List.forall₂_map_right_iff]
    exact h.flip.imp fun _ _ hsame => hsame.column.symm
  have hids : filters.map (·.tableId) = spec.filters.map (·.tableId) := by
    have htableIds := congrArg (List.map ColumnRef.tableId) hmentions
    rw [List.map_map, List.map_map] at htableIds
    exact htableIds
  have hrequest : requestedTables catalog { spec with filters } = requestedTables catalog spec := by
    unfold requestedTables
    dsimp only
    rw [hids]
    rfl
  have hcheck : catalog.checkColumns { spec with filters } = catalog.checkColumns spec := by
    unfold Catalog.checkColumns QuerySpec.mentions
    dsimp only
    rw [hmentions]
  unfold survey
  rw [hrequest, hcheck]
  rfl

/-- For the same tables, such requests are compiled alike, but for the values of their filters. -/
theorem PlanScope.compile_sameButValues {scope : PlanScope} {engine : String}
    {filters : List FilterItem} (limits : RowLimits) (hscope : scope.Connects catalog spec)
    (hother : scope.Connects catalog { spec with filters })
    (hfilters : List.Forall₂ FilterItem.SameButValues spec.filters filters)
    (hleft : ∀ item ∈ spec.filters, item.InRange) (hright : ∀ item ∈ filters, item.InRange) :
    Agree Eq (fun stages more => (stages.plan limits catalog spec).SameButValues spec.filters
        filters (more.plan limits catalog { spec with filters }))
      (scope.compile engine catalog spec) (scope.compile engine catalog { spec with filters }) := by
  have hthere := resolve_of_requested hscope.requested
  have hthereToo := resolve_of_requested hother.requested
  unfold compile
  refine Agree.bind_same (fun _ => rfl) fun joins _ => ?_
  refine Agree.bind_same (fun _ => rfl) fun rootAlias _ => ?_
  refine Agree.bind_same (fun _ => rfl) fun terms _ => ?_
  have hagree : Agree Eq (List.Forall₂ FilterTerm.SameShape)
      (PlanContext.filters ⟨catalog, joins⟩ (Dialect.ofEngine engine) scope.skipped spec.filters)
      (PlanContext.filters ⟨catalog, joins⟩ (Dialect.ofEngine engine) scope.skipped filters) :=
    PlanContext.filters_agree hfilters hleft hright hthere hthereToo
  refine hagree.bind fun compiled others hcompiled hothers hshapes => ?_
  refine Agree.bind_same (fun _ => rfl) fun groupBy _ => ?_
  refine Agree.bind_same (fun _ => rfl) fun orderBy _ => ?_
  refine .ok ⟨rfl, rfl, rfl, rfl, rfl, rfl, rfl, ?_⟩
  obtain ⟨kept, hsublist, hlength, hvalues, hotherValues⟩ :=
    PlanContext.exists_placed hfilters hthere hthereToo hcompiled hothers
  refine ⟨kept, hsublist, hlength, ?_⟩
  let stages : PlanStages :=
    ⟨scope, engine, joins, rootAlias, terms, compiled, groupBy, orderBy⟩
  rw [← hvalues, ← hotherValues]
  exact stages.sameText hshapes filters

/-- Requests that differ in nothing but the values of their filters are planned alike: both fail in
the same way, or their plans differ in nothing but what the filters put into the statements. -/
theorem QueryPlan.build_values_apart (limits : RowLimits) (catalog : Catalog)
    {left right : QuerySpec} (hsame : left.SameButValues right)
    (hleft : ∀ item ∈ left.filters, item.InRange)
    (hright : ∀ item ∈ right.filters, item.InRange) :
    Agree Eq (QueryPlan.SameButValues left.filters right.filters)
      (QueryPlan.build limits catalog left) (QueryPlan.build limits catalog right) := by
  obtain ⟨hrest, hfilters⟩ := hsame
  generalize right.filters = filters at hrest hfilters hright ⊢
  subst hrest
  have hsurvey : PlanScope.survey catalog { left with filters } = PlanScope.survey catalog left :=
    PlanScope.survey_sameButValues hfilters
  rw [QueryPlan.build_eq, QueryPlan.build_eq, hsurvey]
  refine Agree.bind_same (fun _ => rfl) fun ⟨scope, engine⟩ hscope => ?_
  have hleftScope := (PlanScope.survey_eq_ok hscope).1
  have hrightScope := (PlanScope.survey_eq_ok (hsurvey.trans hscope)).1
  have hcompiled : Agree Eq (fun stages more => (stages.plan limits catalog left).SameButValues
        left.filters filters (more.plan limits catalog { left with filters }))
      (scope.compile engine catalog left) (scope.compile engine catalog { left with filters }) :=
    PlanScope.compile_sameButValues limits hleftScope hrightScope hfilters hleft hright
  exact hcompiled.bind fun _ _ _ _ hplans => .ok hplans

/-- A table of names in a language without parameters. -/
def namesCatalog : Catalog where
  model := ⟨"sales", "main", "Sales", true, none, none⟩
  tables := [⟨"names", "names", "names", none, none, none, bigQueryEngine, some "names", true, none,
    none, none, none, [⟨"name", "string"⟩]⟩]
  relationships := []

/-- A request for all names that contain a text and are among others. -/
def namesSpec (part : String) (names : List Int) : QuerySpec where
  dataModelId := none
  tableIds := ["names"]
  select := []
  filters :=
    [⟨⟨"names", "name", none⟩, .contains, .text part, .null, .and⟩,
      ⟨⟨"names", "name", none⟩, .isIn, .list (names.map .int), .null, .and⟩]
  groupBy := []
  orderBy := []
  limit := none

theorem QueryPlan.build_values_apart_names :
    ∃ left right : QueryPlan,
      QueryPlan.build ⟨10, 100⟩ namesCatalog (namesSpec "' OR '1' = '1" [1, 2]) = .ok left ∧
      QueryPlan.build ⟨10, 100⟩ namesCatalog (namesSpec "o" [3, 4]) = .ok right ∧
      QueryPlan.SameButValues (namesSpec "' OR '1' = '1" [1, 2]).filters
        (namesSpec "o" [3, 4]).filters left right := by
  have hsame : (namesSpec "' OR '1' = '1" [1, 2]).SameButValues (namesSpec "o" [3, 4]) := by
    refine ⟨rfl, .cons ⟨rfl, rfl, rfl, ?_, ?_, ?_⟩ (.cons ⟨rfl, rfl, rfl, ?_, ?_, ?_⟩ .nil)⟩
    all_goals simp [listed]
  have hleft : ∀ item ∈ (namesSpec "' OR '1' = '1" [1, 2]).filters, item.InRange := by
    unfold FilterItem.InRange
    decide +kernel
  have hright : ∀ item ∈ (namesSpec "o" [3, 4]).filters, item.InRange := by
    unfold FilterItem.InRange
    decide +kernel
  have hbuilt : (QueryPlan.build ⟨10, 100⟩ namesCatalog
      (namesSpec "' OR '1' = '1" [1, 2])).toOption.isSome = true := by
    decide +kernel
  exact (QueryPlan.build_values_apart ⟨10, 100⟩ namesCatalog hsame hleft hright).exists_ok hbuilt

end SemanticLayer
