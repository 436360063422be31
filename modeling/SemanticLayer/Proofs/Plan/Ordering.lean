import SemanticLayer.Proofs.Plan.Build

/-!
The order in which a plan wants its rows. Where rows are made one out of many, whether because each
combination of values is wanted once or because rows are grouped, only what such rows have in common
can be ordered by. Without an order of its own, a request is ordered by places of its select list,
which is always possible. The order that a request asks for is taken as it is, so it is possible
exactly if the request asks for columns that it selects or groups by.
-/

namespace SemanticLayer

/-! ### What a statement can be ordered by -/

namespace SelectStatement

/-- The item of the select list at a place, counted from one. -/
def item? (statement : SelectStatement) : Nat → Option SelectTerm
  | 0 => none
  | place + 1 => statement.terms[place]?

/-- Whether the rows of the result are groups of rows. -/
def Groups (statement : SelectStatement) : Prop :=
  statement.groupBy ≠ [] ∨ ∃ term ∈ statement.terms, term.isAggregate = true

/-- The expression that a key stands for. -/
def keyText? (statement : SelectStatement) : SortKey → Option String
  | .ordinal place => (statement.item? place).map (SelectTerm.expression statement.dialect)
  | .column term => some (term.write statement.dialect)

/-- The selected expressions. -/
def selectedTexts (statement : SelectStatement) : List String :=
  statement.terms.map (SelectTerm.expression statement.dialect)

/-- The expressions with one value for each group: those that are grouped by, and the selected
aggregates. -/
def groupedTexts (statement : SelectStatement) : List String :=
  statement.groupBy.filterMap statement.keyText? ++
    (statement.terms.filter SelectTerm.isAggregate).map (SelectTerm.expression statement.dialect)

/-- A key is the place of an item of the select list, or it is written like one of the
expressions. -/
def Allows (statement : SelectStatement) (texts : List String) : SortKey → Prop
  | .ordinal place => (statement.item? place).isSome = true
  | .column term => term.write statement.dialect ∈ texts

/-- What an engine asks of the keys to order by: that distinct rows are ordered by what is selected,
and groups by what has one value for each of them. -/
structure OrdersLegally (statement : SelectStatement) : Prop where
  distinct : statement.distinct = true →
    ∀ entry ∈ statement.orderBy, statement.Allows statement.selectedTexts entry.1
  groups : statement.Groups →
    ∀ entry ∈ statement.orderBy, statement.Allows statement.groupedTexts entry.1

instance (statement : SelectStatement) : Decidable statement.Groups :=
  inferInstanceAs (Decidable (_ ∨ _))

instance (statement : SelectStatement) (texts : List String) :
    (key : SortKey) → Decidable (statement.Allows texts key)
  | .ordinal place => inferInstanceAs (Decidable ((statement.item? place).isSome = true))
  | .column term => inferInstanceAs (Decidable (term.write statement.dialect ∈ texts))

instance (statement : SelectStatement) : Decidable statement.OrdersLegally :=
  decidable_of_iff
    ((statement.distinct = true →
        ∀ entry ∈ statement.orderBy, statement.Allows statement.selectedTexts entry.1) ∧
      (statement.Groups →
        ∀ entry ∈ statement.orderBy, statement.Allows statement.groupedTexts entry.1))
    ⟨fun h => ⟨h.1, h.2⟩, fun h => ⟨h.distinct, h.groups⟩⟩

end SelectStatement

/-- The column that is selected as it is. -/
def SelectItem.dimension? (item : SelectItem) : Option ColumnRef :=
  if item.isStar || item.aggregation.isAggregate then none else some item.toColumnRef

def SelectTerm.dimension? : SelectTerm → Option ColumnTerm
  | .column term _ => some term
  | _ => none

/-- The columns that the rows of a request can be ordered by: those that it groups by, or else those
that it selects as they are. -/
def QuerySpec.orderable (spec : QuerySpec) : List ColumnRef :=
  if spec.groupBy.isEmpty then spec.select.filterMap SelectItem.dimension? else spec.groupBy

/-- A column is the text in a statement. -/
def PlanContext.Writes (context : PlanContext) (dialect : Dialect) (ref : ColumnRef)
    (text : String) : Prop :=
  ∃ term, context.column ref = .ok term ∧ term.write dialect = text

/-! ### Columns are not written like aggregates -/

/-- The aliases of all joined tables are numbered. -/
def JoinPlan.Numbered (plan : JoinPlan) : Prop :=
  ∀ entry ∈ plan.aliases, ∃ place, entry.2 = tableAlias place

namespace JoinPlan

theorem Numbered.extend {tables : List Table} {plan next : JoinPlan} {r : Relationship}
    (h : plan.Numbered) (hnext : plan.extend tables r = .ok next) : next.Numbered := by
  unfold JoinPlan.extend at hnext
  dsimp only at hnext
  split at hnext
  · cases hnext
  · obtain ⟨knownAlias, -, heq⟩ := bind_eq_ok.1 hnext
    obtain rfl := pure_eq_ok.1 heq
    intro entry hentry
    rcases List.mem_append.1 hentry with hold | hnew
    · exact h entry hold
    · exact ⟨_, congrArg Prod.snd (List.mem_singleton.1 hnew)⟩

theorem Numbered.grow {tables : List Table} {plan grown : JoinPlan} {pending : List Relationship}
    (h : plan.Numbered) (hgrown : plan.grow tables pending = .ok grown) : grown.Numbered := by
  induction plan, pending using JoinPlan.grow.induct with
  | case1 plan pending r others htaken ih =>
    rw [JoinPlan.grow, htaken] at hgrown
    obtain ⟨next, hnext, hrest⟩ := bind_eq_ok.1 hgrown
    exact ih next (h.extend hnext) hrest
  | case2 plan pending htaken hempty =>
    rw [JoinPlan.grow, htaken] at hgrown
    dsimp only at hgrown
    rw [if_pos hempty] at hgrown
    exact Except.ok.inj hgrown ▸ h
  | case3 plan pending htaken hpending =>
    rw [JoinPlan.grow, htaken] at hgrown
    dsimp only at hgrown
    rw [if_neg hpending] at hgrown
    cases hgrown

theorem numbered_of_relationships {tables : List Table} {rootId : String}
    {relationships : List Relationship} {joins : JoinPlan}
    (h : ofRelationships tables rootId relationships = .ok joins) : joins.Numbered := by
  have hstart : (start rootId).Numbered := fun entry hentry =>
    ⟨1, congrArg Prod.snd (List.mem_singleton.1 hentry)⟩
  exact hstart.grow h

end JoinPlan

theorem JoinPlan.Numbered.column {catalog : Catalog} {joins : JoinPlan} {ref : ColumnRef}
    {term : ColumnTerm} (h : joins.Numbered)
    (hterm : PlanContext.column ⟨catalog, joins⟩ ref = .ok term) :
    ∃ place, term.aliasName = tableAlias place := by
  unfold PlanContext.column at hterm
  obtain ⟨table, -, hterm⟩ := bind_eq_ok.1 hterm
  obtain ⟨aliasName, halias, heq⟩ := bind_eq_ok.1 hterm
  obtain rfl := pure_eq_ok.1 heq
  exact h _ (mem_aliases_of_aliasOf halias)

/-- A column of a numbered table begins with the alias, or with the keyword of an expression for a
part of a date. -/
theorem ColumnTerm.write_begins {term : ColumnTerm} {place : Nat}
    (halias : term.aliasName = tableAlias place) (dialect : Dialect) :
    ∃ start ∈ ["t", "CASE WHEN ", "EXTRACT("], ∃ rest, term.write dialect = start ++ rest := by
  have hcolumn : dialect.column term.aliasName term.column =
      "t" ++ (toString place ++ "." ++ dialect.quote term.column) := by
    simp [Dialect.column, halias, tableAlias, String.append_assoc]
  unfold ColumnTerm.write
  dsimp only
  split
  · exact ⟨_, by simp, _, hcolumn⟩
  · unfold Dialect.extract
    dsimp only
    split
    · simp only [toString, String.append_assoc]
      exact ⟨"CASE WHEN ", by simp, _, rfl⟩
    · simp only [toString, String.append_assoc]
      exact ⟨"EXTRACT(", by simp, _, rfl⟩

/-- None of these is the keyword of an aggregation. -/
theorem ColumnTerm.write_ne_aggregate {term : ColumnTerm} {place : Nat}
    (halias : term.aliasName = tableAlias place) (dialect : Dialect) (aggregation : Aggregation)
    (operand : Option ColumnTerm) (name : String) :
    term.write dialect ≠ (SelectTerm.aggregate aggregation operand name).expression dialect := by
  obtain ⟨start, hstart, rest, heq⟩ := write_begins halias dialect
  rw [heq]
  intro h
  unfold SelectTerm.expression at h
  dsimp only at h
  rw [String.append_assoc, String.append_assoc, String.append_assoc] at h
  have hchars := congrArg String.toList h
  simp only [List.mem_cons, List.not_mem_nil, or_false] at hstart
  rcases hstart with rfl | rfl | rfl <;> cases aggregation <;>
    simp [Aggregation.keyword] at hchars

/-! ### Places of the select list -/

theorem mem_placesFrom {p : SelectTerm → Bool} {start place : Nat} {terms : List SelectTerm} :
    place ∈ placesFrom p start terms ↔
      ∃ index term, terms[index]? = some term ∧ p term = true ∧ place = start + index := by
  induction terms generalizing start with
  | nil => simp [placesFrom]
  | cons first rest ih =>
    have hsplit : (∃ index term, (first :: rest)[index]? = some term ∧ p term = true ∧
        place = start + index) ↔ (p first = true ∧ place = start) ∨
        place ∈ placesFrom p (start + 1) rest := by
      rw [ih]
      constructor
      · rintro ⟨_ | index, term, hterm, hp, rfl⟩
        · obtain rfl : first = term := by simpa using hterm
          exact .inl ⟨hp, rfl⟩
        · exact .inr ⟨index, term, by simpa using hterm, hp, by omega⟩
      · rintro (⟨hp, rfl⟩ | ⟨index, term, hterm, hp, rfl⟩)
        · exact ⟨0, first, rfl, hp, rfl⟩
        · exact ⟨index + 1, term, by simpa using hterm, hp, by omega⟩
    rw [hsplit, placesFrom]
    split
    · rename_i hp
      simp [hp]
    · rename_i hp
      simp [hp]

namespace SelectStatement

variable {statement : SelectStatement}

theorem mem_columnPlaces {place : Nat} :
    place ∈ columnPlaces statement.terms ↔
      ∃ item, statement.item? place = some item ∧ item.isColumn = true := by
  unfold columnPlaces
  rw [mem_placesFrom]
  cases place with
  | zero =>
    constructor
    · rintro ⟨index, -, -, -, hplace⟩
      omega
    · rintro ⟨item, hitem, -⟩
      cases hitem
  | succ place =>
    constructor
    · rintro ⟨index, item, hitem, hcolumn, hplace⟩
      obtain rfl : place = index := by omega
      exact ⟨item, hitem, hcolumn⟩
    · rintro ⟨item, hitem, hcolumn⟩
      exact ⟨place, item, hitem, hcolumn, by omega⟩

theorem exists_place {item : SelectTerm} :
    (∃ place, statement.item? place = some item) ↔ item ∈ statement.terms := by
  rw [List.mem_iff_getElem?]
  constructor
  · rintro ⟨_ | place, hitem⟩
    · cases hitem
    · exact ⟨place, hitem⟩
  · rintro ⟨place, hitem⟩
    exact ⟨place + 1, hitem⟩

/-- The expressions of the columns that are selected as they are. -/
def dimensionTexts (statement : SelectStatement) : List String :=
  (statement.terms.filterMap SelectTerm.dimension?).map (ColumnTerm.write statement.dialect)

theorem mem_dimensionTexts {text : String} :
    text ∈ statement.dimensionTexts ↔ ∃ item ∈ statement.terms, item.isColumn = true ∧
      item.expression statement.dialect = text := by
  simp only [dimensionTexts, List.mem_map, List.mem_filterMap]
  constructor
  · rintro ⟨term, ⟨item, hitem, hterm⟩, rfl⟩
    cases item with
    | column other name => exact ⟨_, hitem, rfl, by rw [← Option.some.inj hterm]; rfl⟩
    | star aliasName => cases hterm
    | aggregate aggregation operand name => cases hterm
  · rintro ⟨item, hitem, hcolumn, rfl⟩
    cases item with
    | column term name => exact ⟨term, ⟨_, hitem, rfl⟩, rfl⟩
    | star aliasName => cases hcolumn
    | aggregate aggregation operand name => cases hcolumn

/-- Where all items are columns, nothing else is selected. -/
theorem mem_selectedTexts (hcolumns : statement.terms.all SelectTerm.isColumn = true)
    {text : String} : text ∈ statement.selectedTexts ↔ text ∈ statement.dimensionTexts := by
  rw [mem_dimensionTexts, selectedTexts, List.mem_map]
  refine exists_congr fun item => and_congr_right fun hitem => ?_
  simp [List.all_eq_true.1 hcolumns item hitem]

theorem keyTexts_of_columns {terms : List ColumnTerm}
    (hkeys : statement.groupBy = terms.map .column) :
    statement.groupBy.filterMap statement.keyText? =
      terms.map (ColumnTerm.write statement.dialect) := by
  rw [hkeys, List.filterMap_map, ← List.filterMap_eq_map]
  rfl

/-- The groups are those of the columns that are selected. -/
theorem mem_texts_of_columnPlaces
    (hkeys : statement.groupBy = (columnPlaces statement.terms).map .ordinal) {text : String} :
    text ∈ statement.groupBy.filterMap statement.keyText? ↔ text ∈ statement.dimensionTexts := by
  rw [hkeys, mem_dimensionTexts]
  simp only [List.filterMap_map, List.mem_filterMap, Function.comp_apply, keyText?,
    Option.map_eq_some_iff, mem_columnPlaces]
  constructor
  · rintro ⟨place, ⟨item, hitem, hcolumn⟩, other, hother, htext⟩
    obtain rfl := Option.some.inj (hitem.symm.trans hother)
    exact ⟨item, exists_place.1 ⟨place, hitem⟩, hcolumn, htext⟩
  · rintro ⟨item, hitem, hcolumn, htext⟩
    obtain ⟨place, hplace⟩ := exists_place.2 hitem
    exact ⟨place, ⟨item, hplace, hcolumn⟩, item, hplace, htext⟩

/-- A column is one of the expressions that groups have in common exactly if it is grouped by. -/
theorem mem_groupedTexts {term : ColumnTerm} {place : Nat}
    (halias : term.aliasName = tableAlias place) :
    term.write statement.dialect ∈ statement.groupedTexts ↔
      term.write statement.dialect ∈ statement.groupBy.filterMap statement.keyText? := by
  rw [groupedTexts, List.mem_append, or_iff_left]
  intro hmem
  obtain ⟨item, hitem, heq⟩ := List.mem_map.1 hmem
  cases item with
  | aggregate aggregation operand name =>
    exact ColumnTerm.write_ne_aggregate halias _ aggregation operand name heq.symm
  | star aliasName => simp [SelectTerm.isAggregate] at hitem
  | column other name => simp [SelectTerm.isAggregate] at hitem

/-- Places of items that are there are always allowed. -/
theorem orders_of_columnPlaces
    (h : ∀ entry ∈ statement.orderBy, ∃ place ∈ columnPlaces statement.terms,
      entry.1 = .ordinal place) : statement.OrdersLegally := by
  have hallows : ∀ texts, ∀ entry ∈ statement.orderBy, statement.Allows texts entry.1 := by
    intro texts entry hentry
    obtain ⟨place, hplace, hkey⟩ := h entry hentry
    obtain ⟨item, hitem, -⟩ := mem_columnPlaces.1 hplace
    rw [hkey, Allows, hitem]
    rfl
  exact ⟨fun _ => hallows _, fun _ => hallows _⟩

end SelectStatement

/-! ### Columns of a request -/

namespace PlanContext

variable {catalog : Catalog} {joins : JoinPlan}

/-- The columns that are selected as they are come from the items that ask for them. -/
theorem selectFrom_dimensions {context : PlanContext} {place : Nat} {taken : List String}
    {items : List SelectItem} {terms : List SelectTerm}
    (h : context.selectFrom place taken items = .ok terms) :
    List.Forall₂ (fun ref term => context.column ref = .ok term)
      (items.filterMap SelectItem.dimension?) (terms.filterMap SelectTerm.dimension?) := by
  induction items generalizing place taken terms with
  | nil =>
    obtain rfl := Except.ok.inj h
    exact .nil
  | cons item rest ih =>
    unfold selectFrom at h
    simp only [bind_eq_ok] at h
    obtain ⟨table, htable, aliasName, halias, h⟩ := h
    have hcolumn : context.column item.toColumnRef =
        .ok ⟨aliasName, item.column, item.part⟩ := by
      unfold column
      exact bind_eq_ok.2 ⟨table, htable, bind_eq_ok.2 ⟨aliasName, halias, rfl⟩⟩
    rw [List.filterMap_cons, SelectItem.dimension?]
    split at h <;> obtain ⟨others, hothers, heq⟩ := bind_eq_ok.1 h <;>
      obtain rfl := pure_eq_ok.1 heq <;> have hlater := ih hothers
    · rename_i hall
      rw [Bool.and_eq_true] at hall
      rw [hall.1]
      exact hlater
    · cases hstar : item.isStar with
      | true => exact hlater
      | false =>
        cases haggregate : item.aggregation.isAggregate with
        | true => exact hlater
        | false => exact .cons hcolumn hlater

theorem select_dimensions {context : PlanContext} {rootAlias : String} {items : List SelectItem}
    {terms : List SelectTerm} (h : context.select rootAlias items = .ok terms) :
    List.Forall₂ (fun ref term => context.column ref = .ok term)
      (items.filterMap SelectItem.dimension?) (terms.filterMap SelectTerm.dimension?) := by
  unfold select at h
  split at h
  · rename_i hempty
    obtain rfl := List.isEmpty_iff.1 hempty
    obtain rfl := Except.ok.inj h
    exact .nil
  · exact selectFrom_dimensions h

/-- Keys that the request gives are the columns that it refers to. -/
theorem exists_terms_of_keys {context : PlanContext} {refs : List ColumnRef} {keys : List SortKey}
    (h : refs.mapM (fun ref => SortKey.column <$> context.column ref) = .ok keys) :
    ∃ terms, keys = terms.map .column ∧
      List.Forall₂ (fun ref term => context.column ref = .ok term) refs terms := by
  have hall := forall₂_of_mapM h
  clear h
  induction hall with
  | nil => exact ⟨[], rfl, .nil⟩
  | cons hkey _ ih =>
    obtain ⟨term, hterm, rfl⟩ := map_eq_ok.1 hkey
    obtain ⟨terms, rfl, hterms⟩ := ih
    exact ⟨term :: terms, rfl, .cons hterm hterms⟩

/-- The texts of columns that have been compiled. -/
theorem mem_texts_of_forall₂ {context : PlanContext} {dialect : Dialect} {refs : List ColumnRef}
    {terms : List ColumnTerm}
    (h : List.Forall₂ (fun ref term => context.column ref = .ok term) refs terms) {text : String} :
    text ∈ terms.map (ColumnTerm.write dialect) ↔
      ∃ ref ∈ refs, context.Writes dialect ref text := by
  rw [List.mem_map]
  constructor
  · rintro ⟨term, hterm, htext⟩
    obtain ⟨ref, href, hcolumn⟩ := exists_item_of_forall₂ h term hterm
    exact ⟨ref, href, term, hcolumn, htext⟩
  · rintro ⟨ref, href, term, hterm, htext⟩
    obtain ⟨other, hother, hcolumn⟩ := exists_result_of_forall₂ h ref href
    obtain rfl := Except.ok.inj (hterm.symm.trans hcolumn)
    exact ⟨term, hother, htext⟩

end PlanContext

/-! ### Orders of plans -/

namespace PlanStages.Compiles

variable {catalog : Catalog} {spec : QuerySpec} {stages : PlanStages}

/-- What distinct rows can be ordered by. -/
theorem mem_selectedTexts (h : stages.Compiles catalog spec) {limits : RowLimits}
    (hdistinct : (stages.statement limits spec).distinct = true) {text : String} :
    text ∈ (stages.statement limits spec).selectedTexts ↔ ∃ ref ∈ spec.orderable,
      PlanContext.Writes ⟨catalog, stages.joins⟩ (Dialect.ofEngine stages.engine) ref text := by
  have hparts : isDistinct spec stages.terms = true := hdistinct
  rw [isDistinct, Bool.and_eq_true, Bool.and_eq_true] at hparts
  rw [SelectStatement.mem_selectedTexts hparts.1.2, QuerySpec.orderable, if_pos hparts.2]
  exact PlanContext.mem_texts_of_forall₂ (PlanContext.select_dimensions h.terms)

/-- What groups can be ordered by. -/
theorem mem_groupedTexts (h : stages.Compiles catalog spec) {limits : RowLimits}
    (hgroups : (stages.statement limits spec).Groups) {term : ColumnTerm} {place : Nat}
    (halias : term.aliasName = tableAlias place) :
    term.write (Dialect.ofEngine stages.engine) ∈ (stages.statement limits spec).groupedTexts ↔
      ∃ ref ∈ spec.orderable, PlanContext.Writes ⟨catalog, stages.joins⟩
        (Dialect.ofEngine stages.engine) ref (term.write (Dialect.ofEngine stages.engine)) := by
  have hkeys := h.groupBy
  unfold PlanContext.groupBy at hkeys
  refine (SelectStatement.mem_groupedTexts halias).trans ?_
  unfold QuerySpec.orderable
  split at hkeys
  · rename_i hgiven
    rw [if_neg (by simpa using hgiven)]
    obtain ⟨terms, hterms, hcolumns⟩ := PlanContext.exists_terms_of_keys hkeys
    rw [SelectStatement.keyTexts_of_columns hterms]
    exact PlanContext.mem_texts_of_forall₂ hcolumns
  · rename_i hnone
    rw [if_pos (by simpa using hnone)]
    split at hkeys
    · refine (SelectStatement.mem_texts_of_columnPlaces (Except.ok.inj hkeys).symm).trans ?_
      exact PlanContext.mem_texts_of_forall₂ (PlanContext.select_dimensions h.terms)
    · rename_i haggregates
      rcases hgroups with hgroups | ⟨item, hitem, haggregate⟩
      · exact absurd (Except.ok.inj hkeys).symm hgroups
      · exact absurd (List.any_eq_true.2 ⟨item, hitem, haggregate⟩) haggregates

end PlanStages.Compiles

variable {limits : RowLimits} {catalog : Catalog} {spec : QuerySpec}

/-- The terms of a request without an order of its own are places of columns that it selects. -/
theorem PlanStages.Compiles.orders_of_default {stages : PlanStages}
    (h : stages.Compiles catalog spec) (hnone : spec.orderBy = []) (limits : RowLimits) :
    (stages.statement limits spec).OrdersLegally := by
  refine SelectStatement.orders_of_columnPlaces fun entry hentry => ?_
  have hkeys := h.orderBy
  rw [PlanContext.orderBy, hnone, if_neg (by simp)] at hkeys
  split at hkeys
  · rw [PlanStages.statement, ← Except.ok.inj hkeys] at hentry
    cases hentry
  · rw [PlanStages.statement, ← Except.ok.inj hkeys] at hentry
    obtain ⟨place, hplace, rfl⟩ := List.mem_map.1 hentry
    exact ⟨place, hplace, rfl⟩

/-- A request's own order is compiled item by item. -/
theorem PlanStages.Compiles.orders_given {stages : PlanStages} (h : stages.Compiles catalog spec)
    (hgiven : spec.orderBy ≠ []) :
    List.Forall₂ (fun item entry => ∃ term,
        PlanContext.column ⟨catalog, stages.joins⟩ item.toColumnRef = .ok term ∧
          entry = (SortKey.column term, item.direction)) spec.orderBy stages.orderBy := by
  have hkeys := h.orderBy
  rw [PlanContext.orderBy, if_pos (by simpa using hgiven)] at hkeys
  refine (forall₂_of_mapM hkeys).imp fun item entry hentry => ?_
  obtain ⟨term, hterm, heq⟩ := bind_eq_ok.1 hentry
  exact ⟨term, hterm, (pure_eq_ok.1 heq).symm⟩

/-- Plans without a requested order can be run in the order that they ask for: every key is the
place of a column that is selected. A requested order is compiled as it is, item by item; where rows
are distinct or grouped, such a plan can be run exactly if each requested column is written like one
that is grouped by or, where nothing is grouped by, like one that is selected as it is. -/
theorem QueryPlan.build_orders_legally_iff {plan : QueryPlan}
    (h : QueryPlan.build limits catalog spec = .ok plan) :
    ∃ stages : PlanStages, stages.Compiles catalog spec ∧
      plan = stages.plan limits catalog spec ∧
      let statement := stages.statement limits spec
      let context : PlanContext := ⟨catalog, stages.joins⟩
      (spec.orderBy = [] → statement.OrdersLegally) ∧
        (spec.orderBy ≠ [] →
          List.Forall₂ (fun item entry => ∃ term, context.column item.toColumnRef = .ok term ∧
              entry = (SortKey.column term, item.direction)) spec.orderBy statement.orderBy ∧
            (statement.OrdersLegally ↔ (statement.distinct = true ∨ statement.Groups →
              ∀ item ∈ spec.orderBy, ∃ ref ∈ spec.orderable, ∃ text,
                context.Writes statement.dialect item.toColumnRef text ∧
                  context.Writes statement.dialect ref text))) := by
  obtain ⟨stages, hcompiles, rfl⟩ := build_eq_ok h
  refine ⟨stages, hcompiles, rfl, fun hnone => hcompiles.orders_of_default hnone limits, ?_⟩
  intro hgiven
  have hitems := hcompiles.orders_given hgiven
  have hnumbered := JoinPlan.numbered_of_relationships hcompiles.joined
  refine ⟨hitems, ?_, ?_⟩
  · intro hlegal hkind item hitem
    obtain ⟨entry, hentry, term, hterm, rfl⟩ := exists_result_of_forall₂ hitems item hitem
    obtain ⟨place, halias⟩ := hnumbered.column hterm
    have hfound : ∃ ref ∈ spec.orderable, PlanContext.Writes ⟨catalog, stages.joins⟩
        (Dialect.ofEngine stages.engine) ref (term.write (Dialect.ofEngine stages.engine)) := by
      rcases hkind with hdistinct | hgroups
      · exact (hcompiles.mem_selectedTexts hdistinct).1 (hlegal.distinct hdistinct _ hentry)
      · exact (hcompiles.mem_groupedTexts hgroups halias).1 (hlegal.groups hgroups _ hentry)
    obtain ⟨ref, href, hwrites⟩ := hfound
    exact ⟨ref, href, _, ⟨term, hterm, rfl⟩, hwrites⟩
  · intro hfound
    have hkeys : (stages.statement limits spec).distinct = true ∨
        (stages.statement limits spec).Groups → ∀ entry ∈ stages.orderBy, ∃ term place,
        entry.1 = .column term ∧ term.aliasName = tableAlias place ∧ ∃ ref ∈ spec.orderable,
          PlanContext.Writes ⟨catalog, stages.joins⟩ (Dialect.ofEngine stages.engine) ref
            (term.write (Dialect.ofEngine stages.engine)) := by
      intro hkind entry hentry
      obtain ⟨item, hitem, term, hterm, rfl⟩ := exists_item_of_forall₂ hitems entry hentry
      obtain ⟨place, halias⟩ := hnumbered.column hterm
      obtain ⟨ref, href, text, ⟨other, hother, rfl⟩, hwrites⟩ := hfound hkind item hitem
      obtain rfl := Except.ok.inj (hterm.symm.trans hother)
      exact ⟨term, place, rfl, halias, ref, href, hwrites⟩
    constructor
    · intro hdistinct entry hentry
      obtain ⟨term, place, hkey, -, hwrites⟩ := hkeys (.inl hdistinct) entry hentry
      rw [hkey]
      exact (hcompiles.mem_selectedTexts hdistinct).2 hwrites
    · intro hgroups entry hentry
      obtain ⟨term, place, hkey, halias, hwrites⟩ := hkeys (.inr hgroups) entry hentry
      rw [hkey]
      exact (hcompiles.mem_groupedTexts hgroups halias).2 hwrites

/-- A table of people and the countries that they live in. -/
def residentsCatalog : Catalog where
  model := ⟨"sales", "main", "Sales", true, none, none⟩
  tables := [⟨"residents", "residents", "residents", none, none, none, postgresEngine,
    some "residents", true, none, none, none, none, [⟨"name", "text"⟩, ⟨"country", "text"⟩]⟩]
  relationships := []

/-- All names, ordered by a column. -/
def orderedNamesSpec (column : String) : QuerySpec where
  dataModelId := none
  tableIds := []
  select := [⟨⟨"residents", "name", none⟩, .none, some "name"⟩]
  filters := []
  groupBy := []
  orderBy := [⟨⟨"residents", column, none⟩, .ascending⟩]
  limit := none

theorem QueryPlan.build_orders_legally_names :
    ∃ (plan : QueryPlan) (stages : PlanStages),
      QueryPlan.build ⟨10, 100⟩ residentsCatalog (orderedNamesSpec "name") = .ok plan ∧
        stages.Compiles residentsCatalog (orderedNamesSpec "name") ∧
        plan = stages.plan ⟨10, 100⟩ residentsCatalog (orderedNamesSpec "name") ∧
        (stages.statement ⟨10, 100⟩ (orderedNamesSpec "name")).OrdersLegally := by
  have hbuilt : (QueryPlan.build ⟨10, 100⟩ residentsCatalog
      (orderedNamesSpec "name")).toOption.isSome = true := by
    decide +kernel
  cases hplan : QueryPlan.build ⟨10, 100⟩ residentsCatalog (orderedNamesSpec "name") with
  | error fault => simp [hplan, Except.toOption] at hbuilt
  | ok plan =>
    obtain ⟨stages, hcompiles, hstages, -, hgiven⟩ := QueryPlan.build_orders_legally_iff hplan
    obtain ⟨hitems, hlegal⟩ := hgiven (by simp [orderedNamesSpec])
    refine ⟨plan, stages, rfl, hcompiles, hstages, hlegal.2 fun _ item hitem => ?_⟩
    obtain ⟨entry, -, term, hterm, -⟩ := exists_result_of_forall₂ hitems item hitem
    obtain rfl := List.mem_singleton.1 hitem
    exact ⟨⟨"residents", "name", none⟩, by simp [orderedNamesSpec, QuerySpec.orderable,
      SelectItem.dimension?, SelectItem.isStar, Aggregation.isAggregate], _, ⟨term, hterm, rfl⟩,
      term, hterm, rfl⟩

/-- Distinct names ordered by what is not selected: the statement is compiled as it is asked for. -/
theorem QueryPlan.build_orders_illegally :
    ∃ stages : PlanStages, stages.Compiles residentsCatalog (orderedNamesSpec "country") ∧
      QueryPlan.build ⟨10, 100⟩ residentsCatalog (orderedNamesSpec "country") =
        .ok (stages.plan ⟨10, 100⟩ residentsCatalog (orderedNamesSpec "country")) ∧
      (stages.plan ⟨10, 100⟩ residentsCatalog (orderedNamesSpec "country")).sql =
        "SELECT DISTINCT t1.\"name\" AS \"name\"\n" ++
          "FROM residents t1\nORDER BY t1.\"country\" ASC\nLIMIT 10" ∧
      ¬ (stages.statement ⟨10, 100⟩ (orderedNamesSpec "country")).OrdersLegally := by
  have hrun : Except.toOption (do
        let found ← PlanScope.survey residentsCatalog (orderedNamesSpec "country")
        let stages ← found.1.compile found.2 residentsCatalog (orderedNamesSpec "country")
        return ((stages.plan ⟨10, 100⟩ residentsCatalog (orderedNamesSpec "country")).sql,
          decide (stages.statement ⟨10, 100⟩ (orderedNamesSpec "country")).OrdersLegally)) =
      some ("SELECT DISTINCT t1.\"name\" AS \"name\"\n" ++
        "FROM residents t1\nORDER BY t1.\"country\" ASC\nLIMIT 10", false) := by
    decide +kernel
  cases hsurvey : PlanScope.survey residentsCatalog (orderedNamesSpec "country") with
  | error fault =>
    rw [hsurvey] at hrun
    cases hrun
  | ok found =>
    obtain ⟨scope, engine⟩ := found
    rw [hsurvey, bind_of_ok rfl] at hrun
    dsimp only at hrun
    cases hcompile : scope.compile engine residentsCatalog (orderedNamesSpec "country") with
    | error fault =>
      rw [hcompile] at hrun
      cases hrun
    | ok stages =>
      rw [hcompile] at hrun
      obtain ⟨hsql, hlegal⟩ := Prod.mk.inj (Option.some.inj hrun)
      refine ⟨stages, (PlanScope.compile_eq_ok hsurvey hcompile).2.2, ?_, hsql,
        of_decide_eq_false hlegal⟩
      rw [QueryPlan.build_eq, hsurvey, bind_of_ok rfl]
      exact bind_of_ok hcompile

end SemanticLayer
