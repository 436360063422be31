import SemanticLayer.Proofs.Plan.Connection
import SemanticLayer.Proofs.Plan.Filters
import SemanticLayer.Proofs.Plan.SpanningTree

/-!
The clauses of a plan. Where relationships do not share identifiers, every table that is not left
out has an alias, so all items of a request are compiled without faults, the conditions of its
filters apart; and the filters that are kept are just those on tables that are not left out.
-/

namespace SemanticLayer

/-- The table with the identifier has an alias. -/
def PlanContext.Knows (context : PlanContext) (id : String) : Prop :=
  ∃ table aliasName, context.catalog.require id = .ok table ∧
    context.joins.aliasOf table.id = .ok aliasName

namespace PlanContext

variable {context : PlanContext}

theorem exists_column {ref : ColumnRef} (h : context.Knows ref.tableId) :
    ∃ term, context.column ref = .ok term := by
  obtain ⟨table, aliasName, htable, halias⟩ := h
  exact exists_bind (lift_eq_ok.2 htable) (exists_bind halias ⟨_, rfl⟩)

theorem exists_selectFrom {items : List SelectItem} (place : Nat) (taken : List String)
    (h : ∀ item ∈ items, context.Knows item.tableId) :
    ∃ terms, context.selectFrom place taken items = .ok terms := by
  induction items generalizing place taken with
  | nil => exact ⟨[], rfl⟩
  | cons item rest ih =>
    have hrest : ∀ other ∈ rest, context.Knows other.tableId := by
      intro other hother
      exact h other (List.mem_cons_of_mem _ hother)
    obtain ⟨table, aliasName, htable, halias⟩ := h item List.mem_cons_self
    unfold selectFrom
    apply exists_bind (lift_eq_ok.2 htable)
    apply exists_bind halias
    split
    · obtain ⟨terms, hterms⟩ := ih (place + 1) taken hrest
      exact exists_bind hterms ⟨_, rfl⟩
    · obtain ⟨terms, hterms⟩ := ih (place + 1) _ hrest
      exact exists_bind hterms ⟨_, rfl⟩

theorem exists_select {items : List SelectItem} (rootAlias : String)
    (h : ∀ item ∈ items, context.Knows item.tableId) :
    ∃ terms, context.select rootAlias items = .ok terms := by
  unfold select
  split
  · exact ⟨_, rfl⟩
  · exact exists_selectFrom 0 [] h

theorem exists_groupBy {items : List ColumnRef} (terms : List SelectTerm)
    (h : ∀ ref ∈ items, context.Knows ref.tableId) :
    ∃ keys, context.groupBy items terms = .ok keys := by
  unfold groupBy
  split
  · apply exists_mapM
    intro ref href
    obtain ⟨term, hterm⟩ := exists_column (h ref href)
    exact ⟨.column term, map_eq_ok.2 ⟨term, hterm, rfl⟩⟩
  · split <;> exact ⟨_, rfl⟩

theorem exists_orderBy {items : List OrderItem} (terms : List SelectTerm)
    (h : ∀ item ∈ items, context.Knows item.tableId) :
    ∃ keys, context.orderBy items terms = .ok keys := by
  unfold orderBy
  split
  · apply exists_mapM
    intro item hitem
    obtain ⟨term, hterm⟩ := exists_column (h item hitem)
    exact exists_bind hterm ⟨_, rfl⟩
  · split <;> exact ⟨_, rfl⟩

end PlanContext

variable {catalog : Catalog} {spec : QuerySpec} {required optional : List String}

/-- The tables of filters are required or optional. -/
theorem mem_of_filter (h : requestedTables catalog spec = .ok (required, optional))
    {item : FilterItem} {table : Table} (hitem : item ∈ spec.filters)
    (htable : catalog.resolve? item.tableId = some table) : table.id ∈ required ++ optional := by
  obtain ⟨-, filtered, -, hfiltered, -, -, rfl⟩ := requestedTables_eq_ok_iff.1 h
  have hmem : table.id ∈ filtered :=
    (Catalog.mem_ownIds hfiltered).2 ⟨_, List.mem_map_of_mem hitem, table, htable, rfl⟩
  by_cases hrequired : table.id ∈ required
  · exact List.mem_append_left _ hrequired
  · apply List.mem_append_right
    exact List.mem_filter.2 ⟨hmem, by simpa using hrequired⟩

namespace PlanScope

variable {scope : PlanScope} {joins : JoinPlan}

/-- All tables that are not left out have aliases. -/
theorem Connects.exists_alias (h : scope.Connects catalog spec)
    (hdistinct : (catalog.relationships.map Relationship.id).Nodup)
    (hjoins : JoinPlan.ofRelationships scope.tables scope.root.id scope.relationships = .ok joins)
    {id : String} (hid : id ∈ scope.required ++ scope.optional) (hkept : id ∉ scope.skipped) :
    ∃ aliasName, joins.aliasOf id = .ok aliasName := by
  obtain ⟨grown, hgrown, htree, hused, -⟩ := h.exists_tree hdistinct
  obtain rfl : grown = joins := Except.ok.inj (hgrown.symm.trans hjoins)
  have hjoined : id ∈ grown.ids := by
    apply hused.mem_iff.2
    exact List.mem_filter.2 ⟨hid, by simpa using hkept⟩
  obtain ⟨aliasName, halias, -⟩ := htree.aliasOf_eq hjoined
  exact ⟨aliasName, halias⟩

theorem Connects.not_mem_skipped (h : scope.Connects catalog spec) {id : String}
    (hid : id ∈ scope.required) : id ∉ scope.skipped := by
  intro hskipped
  have hoptional := ((connected_of_connect h.connected).2 id).1 hskipped
  have hnodup := (requestedTables_eq_ok h.requested).nodup
  exact (List.nodup_append.1 hnodup).2.2 id hid id hoptional.1 rfl

/-- All tables that a request needs have aliases. -/
theorem Connects.knows_needed (h : scope.Connects catalog spec)
    (hdistinct : (catalog.relationships.map Relationship.id).Nodup)
    (hjoins : JoinPlan.ofRelationships scope.tables scope.root.id scope.relationships = .ok joins) :
    ∀ id ∈ spec.neededIds, PlanContext.Knows ⟨catalog, joins⟩ id := by
  intro id hid
  obtain ⟨table, htable, hrequired⟩ := (requestedTables_eq_ok h.requested).needs id hid
  obtain ⟨aliasName, halias⟩ := h.exists_alias hdistinct hjoins
    (List.mem_append_left _ hrequired) (h.not_mem_skipped hrequired)
  exact ⟨table, aliasName, htable, halias⟩

/-- The clauses of a request, its conditions apart, are compiled without faults. -/
theorem Connects.exists_clauses (h : scope.Connects catalog spec)
    (hdistinct : (catalog.relationships.map Relationship.id).Nodup)
    (hjoins : JoinPlan.ofRelationships scope.tables scope.root.id scope.relationships = .ok joins) :
    let context : PlanContext := ⟨catalog, joins⟩
    (∀ rootAlias, ∃ terms, context.select rootAlias spec.select = .ok terms) ∧
      (∀ terms, ∃ keys, context.groupBy spec.groupBy terms = .ok keys) ∧
      ∀ terms, ∃ keys, context.orderBy spec.orderBy terms = .ok keys := by
  have hknows := h.knows_needed hdistinct hjoins
  simp only [QuerySpec.neededIds, List.forall_mem_append, List.forall_mem_map] at hknows
  obtain ⟨⟨⟨-, hselect⟩, hgroupBy⟩, horderBy⟩ := hknows
  exact ⟨fun rootAlias => PlanContext.exists_select rootAlias hselect,
    fun terms => PlanContext.exists_groupBy terms hgroupBy,
    fun terms => PlanContext.exists_orderBy terms horderBy⟩

/-- The filters that are kept are those on tables that are not left out. -/
theorem Connects.filterAlias_isSome (h : scope.Connects catalog spec)
    (hdistinct : (catalog.relationships.map Relationship.id).Nodup)
    (hjoins : JoinPlan.ofRelationships scope.tables scope.root.id scope.relationships =
      .ok joins) : ∀ item ∈ spec.filters,
      (PlanContext.filterAlias? ⟨catalog, joins⟩ scope.skipped item).isSome = true ↔
        ∃ table, catalog.resolve? item.tableId = some table ∧ table.id ∉ scope.skipped := by
  intro item hitem
  unfold PlanContext.filterAlias?
  cases htable : catalog.resolve? item.tableId with
  | none => simp
  | some table =>
    have hmem := mem_of_filter h.requested hitem htable
    by_cases hskipped : table.id ∈ scope.skipped
    · simp [hskipped]
    · obtain ⟨aliasName, halias⟩ := h.exists_alias hdistinct hjoins hmem hskipped
      simp [hskipped, JoinPlan.aliasOf_eq_ok.1 halias]

end PlanScope

end SemanticLayer
