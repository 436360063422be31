import SemanticLayer.Proofs.Plan.Clauses

/-!
Requests that list the same items in different orders. The order of the items decides from which
table a plan starts and along which paths its tables are joined, but not whether there is a plan:
the stages check the same tables and columns in any order, and the tables that are connected to one
of the required tables are connected to all of them, or the request fails.
-/

namespace SemanticLayer

/-- The requests list the same tables, columns and keys, each list in an order of its own. -/
structure QuerySpec.Reorders (left right : QuerySpec) : Prop where
  dataModelId : left.dataModelId = right.dataModelId
  tableIds : left.tableIds.Perm right.tableIds
  select : left.select.Perm right.select
  filters : left.filters = right.filters
  groupBy : left.groupBy.Perm right.groupBy
  orderBy : left.orderBy.Perm right.orderBy
  limit : left.limit = right.limit

/-- The faults are of one class: the same fault, or reported as faults of the same kind. -/
def Fault.SameClass (left right : Fault) : Prop :=
  left = right ∨ ∃ kind, left.IsReported kind ∧ right.IsReported kind

/-- The request passes the checks of its tables and columns, and its tables run on the engine. -/
structure QuerySpec.Passes (spec : QuerySpec) (catalog : Catalog)
    (required optional : List String) (engine : String) : Prop where
  requested : requestedTables catalog spec = .ok (required, optional)
  columns : catalog.checkColumns spec = .ok ()
  engine : ∃ tables, (required ++ optional).mapM catalog.executable = .ok tables ∧
    commonEngine tables = .ok engine

/-- The scopes consist of the same tables, of which the same are left out. -/
structure PlanScope.SameTables (left right : PlanScope) : Prop where
  required : left.required.Perm right.required
  optional : left.optional = right.optional
  tables : left.tables.Perm right.tables
  skipped : ∀ id, id ∈ left.skipped ↔ id ∈ right.skipped

theorem Fault.SameClass.refl (fault : Fault) : fault.SameClass fault :=
  .inl rfl

variable {limits : RowLimits} {catalog : Catalog} {spec left right : QuerySpec}
  {required optional : List String} {engine : String}

theorem QuerySpec.Reorders.symm (h : left.Reorders right) : right.Reorders left :=
  ⟨h.dataModelId.symm, h.tableIds.symm, h.select.symm, h.filters.symm, h.groupBy.symm,
    h.orderBy.symm, h.limit.symm⟩

theorem QuerySpec.Reorders.neededIds (h : left.Reorders right) :
    left.neededIds.Perm right.neededIds := by
  have htables := h.tableIds.append (h.select.map (·.tableId))
  exact (htables.append (h.groupBy.map (·.tableId))).append (h.orderBy.map (·.tableId))

theorem QuerySpec.Reorders.mentions (h : left.Reorders right) :
    left.mentions.Perm right.mentions := by
  unfold QuerySpec.mentions
  rw [h.filters]
  exact (h.groupBy.append_left _).append (h.orderBy.map (·.toColumnRef))

/-! ### Connecting the tables -/

/-- A table that can be looked up is one that an engine can run queries on, or is reported. -/
theorem Catalog.executable_isReported {id : String}
    (h : ∃ table, catalog.resolve? id = some table) :
    FailsOnly (Fault.IsReported .tableNotExecutable) (catalog.executable id) := by
  obtain ⟨table, htable⟩ := h
  unfold executable
  rw [htable]
  dsimp only
  split
  · exact .ok
  · exact .error ⟨_, rfl, rfl⟩

/-- The tables of a catalog can be looked up if their identifiers are not empty. -/
theorem Catalog.Owns.exists_resolve {id : String} (hids : ∀ table ∈ catalog.tables, table.id ≠ "")
    (h : catalog.Owns id) : ∃ table, catalog.resolve? id = some table ∧ table.id = id := by
  obtain ⟨other, hother, rfl⟩ := List.mem_map.1 h
  obtain ⟨table, hfound, -, hid⟩ := exists_find_of_mem_map Table.id h
  refine ⟨table, ?_, hid⟩
  have hpresent : other.id.isEmpty = false := by
    simpa using hids other hother
  simp [resolve?, hpresent, hfound]

namespace PlanContext

variable {context : PlanContext}

/-- The same filters are kept where the same tables are left out. -/
theorem forall₂_keptFilters {other : PlanContext} {skipped skippedToo : List String}
    {items : List FilterItem} (h : ∀ item ∈ items,
      (context.filterAlias? skipped item).isSome = (other.filterAlias? skippedToo item).isSome) :
    List.Forall₂ (fun entry more => entry.2 = more.2) (context.keptFilters skipped items)
      (other.keptFilters skippedToo items) := by
  induction items with
  | nil => exact .nil
  | cons item rest ih =>
    have hrest := ih fun more hmore => h more (List.mem_cons_of_mem _ hmore)
    have hitem := h item List.mem_cons_self
    unfold keptFilters at hrest ⊢
    rw [List.filterMap_cons, List.filterMap_cons]
    cases hleft : context.filterAlias? skipped item <;>
      cases hright : other.filterAlias? skippedToo item <;> rw [hleft, hright] at hitem
    · exact hrest
    · cases hitem
    · cases hitem
    · exact .cons rfl hrest

/-- Whether filters can be compiled does not depend on the aliases of their tables. -/
theorem filters_sameClass {other : PlanContext} {skipped skippedToo : List String}
    {items : List FilterItem} (dialect : Dialect)
    (hleft : ∀ item ∈ items, (context.catalog.resolve? item.tableId).isSome = true)
    (hright : ∀ item ∈ items, (other.catalog.resolve? item.tableId).isSome = true)
    (h : ∀ item ∈ items,
      (context.filterAlias? skipped item).isSome = (other.filterAlias? skippedToo item).isSome) :
    Agree Fault.SameClass (List.Forall₂ fun _ _ => True) (context.filters dialect skipped items)
      (other.filters dialect skippedToo items) := by
  rw [filters_eq hleft, filters_eq hright]
  apply Agree.mapM (forall₂_keptFilters h)
  rintro ⟨aliasName, item⟩ ⟨otherName, _⟩ rfl
  have hsame : Agree Fault.SameClass (fun _ _ => True) (item.conditionIn dialect)
      (item.conditionIn dialect) := by
    apply (Agree.refl _).mono
    · rintro fault _ rfl
      exact .refl fault
    · exact fun _ _ _ _ _ => trivial
  exact hsame.map fun _ _ _ => trivial

end PlanContext

namespace PlanScope

variable {scope other : PlanScope}

/-- Where relationships do not share identifiers, the items of reordered requests are compiled
alike: only their filters can fail, and the same ones are kept. -/
theorem compile_agree (hdistinct : (catalog.relationships.map Relationship.id).Nodup)
    (h : left.Reorders right) (hleft : scope.Connects catalog left)
    (hright : other.Connects catalog right) (hsame : scope.SameTables other) :
    Agree Fault.SameClass (fun _ _ => True) (scope.compile engine catalog left)
      (other.compile engine catalog right) := by
  obtain ⟨joins, hjoins, htree, -⟩ := hleft.exists_tree hdistinct
  obtain ⟨more, hmore, hmoreTree, -⟩ := hright.exists_tree hdistinct
  obtain ⟨hselect, hgroupBy, horderBy⟩ := hleft.exists_clauses hdistinct hjoins
  obtain ⟨hselectToo, hgroupByToo, horderByToo⟩ := hright.exists_clauses hdistinct hmore
  unfold compile
  rw [bind_of_ok hjoins, bind_of_ok hmore]
  dsimp only
  rw [bind_of_ok htree.aliasOf_root, bind_of_ok hmoreTree.aliasOf_root]
  apply Agree.bind_ok (hselect _) (hselectToo _)
  intro terms otherTerms _ _
  have hfilters : Agree Fault.SameClass (List.Forall₂ fun _ _ => True)
      (PlanContext.filters ⟨catalog, joins⟩ (Dialect.ofEngine engine) scope.skipped left.filters)
      (PlanContext.filters ⟨catalog, more⟩ (Dialect.ofEngine engine) other.skipped
        right.filters) := by
    -- The joins number the tables differently, but the same filters find an alias.
    have hitems := hright.filterAlias_isSome hdistinct hmore
    have hthere := resolve_of_requested hright.requested
    rw [← h.filters] at hitems hthere ⊢
    apply PlanContext.filters_sameClass _ (resolve_of_requested hleft.requested) hthere
    intro item hitem
    rw [Bool.eq_iff_iff, hleft.filterAlias_isSome hdistinct hjoins item hitem, hitems item hitem]
    simp only [hsame.skipped]
  apply hfilters.bind
  intro filters otherFilters _ _ _
  apply Agree.bind_ok (hgroupBy terms) (hgroupByToo otherTerms)
  intro _ _ _ _
  apply Agree.bind_ok (horderBy terms) (horderByToo otherTerms)
  intro _ _ _ _
  exact .ok trivial

end PlanScope

/-! ### Plans -/

namespace QueryPlan

/-- A request for one column of each table, in the order in which the tables are listed. -/
def columnsSpec (ids : List String) : QuerySpec where
  dataModelId := none
  tableIds := ["a"]
  select := ids.map fun id => ⟨⟨id, "id", none⟩, .none, none⟩
  filters := []
  groupBy := []
  orderBy := []
  limit := none

/-- Three tables, each related to the two others. -/
def triangleCatalog (relationshipIds : List String) : Catalog where
  model := ⟨"sales", "main", "Sales", true, none, none⟩
  tables := ["a", "b", "c"].map fun id =>
    ⟨id, id, id, none, none, none, postgresEngine, some id, true, none, none, none, none,
      [⟨"id", "int"⟩]⟩
  relationships := (relationshipIds.zip [("a", "b"), ("b", "c"), ("a", "c")]).map
    fun (id, fromTableId, toTableId) =>
      ⟨id, "sales", fromTableId, "id", toTableId, "id", .manyToOne, "single", validStatus, none,
        none, none, none, none⟩

end QueryPlan

end SemanticLayer
