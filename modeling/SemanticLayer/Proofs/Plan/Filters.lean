import SemanticLayer.Proofs.Plan.Build

/-!
The filters of a plan. Those on tables that are left out, or that have no alias, are dropped; the
others are compiled one by one, each under the alias of its table.
-/

namespace SemanticLayer

theorem FilterItem.conditionIn_eq_ok {dialect : Dialect} {item : FilterItem}
    {condition : Condition} : item.conditionIn dialect = .ok condition ↔
      item.condition = .ok condition ∧ condition.isWritable dialect = true := by
  unfold conditionIn
  simp only [bind_eq_ok, lift_eq_ok]
  constructor
  · rintro ⟨stated, hstated, h⟩
    split at h
    · rename_i hwritable
      obtain rfl := pure_eq_ok.1 h
      exact ⟨hstated, hwritable⟩
    · cases h
  · rintro ⟨hstated, hwritable⟩
    exact ⟨condition, hstated, by rw [if_pos hwritable]; rfl⟩

/-- The term that a filter makes under the alias of its table. -/
def FilterItem.termIn (dialect : Dialect) (entry : String × FilterItem) : Except Fault FilterTerm :=
  (fun condition => ⟨entry.2.connective, ⟨entry.1, entry.2.column, entry.2.part⟩, condition⟩) <$>
    entry.2.conditionIn dialect

namespace PlanContext

variable {context : PlanContext} {dialect : Dialect} {skipped : List String}

/-- The alias under which the column of a filter is written, if the filter is not dropped. -/
def filterAlias? (context : PlanContext) (skipped : List String) (item : FilterItem) :
    Option String :=
  (context.catalog.resolve? item.tableId).bind fun table =>
    if skipped.contains table.id then none else context.joins.aliases.find? table.id

/-- The filters that are not dropped, each with its alias. -/
def keptFilters (context : PlanContext) (skipped : List String) (items : List FilterItem) :
    List (String × FilterItem) :=
  items.filterMap fun item => (context.filterAlias? skipped item).map (·, item)

theorem mem_keptFilters {items : List FilterItem} {entry : String × FilterItem} :
    entry ∈ context.keptFilters skipped items ↔ entry.2 ∈ items ∧
      ∃ table, context.catalog.resolve? entry.2.tableId = some table ∧ table.id ∉ skipped ∧
        context.joins.aliases.find? table.id = some entry.1 := by
  obtain ⟨aliasName, item⟩ := entry
  simp only [keptFilters, List.mem_filterMap, Option.map_eq_some_iff, Prod.mk.injEq, filterAlias?,
    Option.bind_eq_some_iff]
  constructor
  · rintro ⟨other, hother, name, ⟨table, htable, halias⟩, rfl, rfl⟩
    split at halias
    · cases halias
    · rename_i hskipped
      exact ⟨hother, table, htable, by simpa using hskipped, halias⟩
  · rintro ⟨hitem, table, htable, hskipped, halias⟩
    refine ⟨item, hitem, aliasName, ⟨table, htable, ?_⟩, rfl, rfl⟩
    rwa [if_neg (by simpa using hskipped)]

theorem filterTerms_eq (aliases : Aliases) (items : List (String × FilterItem)) :
    filterTerms dialect aliases items =
      (items.filterMap fun entry => (aliases.find? entry.1).map (·, entry.2)).mapM
        (FilterItem.termIn dialect) := by
  induction items with
  | nil => rfl
  | cons entry rest ih =>
    obtain ⟨id, item⟩ := entry
    rw [filterTerms, ih]
    rw [List.filterMap_cons]
    cases aliases.find? id with
    | none => rfl
    | some aliasName =>
      dsimp only [Option.map_some]
      rw [List.mapM_cons]
      simp only [FilterItem.termIn, map_eq_pure_bind, bind_assoc, pure_bind]

/-- Where all tables are there, each filter finds its own. -/
theorem owned_eq (catalog : Catalog) {items : List FilterItem}
    (h : ∀ item ∈ items, (catalog.resolve? item.tableId).isSome = true) :
    (items.mapM fun item => do
        let table ← catalog.require item.tableId
        return (table.id, item) : Except Fault (List (String × FilterItem))) =
      .ok (items.filterMap fun item =>
        (catalog.resolve? item.tableId).map fun table => (table.id, item)) := by
  induction items with
  | nil => rfl
  | cons item rest ih =>
    obtain ⟨table, htable⟩ := Option.isSome_iff_exists.1 (h item (by simp))
    rw [List.mapM_cons, ih fun other hother => h other (by simp [hother]), List.filterMap_cons,
      htable, Catalog.require_eq_ok.2 htable]
    rfl

/-- Where all tables are there, just the filters that are not dropped are compiled. -/
theorem filters_eq {items : List FilterItem}
    (h : ∀ item ∈ items, (context.catalog.resolve? item.tableId).isSome = true) :
    context.filters dialect skipped items =
      (context.keptFilters skipped items).mapM (FilterItem.termIn dialect) := by
  have hkept : (((items.filterMap fun item =>
        (context.catalog.resolve? item.tableId).map fun table => (table.id, item)).filter
          fun entry => !skipped.contains entry.1).filterMap
        fun entry => (context.joins.aliases.find? entry.1).map (·, entry.2)) =
      context.keptFilters skipped items := by
    rw [List.filterMap_filter, List.filterMap_filterMap]
    refine List.filterMap_congr fun item _ => ?_
    unfold filterAlias?
    cases context.catalog.resolve? item.tableId with
    | none => rfl
    | some table => by_cases hskipped : table.id ∈ skipped <;> simp [hskipped]
  unfold filters
  rw [owned_eq context.catalog h, ← hkept, ← filterTerms_eq]
  rfl

end PlanContext

/-- The tables of the filters of a request are there. -/
theorem resolve_of_requested {catalog : Catalog} {spec : QuerySpec}
    {required optional : List String}
    (h : requestedTables catalog spec = .ok (required, optional)) :
    ∀ item ∈ spec.filters, (catalog.resolve? item.tableId).isSome = true := by
  obtain ⟨-, filtered, -, hfiltered, -⟩ := requestedTables_eq_ok_iff.1 h
  intro item hitem
  obtain ⟨table, htable, -⟩ :=
    (Catalog.ownIds_eq_ok hfiltered).2.2 item.tableId (List.mem_map_of_mem hitem)
  rw [Catalog.require_eq_ok.1 htable, Option.isSome_some]

end SemanticLayer
