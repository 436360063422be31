import Mathlib.Data.List.Forall2
import Mathlib.Data.List.Nodup
import Mathlib.Data.List.Pairwise
import SemanticLayer.Proofs.Plan.Filters

/-!
Tables have two names in requests: their own identifier and that of the synced table behind them. As
long as no identifier names two tables, a request may use either name in each place. The stages look
a table up before they compare or write anything, so that they cannot tell the names apart.
-/

namespace SemanticLayer

/-- The identifiers by which requests may name the table. -/
def Table.names (table : Table) : List String :=
  [table.id, table.syncedTableId]

/-- All identifiers of tables and of synced tables are there, and none of them is used twice. -/
structure Catalog.NamesApart (catalog : Catalog) : Prop where
  present : ∀ name ∈ catalog.tables.flatMap Table.names, name ≠ ""
  apart : (catalog.tables.flatMap Table.names).Nodup

/-- The identifiers are the same or name the same table. -/
def Catalog.Synonyms (catalog : Catalog) (id other : String) : Prop :=
  id = other ∨ ∃ table ∈ catalog.tables, id ∈ table.names ∧ other ∈ table.names

/-- The items are the same one by one, except that their tables may be named by synonyms. -/
def Catalog.Renames (catalog : Catalog) {Item : Type} (tableId : Item → String)
    (rename : Item → String → Item) : List Item → List Item → Prop :=
  List.Forall₂ fun item other => ∃ id, catalog.Synonyms (tableId item) id ∧ other = rename item id

/-- The requests differ only in the names that they use for tables, which may be exchanged in some
places and left as they are in others. -/
structure QuerySpec.Renames (catalog : Catalog) (left right : QuerySpec) : Prop where
  dataModelId : left.dataModelId = right.dataModelId
  tableIds : List.Forall₂ catalog.Synonyms left.tableIds right.tableIds
  select : catalog.Renames (·.tableId) (fun item id => { item with tableId := id })
    left.select right.select
  filters : catalog.Renames (·.tableId) (fun item id => { item with tableId := id })
    left.filters right.filters
  groupBy : catalog.Renames (·.tableId) (fun item id => { item with tableId := id })
    left.groupBy right.groupBy
  orderBy : catalog.Renames (·.tableId) (fun item id => { item with tableId := id })
    left.orderBy right.orderBy
  limit : left.limit = right.limit

variable {catalog : Catalog} {left right : QuerySpec} {id other : String}
  {ids others : List String}

/-! ### Names of tables -/

theorem Catalog.NamesApart.eq_of_mem_names (h : catalog.NamesApart) {one two : Table}
    (hone : one ∈ catalog.tables) (htwo : two ∈ catalog.tables) {name : String}
    (hname : name ∈ one.names) (hother : name ∈ two.names) : one = two := by
  by_contra hne
  have : Std.Symm (Function.onFun List.Disjoint Table.names) :=
    ⟨fun _ _ hdisjoint => List.disjoint_symm hdisjoint⟩
  exact (List.nodup_flatMap.1 h.apart).2.forall hone htwo hne hname hother

/-- Whatever an identifier stands for, it is a name of it. -/
theorem Catalog.mem_names_of_resolve {table : Table} (h : catalog.resolve? id = some table) :
    id ∈ table.names := by
  unfold resolve? at h
  split at h
  · cases h
  · rcases Option.or_eq_some_iff.1 h with h | ⟨-, h⟩
    · have hid : table.id = id := by simpa using List.find?_some h
      simp [Table.names, hid]
    · have hid : table.syncedTableId = id := by simpa using List.find?_some h
      simp [Table.names, hid]

/-- A name of a table stands for it. -/
theorem Catalog.NamesApart.resolve_eq_some (h : catalog.NamesApart) {table : Table}
    (htable : table ∈ catalog.tables) (hname : id ∈ table.names) :
    catalog.resolve? id = some table := by
  have hpresent : id.isEmpty = false := by
    simpa using h.present id (List.mem_flatMap.2 ⟨table, htable, hname⟩)
  have hsome : (catalog.resolve? id).isSome = true := by
    simp only [resolve?, hpresent, Bool.false_eq_true, if_false, Option.isSome_or, Bool.or_eq_true,
      List.find?_isSome, beq_iff_eq]
    simp only [Table.names, List.mem_cons, List.not_mem_nil, or_false] at hname
    exact hname.imp (fun hid => ⟨table, htable, hid.symm⟩) fun hid => ⟨table, htable, hid.symm⟩
  obtain ⟨found, hfound⟩ := Option.isSome_iff_exists.1 hsome
  rw [hfound, h.eq_of_mem_names (mem_of_resolve hfound) htable (mem_names_of_resolve hfound) hname]

theorem Catalog.Synonyms.resolve_eq (h : catalog.Synonyms id other) (hnames : catalog.NamesApart) :
    catalog.resolve? id = catalog.resolve? other := by
  rcases h with rfl | ⟨table, htable, hid, hother⟩
  · rfl
  · rw [hnames.resolve_eq_some htable hid, hnames.resolve_eq_some htable hother]

/-- Tables are looked up alike by synonyms; an identifier that stands for no table has none, and so
the texts that tell about it agree too. -/
theorem Catalog.Synonyms.require_eq (h : catalog.Synonyms id other) (hnames : catalog.NamesApart) :
    catalog.require id = catalog.require other := by
  rcases h with rfl | ⟨table, htable, hid, hother⟩
  · rfl
  · rw [require_eq_ok.2 (hnames.resolve_eq_some htable hid),
      require_eq_ok.2 (hnames.resolve_eq_some htable hother)]

/-! ### Checking the request -/

/-- The tables that renamed items name. -/
theorem Catalog.Renames.synonyms {Item : Type} {tableId : Item → String}
    {rename : Item → String → Item} {items more : List Item}
    (h : catalog.Renames tableId rename items more)
    (htableId : ∀ item id, tableId (rename item id) = id) :
    List.Forall₂ catalog.Synonyms (items.map tableId) (more.map tableId) := by
  rw [List.forall₂_map_left_iff, List.forall₂_map_right_iff]
  refine List.Forall₂.imp ?_ h
  rintro item _ ⟨id, hid, rfl⟩
  rwa [htableId]

theorem Catalog.Renames.isEmpty_eq {Item : Type} {tableId : Item → String}
    {rename : Item → String → Item} {items more : List Item}
    (h : catalog.Renames tableId rename items more) : items.isEmpty = more.isEmpty := by
  cases h <;> rfl

theorem QuerySpec.Renames.neededIds (h : left.Renames catalog right) :
    List.Forall₂ catalog.Synonyms left.neededIds right.neededIds := by
  have hselect := h.select.synonyms fun _ _ => rfl
  have hgroupBy := h.groupBy.synonyms fun _ _ => rfl
  have horderBy := h.orderBy.synonyms fun _ _ => rfl
  exact List.rel_append (List.rel_append (List.rel_append h.tableIds hselect) hgroupBy) horderBy

theorem Catalog.ownIds_eq_of_synonyms (hnames : catalog.NamesApart)
    (h : List.Forall₂ catalog.Synonyms ids others) :
    catalog.ownIds ids = catalog.ownIds others := by
  unfold ownIds
  rw [mapM_eq_of_forall₂ (h.imp fun _ _ hid => hid.require_eq hnames)]

theorem requestedTables_eq_of_renames (hnames : catalog.NamesApart)
    (h : left.Renames catalog right) :
    requestedTables catalog left = requestedTables catalog right := by
  unfold requestedTables
  rw [catalog.ownIds_eq_of_synonyms hnames h.neededIds,
    catalog.ownIds_eq_of_synonyms hnames (h.filters.synonyms fun _ _ => rfl)]

theorem Catalog.requireColumn_eq_of_synonyms (hnames : catalog.NamesApart) (ref : ColumnRef)
    (h : catalog.Synonyms ref.tableId id) :
    catalog.requireColumn ref = catalog.requireColumn { ref with tableId := id } := by
  unfold requireColumn
  rw [h.require_eq hnames]

/-- The columns of renamed items pass the same checks. -/
theorem Catalog.Renames.columns {Item : Type} {ref : Item → ColumnRef}
    {rename : Item → String → Item} {items more : List Item}
    (h : catalog.Renames (fun item => (ref item).tableId) rename items more)
    (hnames : catalog.NamesApart)
    (href : ∀ item id, ref (rename item id) = { ref item with tableId := id }) :
    List.Forall₂ (fun one two => catalog.requireColumn one = catalog.requireColumn two)
      (items.map ref) (more.map ref) := by
  rw [List.forall₂_map_left_iff, List.forall₂_map_right_iff]
  refine List.Forall₂.imp ?_ h
  rintro item _ ⟨id, hid, rfl⟩
  rw [href]
  exact catalog.requireColumn_eq_of_synonyms hnames _ hid

theorem Catalog.checkColumns_eq_of_renames (hnames : catalog.NamesApart)
    (h : left.Renames catalog right) : catalog.checkColumns left = catalog.checkColumns right := by
  have hselect :
      left.select.forM catalog.checkSelected = right.select.forM catalog.checkSelected := by
    refine forM_eq_of_forall₂ (List.Forall₂.imp ?_ h.select)
    rintro item _ ⟨id, hid, rfl⟩
    unfold checkSelected
    rw [catalog.requireColumn_eq_of_synonyms hnames _ hid]
    rfl
  have hmentions : left.mentions.forM catalog.requireColumn =
      right.mentions.forM catalog.requireColumn := by
    have hgroupBy : List.Forall₂
        (fun one two => catalog.requireColumn one = catalog.requireColumn two)
        (left.groupBy.map id) (right.groupBy.map id) := h.groupBy.columns hnames fun _ _ => rfl
    rw [List.map_id, List.map_id] at hgroupBy
    exact forM_eq_of_forall₂ (List.rel_append (List.rel_append
      (h.filters.columns hnames fun _ _ => rfl) hgroupBy)
      (h.orderBy.columns hnames fun _ _ => rfl))
  unfold checkColumns
  rw [hselect, hmentions]

/-- The same tables are selected from, equally often. -/
theorem Catalog.Renames.found_eq {Item : Type} {tableId : Item → String}
    {rename : Item → String → Item} {items more : List Item}
    (h : catalog.Renames tableId rename items more) (hnames : catalog.NamesApart)
    (htableId : ∀ item id, tableId (rename item id) = id) :
    items.filterMap (fun item => (catalog.resolve? (tableId item)).map Table.id) =
      more.filterMap fun item => (catalog.resolve? (tableId item)).map Table.id := by
  induction h with
  | nil => rfl
  | cons hhead _ ih =>
    obtain ⟨id, hid, rfl⟩ := hhead
    rw [List.filterMap_cons, List.filterMap_cons, htableId, hid.resolve_eq hnames, ih]

theorem QuerySpec.rootId_eq_of_renames (hnames : catalog.NamesApart)
    (h : left.Renames catalog right) (required : List String) :
    left.rootId catalog required = right.rootId catalog required := by
  have hselected := h.select.found_eq hnames fun _ _ => rfl
  have hkeys : List.Forall₂ catalog.Synonyms
      (left.groupBy.map (·.tableId) ++ left.orderBy.map (·.tableId))
      (right.groupBy.map (·.tableId) ++ right.orderBy.map (·.tableId)) :=
    List.rel_append (h.groupBy.synonyms fun _ _ => rfl) (h.orderBy.synonyms fun _ _ => rfl)
  unfold QuerySpec.rootId
  rw [hselected]
  dsimp only
  generalize mostFrequent _ = frequent
  generalize left.groupBy.map (·.tableId) ++ left.orderBy.map (·.tableId) = keys at hkeys ⊢
  generalize right.groupBy.map (·.tableId) ++ right.orderBy.map (·.tableId) = otherKeys at hkeys ⊢
  cases frequent with
  | some id => rfl
  | none =>
    cases hkeys with
    | nil => rfl
    | cons hhead _ =>
      dsimp only
      rw [hhead.require_eq hnames]

/-! ### Compiling the items -/

namespace PlanContext

variable {joins : JoinPlan}

theorem column_eq_of_synonyms (hnames : catalog.NamesApart) (ref : ColumnRef)
    (h : catalog.Synonyms ref.tableId id) :
    column ⟨catalog, joins⟩ ref = column ⟨catalog, joins⟩ { ref with tableId := id } := by
  unfold column
  rw [h.require_eq hnames]

theorem selectFrom_eq_of_renames (hnames : catalog.NamesApart) {items more : List SelectItem}
    (h : catalog.Renames (·.tableId) (fun item id => { item with tableId := id }) items more)
    (place : Nat) (taken : List String) :
    selectFrom ⟨catalog, joins⟩ place taken items =
      selectFrom ⟨catalog, joins⟩ place taken more := by
  induction h generalizing place taken with
  | nil => rfl
  | cons hhead _ ih =>
    obtain ⟨id, hid, rfl⟩ := hhead
    simp only [selectFrom, ih, hid.require_eq hnames]
    rfl

theorem select_eq_of_renames (hnames : catalog.NamesApart) (rootAlias : String)
    (h : left.Renames catalog right) :
    select ⟨catalog, joins⟩ rootAlias left.select =
      select ⟨catalog, joins⟩ rootAlias right.select := by
  unfold select
  rw [h.select.isEmpty_eq, selectFrom_eq_of_renames hnames h.select]

/-- Filters are left out by the tables that they were found to be on, and their own names of tables
are not looked at again. -/
theorem filterTerms_eq_of_renames {dialect : Dialect} {aliases : Aliases} {skipped : List String}
    {entries more : List (String × FilterItem)} (h : List.Forall₂ (fun entry other =>
      ∃ id, other = (entry.1, { entry.2 with tableId := id })) entries more) :
    filterTerms dialect aliases (entries.filter fun (id, _) => !skipped.contains id) =
      filterTerms dialect aliases (more.filter fun (id, _) => !skipped.contains id) := by
  induction h with
  | nil => rfl
  | cons hhead _ ih =>
    obtain ⟨id, rfl⟩ := hhead
    simp only [List.filter_cons]
    split
    · simp only [filterTerms, ih]
      rfl
    · exact ih

theorem filters_eq_of_renames (hnames : catalog.NamesApart) (dialect : Dialect)
    (skipped : List String) (h : left.Renames catalog right) :
    filters ⟨catalog, joins⟩ dialect skipped left.filters =
      filters ⟨catalog, joins⟩ dialect skipped right.filters := by
  have howned : Agree Eq (List.Forall₂ fun entry other : String × FilterItem =>
        ∃ id, other = (entry.1, { entry.2 with tableId := id }))
      (left.filters.mapM fun item => do
        let table ← catalog.require item.tableId
        return (table.id, item) : Except Fault _)
      (right.filters.mapM fun item => do
        let table ← catalog.require item.tableId
        return (table.id, item)) := by
    refine Agree.mapM h.filters ?_
    rintro item _ ⟨id, hid, rfl⟩
    rw [hid.require_eq hnames]
    exact Agree.bind_same (fun _ => rfl) fun table _ => .ok ⟨id, rfl⟩
  unfold filters
  refine (howned.bind fun entries more _ _ hentries => ?_ : Agree Eq Eq _ _).eq
  rw [filterTerms_eq_of_renames hentries]
  exact .refl _

theorem groupBy_eq_of_renames (hnames : catalog.NamesApart) (terms : List SelectTerm)
    (h : left.Renames catalog right) :
    groupBy ⟨catalog, joins⟩ left.groupBy terms = groupBy ⟨catalog, joins⟩ right.groupBy terms := by
  unfold groupBy
  rw [h.groupBy.isEmpty_eq, mapM_eq_of_forall₂ (List.Forall₂.imp ?_ h.groupBy)]
  rintro item _ ⟨id, hid, rfl⟩
  rw [column_eq_of_synonyms hnames _ hid]

theorem orderBy_eq_of_renames (hnames : catalog.NamesApart) (terms : List SelectTerm)
    (h : left.Renames catalog right) :
    orderBy ⟨catalog, joins⟩ left.orderBy terms = orderBy ⟨catalog, joins⟩ right.orderBy terms := by
  unfold orderBy
  rw [h.orderBy.isEmpty_eq, mapM_eq_of_forall₂ (List.Forall₂.imp ?_ h.orderBy)]
  rintro item _ ⟨id, hid, rfl⟩
  rw [column_eq_of_synonyms hnames _ hid]

end PlanContext

theorem isDistinct_eq_of_renames (terms : List SelectTerm) (h : left.Renames catalog right) :
    isDistinct left terms = isDistinct right terms := by
  unfold isDistinct
  rw [h.groupBy.isEmpty_eq]

theorem PlanScope.survey_eq_of_renames (hnames : catalog.NamesApart)
    (h : left.Renames catalog right) : survey catalog left = survey catalog right := by
  unfold survey
  simp only [requestedTables_eq_of_renames hnames h, catalog.checkColumns_eq_of_renames hnames h,
    QuerySpec.rootId_eq_of_renames hnames h]

theorem PlanScope.compile_eq_of_renames (hnames : catalog.NamesApart)
    (h : left.Renames catalog right) (scope : PlanScope) (engine : String) :
    scope.compile engine catalog left = scope.compile engine catalog right := by
  unfold compile
  simp only [PlanContext.select_eq_of_renames hnames _ h,
    PlanContext.filters_eq_of_renames hnames _ _ h, PlanContext.groupBy_eq_of_renames hnames _ h,
    PlanContext.orderBy_eq_of_renames hnames _ h]

/-- Where no identifier names two tables, requests that name the same tables by different names have
the same plan or fail with the same fault. -/
theorem QueryPlan.build_eq_of_renames (limits : RowLimits) {catalog : Catalog}
    {left right : QuerySpec} (hnames : catalog.NamesApart) (h : left.Renames catalog right) :
    QueryPlan.build limits catalog left = QueryPlan.build limits catalog right := by
  have hplan (stages : PlanStages) :
      stages.plan limits catalog left = stages.plan limits catalog right := by
    unfold PlanStages.plan PlanStages.statement
    rw [isDistinct_eq_of_renames _ h, h.limit]
  simp only [build_eq, PlanScope.survey_eq_of_renames hnames h,
    PlanScope.compile_eq_of_renames hnames h, hplan]

/-- Orders and their customers, with identifiers that begin with another letter for the synced
tables. -/
def syncedCatalog : Catalog where
  model := ⟨"sales", "main", "Sales", true, none, none⟩
  tables := ["orders", "customers"].map fun name =>
    ⟨"t-" ++ name, "s-" ++ name, name, none, none, none, postgresEngine, some name, true, none,
      none, none, none, [⟨"id", "int"⟩, ⟨"customer", "int"⟩]⟩
  relationships := [⟨"oc", "sales", "t-orders", "customer", "t-customers", "id", .manyToOne,
    "single", validStatus, none, none, none, none, none⟩]

/-- A request for the number of orders of one customer, with the names of the two tables in each
clause. -/
def countsSpec (selected counted filtered grouped : String) : QuerySpec where
  dataModelId := none
  tableIds := []
  select := [⟨⟨selected, "id", none⟩, .none, some "customer"⟩,
    ⟨⟨counted, "id", none⟩, .count, some "orders"⟩]
  filters := [⟨⟨filtered, "id", none⟩, .equals, .int 7, .null, .and⟩]
  groupBy := [⟨grouped, "id", none⟩]
  orderBy := []
  limit := none

/-- A request that uses both names of the customers gets the same plan as one that uses the same
name everywhere; the filter is kept, and what is grouped by is what is selected. -/
theorem QueryPlan.build_eq_of_mixed_names :
    ∃ plan : QueryPlan,
      QueryPlan.build ⟨10, 100⟩ syncedCatalog
        (countsSpec "t-customers" "t-orders" "t-customers" "t-customers") = .ok plan ∧
      QueryPlan.build ⟨10, 100⟩ syncedCatalog
        (countsSpec "t-customers" "s-orders" "s-customers" "s-customers") = .ok plan ∧
      plan.sql = "SELECT t1.\"id\" AS \"customer\", COUNT(t2.\"id\") AS \"orders\"\n" ++
        "FROM customers t1\nINNER JOIN orders t2 ON t1.\"id\" = t2.\"customer\"\n" ++
        "WHERE (t1.\"id\" = :p1)\nGROUP BY t1.\"id\"\nORDER BY 1 ASC\nLIMIT 10" := by
  have hnames : syncedCatalog.NamesApart := ⟨by decide, by decide⟩
  have hcustomers : syncedCatalog.Synonyms "t-customers" "s-customers" :=
    .inr ⟨_, List.mem_cons_of_mem _ (List.mem_singleton_self _), by decide, by decide⟩
  have horders : syncedCatalog.Synonyms "t-orders" "s-orders" :=
    .inr ⟨_, List.mem_cons_self, by decide, by decide⟩
  have hrenames : (countsSpec "t-customers" "t-orders" "t-customers" "t-customers").Renames
      syncedCatalog (countsSpec "t-customers" "s-orders" "s-customers" "s-customers") :=
    { dataModelId := rfl
      tableIds := .nil
      select := .cons ⟨_, .inl rfl, rfl⟩ (.cons ⟨_, horders, rfl⟩ .nil)
      filters := .cons ⟨_, hcustomers, rfl⟩ .nil
      groupBy := .cons ⟨_, hcustomers, rfl⟩ .nil
      orderBy := .nil
      limit := rfl }
  have hsql : (QueryPlan.build ⟨10, 100⟩ syncedCatalog
      (countsSpec "t-customers" "t-orders" "t-customers" "t-customers")).toOption.map
      QueryPlan.sql = some ("SELECT t1.\"id\" AS \"customer\", COUNT(t2.\"id\") AS \"orders\"\n" ++
        "FROM customers t1\nINNER JOIN orders t2 ON t1.\"id\" = t2.\"customer\"\n" ++
        "WHERE (t1.\"id\" = :p1)\nGROUP BY t1.\"id\"\nORDER BY 1 ASC\nLIMIT 10") := by
    decide +kernel
  rw [← QueryPlan.build_eq_of_renames ⟨10, 100⟩ hnames hrenames]
  cases hplan : QueryPlan.build ⟨10, 100⟩ syncedCatalog
      (countsSpec "t-customers" "t-orders" "t-customers" "t-customers") with
  | error fault => simp [hplan, Except.toOption] at hsql
  | ok plan =>
    rw [hplan] at hsql
    exact ⟨plan, rfl, rfl, Option.some.inj hsql⟩

end SemanticLayer
