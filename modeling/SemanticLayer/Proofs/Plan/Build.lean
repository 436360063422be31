import SemanticLayer.Plan.Basic
import SemanticLayer.Proofs.Distinct
import SemanticLayer.Proofs.Outcome

/-!
The stages of compiling a request: what each of them says about the tables of a plan, and the kinds
of faults that the stages report.
-/

namespace SemanticLayer

/-! ### Tables of a request -/

/-- An identifier of a table of the catalog, as opposed to that of a synced table. -/
def Catalog.Owns (catalog : Catalog) (id : String) : Prop :=
  id ∈ catalog.tables.map Table.id

theorem Catalog.require_eq_ok {catalog : Catalog} {id : String} {table : Table} :
    catalog.require id = .ok table ↔ catalog.resolve? id = some table := by
  unfold require
  cases catalog.resolve? id <;> simp

theorem Catalog.mem_of_resolve {catalog : Catalog} {id : String} {table : Table}
    (h : catalog.resolve? id = some table) : table ∈ catalog.tables := by
  unfold resolve? at h
  split at h
  · cases h
  · rcases Option.or_eq_some_iff.1 h with h | ⟨-, h⟩ <;> exact List.mem_of_find?_eq_some h

/-- An identifier of a table of the catalog never stands for another table. -/
theorem Catalog.id_of_resolve {catalog : Catalog} {id : String} {table : Table}
    (howns : catalog.Owns id) (h : catalog.resolve? id = some table) : table.id = id := by
  unfold resolve? at h
  split at h
  · cases h
  · obtain ⟨other, hother, heq⟩ := List.mem_map.1 howns
    rcases Option.or_eq_some_iff.1 h with h | ⟨hnone, -⟩
    · simpa using List.find?_some h
    · exact absurd heq (by simpa using List.find?_eq_none.1 hnone other hother)

/-- The identifiers of the tables that are meant, each once. -/
theorem Catalog.ownIds_eq_ok {catalog : Catalog} {ids own : List String}
    (h : catalog.ownIds ids = .ok own) :
    own.Nodup ∧ (∀ id ∈ own, catalog.Owns id) ∧
      ∀ id ∈ ids, ∃ table, catalog.require id = .ok table ∧ table.id ∈ own := by
  unfold ownIds at h
  obtain ⟨tables, htables, rfl⟩ := map_eq_ok.1 h
  have hall := forall₂_of_mapM htables
  refine ⟨nodup_distinct _, ?_, ?_⟩
  · intro id hid
    obtain ⟨table, hmem, rfl⟩ := List.mem_map.1 (mem_distinct.1 hid)
    obtain ⟨key, -, hkey⟩ := exists_item_of_forall₂ hall table hmem
    exact List.mem_map_of_mem (mem_of_resolve (require_eq_ok.1 hkey))
  · intro id hid
    obtain ⟨table, hmem, htable⟩ := exists_result_of_forall₂ hall id hid
    exact ⟨table, htable, mem_distinct.2 (List.mem_map_of_mem hmem)⟩

/-- The identifiers are those of the tables that are meant. -/
theorem Catalog.mem_ownIds {catalog : Catalog} {ids own : List String} {id : String}
    (h : catalog.ownIds ids = .ok own) :
    id ∈ own ↔ ∃ key ∈ ids, ∃ table, catalog.resolve? key = some table ∧ table.id = id := by
  unfold ownIds at h
  obtain ⟨tables, htables, rfl⟩ := map_eq_ok.1 h
  have hall := forall₂_of_mapM htables
  simp only [mem_distinct, List.mem_map]
  constructor
  · rintro ⟨table, hmem, rfl⟩
    obtain ⟨key, hkey, htable⟩ := exists_item_of_forall₂ hall table hmem
    exact ⟨key, hkey, table, require_eq_ok.1 htable, rfl⟩
  · rintro ⟨key, hkey, table, htable, rfl⟩
    obtain ⟨other, hmem, hother⟩ := exists_result_of_forall₂ hall key hkey
    obtain rfl : table = other := Option.some.inj (htable.symm.trans (require_eq_ok.1 hother))
    exact ⟨table, hmem, rfl⟩

/-- What is true of the tables of a request: they are named by identifiers of their own, each of
them once, and a table that the request needs is among the required ones. -/
structure QuerySpec.Requests (catalog : Catalog) (spec : QuerySpec)
    (required optional : List String) : Prop where
  nodup : (required ++ optional).Nodup
  owns : ∀ id ∈ required ++ optional, catalog.Owns id
  needs : ∀ id ∈ spec.neededIds, ∃ table, catalog.require id = .ok table ∧ table.id ∈ required

/-- The tables that are needed are required, or those of the filters where none is needed; the other
tables of filters are optional. -/
theorem requestedTables_eq_ok_iff {catalog : Catalog} {spec : QuerySpec}
    {required optional : List String} :
    requestedTables catalog spec = .ok (required, optional) ↔
      ∃ needed filtered, catalog.ownIds spec.neededIds = .ok needed ∧
        catalog.ownIds (spec.filters.map (·.tableId)) = .ok filtered ∧
        required = (if needed.isEmpty then filtered else needed) ∧ required ≠ [] ∧
        optional = filtered.filter fun id => !required.contains id := by
  unfold requestedTables
  simp only [bind_eq_ok, exists_and_left]
  refine exists_congr fun needed => and_congr_right fun _ => exists_congr fun filtered =>
    and_congr_right fun _ => ?_
  generalize (if needed.isEmpty then filtered else needed) = chosen
  constructor
  · intro h
    split at h
    · cases h
    · rename_i hchosen
      obtain ⟨rfl, rfl⟩ := Prod.mk.inj (pure_eq_ok.1 h)
      exact ⟨rfl, hchosen, rfl⟩
  · rintro ⟨rfl, hne, rfl⟩
    split
    · exact absurd rfl hne
    · rfl

theorem requestedTables_eq_ok {catalog : Catalog} {spec : QuerySpec}
    {required optional : List String}
    (h : requestedTables catalog spec = .ok (required, optional)) :
    spec.Requests catalog required optional := by
  obtain ⟨needed, filtered, hneeded, hfiltered, hrequired, -, rfl⟩ := requestedTables_eq_ok_iff.1 h
  obtain ⟨hnodup, howns, hneeds⟩ := Catalog.ownIds_eq_ok hneeded
  obtain ⟨hfilteredNodup, hfilteredOwns, -⟩ := Catalog.ownIds_eq_ok hfiltered
  have hchosen : required.Nodup ∧ ∀ id ∈ required, catalog.Owns id := by
    rw [hrequired]
    split
    · exact ⟨hfilteredNodup, hfilteredOwns⟩
    · exact ⟨hnodup, howns⟩
  have hneeded_sub : needed ⊆ required := by
    intro id hid
    rwa [hrequired, if_neg]
    simpa using List.ne_nil_of_mem hid
  refine ⟨hchosen.1.append (hfilteredNodup.filter _) ?_, ?_, ?_⟩
  · intro id hid hoptional
    simpa [hid] using (List.mem_filter.1 hoptional).2
  · intro id hid
    rcases List.mem_append.1 hid with hid | hid
    · exact hchosen.2 id hid
    · exact hfilteredOwns id (List.mem_filter.1 hid).1
  · intro id hid
    obtain ⟨table, htable, hmem⟩ := hneeds id hid
    exact ⟨table, htable, hneeded_sub hmem⟩

theorem mostFrequent_mem {ids : List String} {id : String} (h : mostFrequent ids = some id) :
    id ∈ ids := by
  -- The best item so far is one of the list.
  have hbest : ∀ best, mostFrequent ids = some best → best ∈ ids := by
    unfold mostFrequent
    refine List.foldlRecOn (motive := fun best => ∀ x, best = some x → x ∈ ids) ids _ (by simp) ?_
    intro best hbest next hnext x hx
    split at hx
    · exact Option.some.inj hx ▸ hnext
    · split at hx
      · exact Option.some.inj hx ▸ hnext
      · exact hbest x hx
  exact hbest id h

/-- Where a plan starts is one of the required tables. -/
theorem QuerySpec.rootId_mem {catalog : Catalog} {spec : QuerySpec}
    {required optional : List String} {rootId : String}
    (hrequests : spec.Requests catalog required optional)
    (h : spec.rootId catalog required = .ok rootId) : rootId ∈ required := by
  have needed_mem {id : String} {table : Table} (hid : id ∈ spec.neededIds)
      (htable : catalog.require id = .ok table) : table.id ∈ required := by
    obtain ⟨other, hother, hmem⟩ := hrequests.needs id hid
    rwa [← Except.ok.inj (hother.symm.trans htable)]
  unfold QuerySpec.rootId at h
  dsimp only at h
  split at h
  · rename_i hfrequent
    obtain rfl := pure_eq_ok.1 h
    obtain ⟨item, hitem, heq⟩ := List.mem_filterMap.1 (mostFrequent_mem hfrequent)
    obtain ⟨table, hresolve, rfl⟩ := Option.map_eq_some_iff.1 heq
    refine needed_mem ?_ (Catalog.require_eq_ok.2 hresolve)
    simp only [neededIds, List.mem_append, List.mem_map]
    exact .inl (.inl (.inr ⟨item, hitem, rfl⟩))
  · rename_i id _ _ hkeys
    obtain ⟨table, htable, heq⟩ := bind_eq_ok.1 h
    obtain rfl := pure_eq_ok.1 heq
    refine needed_mem ?_ htable
    have hid : id ∈ spec.groupBy.map (·.tableId) ++ spec.orderBy.map (·.tableId) := by
      rw [hkeys]
      exact List.mem_cons_self
    rw [neededIds, List.append_assoc]
    exact List.mem_append_right _ hid
  · obtain rfl := pure_eq_ok.1 h
    simp
  · cases h

theorem Catalog.executable_eq_ok {catalog : Catalog} {id : String} {table : Table} :
    catalog.executable id = .ok table ↔ catalog.resolve? id = some table ∧
      table.executable = true ∧ (presentText table.runtimeRef).isSome = true := by
  unfold executable
  cases catalog.resolve? id with
  | none => simp
  | some other =>
    dsimp only
    split
    · rename_i h
      rw [Bool.and_eq_true] at h
      constructor
      · rintro ⟨⟩
        exact ⟨rfl, h⟩
      · rintro ⟨⟨⟩, -⟩
        rfl
    · rename_i h
      rw [Bool.and_eq_true] at h
      constructor
      · rintro ⟨⟩
      · rintro ⟨⟨⟩, hruns⟩
        exact absurd hruns h

/-- The tables that a plan may use are those with the identifiers of the request. -/
theorem ids_of_executable {catalog : Catalog} {ids : List String} {tables : List Table}
    (howns : ∀ id ∈ ids, catalog.Owns id) (h : ids.mapM catalog.executable = .ok tables) :
    tables.map Table.id = ids := by
  have hall := forall₂_of_mapM h
  clear h
  induction hall with
  | nil => rfl
  | @cons id table rest others htable _ ih =>
    rw [List.map_cons, ih fun other hother => howns other (by simp [hother])]
    congr 1
    exact Catalog.id_of_resolve (howns id (by simp)) (Catalog.executable_eq_ok.1 htable).1

theorem Table.checkEngine_eq_ok {table : Table} :
    table.checkEngine = .ok () ↔ table.engine ∈ supportedEngines := by
  unfold checkEngine
  split <;> simp_all

/-- The engine of a plan is supported and is that of all of its tables. -/
theorem commonEngine_eq_ok {tables : List Table} {engine : String} :
    commonEngine tables = .ok engine ↔
      engine ∈ supportedEngines ∧ ∀ other, (∃ table ∈ tables, table.engine = other) ↔
        other = engine := by
  have hone : (∀ other, (∃ table ∈ tables, table.engine = other) ↔ other = engine) ↔
      distinct (tables.map Table.engine) = [engine] := by
    simp [distinct_eq_singleton]
  unfold commonEngine
  rw [bind_eq_ok, hone]
  constructor
  · rintro ⟨⟨⟩, hchecked, h⟩
    split at h
    · rename_i hdistinct
      obtain rfl := pure_eq_ok.1 h
      obtain ⟨table, hmem, heq⟩ := (hone.2 hdistinct _).2 rfl
      exact ⟨heq ▸ Table.checkEngine_eq_ok.1 (forM_eq_ok.1 hchecked table hmem), hdistinct⟩
    · cases h
  · rintro ⟨hsupported, hdistinct⟩
    refine ⟨(), forM_eq_ok.2 fun table hmem => Table.checkEngine_eq_ok.2 ?_, ?_⟩
    · rwa [(hone.2 hdistinct table.engine).1 ⟨table, hmem, rfl⟩]
    · rw [hdistinct]
      rfl

theorem JoinPlan.aliasOf_eq_ok {joins : JoinPlan} {id aliasName : String} :
    joins.aliasOf id = .ok aliasName ↔ joins.aliases.find? id = some aliasName := by
  unfold aliasOf
  cases joins.aliases.find? id <;> simp

/-- The alias of a table is listed with the table. -/
theorem JoinPlan.mem_aliases_of_aliasOf {joins : JoinPlan} {id aliasName : String}
    (h : joins.aliasOf id = .ok aliasName) : (id, aliasName) ∈ joins.aliases := by
  have hfind := (Option.filter_eq_some_iff.1 (aliasOf_eq_ok.1 h)).1
  obtain ⟨entry, hentry, rfl⟩ := Option.map_eq_some_iff.1 hfind
  have hid : entry.1 = id := by simpa using List.find?_some hentry
  exact hid ▸ List.mem_of_find?_eq_some hentry

/-! ### Stages -/

/-- The tables of a request and how they are connected. -/
structure PlanScope where
  required : List String
  optional : List String
  /-- The tables of the request, those that are left out included. -/
  tables : List Table
  root : Table
  relationships : List Relationship
  skipped : List String

/-- What the stages of compiling a request produce, up to the statement. -/
structure PlanStages extends PlanScope where
  engine : String
  joins : JoinPlan
  rootAlias : String
  terms : List SelectTerm
  filters : List FilterTerm
  groupBy : List SortKey
  orderBy : List (SortKey × Direction)

/-- The scope is that of a request. -/
structure PlanScope.Connects (scope : PlanScope) (catalog : Catalog) (spec : QuerySpec) :
    Prop where
  requested : requestedTables catalog spec = .ok (scope.required, scope.optional)
  executable :
    (scope.required ++ scope.optional).mapM catalog.executable = .ok scope.tables
  rooted : ∃ rootId, spec.rootId catalog scope.required = .ok rootId ∧
    catalog.require rootId = .ok scope.root
  connected : connect ⟨catalog.relationships, scope.tables.map Table.id⟩ scope.tables
    scope.root.id scope.required scope.optional = .ok (scope.relationships, scope.skipped)

namespace PlanStages

def statement (stages : PlanStages) (limits : RowLimits) (spec : QuerySpec) : SelectStatement :=
  { dialect := Dialect.ofEngine stages.engine, distinct := isDistinct spec stages.terms
    terms := stages.terms, root := stages.root, rootAlias := stages.rootAlias
    joins := stages.joins.joins, filters := stages.filters, groupBy := stages.groupBy
    orderBy := stages.orderBy, limit := limits.resolve spec.limit }

def plan (stages : PlanStages) (limits : RowLimits) (catalog : Catalog) (spec : QuerySpec) :
    QueryPlan where
  model := catalog.model
  engine := stages.engine
  sql := (stages.statement limits spec).write
  parameters := (stages.statement limits spec).parameters
  root := stages.root
  tables := stages.tables.filter fun table => !stages.skipped.contains table.id
  relationships := stages.relationships
  columns := stages.terms.map SelectTerm.name
  skipped := stages.skipped

/-- All stages of a request. -/
structure Compiles (stages : PlanStages) (catalog : Catalog) (spec : QuerySpec) : Prop
    extends stages.toPlanScope.Connects catalog spec where
  columns : catalog.checkColumns spec = .ok ()
  engine : commonEngine stages.tables = .ok stages.engine
  joined : JoinPlan.ofRelationships stages.tables stages.root.id stages.relationships =
    .ok stages.joins
  rootAlias : stages.joins.aliasOf stages.root.id = .ok stages.rootAlias
  terms : PlanContext.select ⟨catalog, stages.joins⟩ stages.rootAlias spec.select = .ok stages.terms
  filters : PlanContext.filters ⟨catalog, stages.joins⟩ (Dialect.ofEngine stages.engine)
    stages.skipped spec.filters = .ok stages.filters
  groupBy : PlanContext.groupBy ⟨catalog, stages.joins⟩ spec.groupBy stages.terms =
    .ok stages.groupBy
  orderBy : PlanContext.orderBy ⟨catalog, stages.joins⟩ spec.orderBy stages.terms =
    .ok stages.orderBy

end PlanStages

/-- The tables of a request, how they are connected, and the engine that runs queries on them. -/
def PlanScope.survey (catalog : Catalog) (spec : QuerySpec) :
    Except Fault (PlanScope × String) := do
  let (required, optional) ← requestedTables catalog spec
  catalog.checkColumns spec
  let tables ← (required ++ optional).mapM catalog.executable
  let engine ← commonEngine tables
  let rootId ← spec.rootId catalog required
  let root ← catalog.require rootId
  let (relationships, skipped) ←
    connect ⟨catalog.relationships, tables.map (·.id)⟩ tables root.id required optional
  return (⟨required, optional, tables, root, relationships, skipped⟩, engine)

/-- The parts of the statement for tables that are connected. -/
def PlanScope.compile (scope : PlanScope) (engine : String) (catalog : Catalog) (spec : QuerySpec) :
    Except Fault PlanStages := do
  let joins ← JoinPlan.ofRelationships scope.tables scope.root.id scope.relationships
  let context : PlanContext := ⟨catalog, joins⟩
  let rootAlias ← joins.aliasOf scope.root.id
  let terms ← context.select rootAlias spec.select
  let filters ← context.filters (Dialect.ofEngine engine) scope.skipped spec.filters
  let groupBy ← context.groupBy spec.groupBy terms
  let orderBy ← context.orderBy spec.orderBy terms
  return ⟨scope, engine, joins, rootAlias, terms, filters, groupBy, orderBy⟩

/-- A plan is built in two halves: the tables are connected before anything is compiled. -/
theorem QueryPlan.build_eq (limits : RowLimits) (catalog : Catalog) (spec : QuerySpec) :
    QueryPlan.build limits catalog spec = (do
      let (scope, engine) ← PlanScope.survey catalog spec
      let stages ← scope.compile engine catalog spec
      return stages.plan limits catalog spec) := by
  simp only [QueryPlan.build, PlanScope.survey, bind_assoc]
  refine bind_congr fun ⟨required, optional⟩ => ?_
  dsimp only
  refine bind_congr fun _ => bind_congr fun tables => bind_congr fun engine =>
    bind_congr fun rootId => bind_congr fun root => bind_congr fun ⟨relationships, skipped⟩ => ?_
  simp only [PlanScope.compile, bind_assoc, pure_bind]
  rfl

theorem PlanScope.survey_eq_ok {catalog : Catalog} {spec : QuerySpec} {scope : PlanScope}
    {engine : String} (h : survey catalog spec = .ok (scope, engine)) :
    scope.Connects catalog spec ∧ catalog.checkColumns spec = .ok () ∧
      commonEngine scope.tables = .ok engine := by
  unfold survey at h
  simp only [bind_eq_ok, lift_eq_ok, pure_eq_ok, Prod.exists, Prod.mk.injEq] at h
  obtain ⟨required, optional, hrequested, ⟨⟩, hcolumns, tables, hexecutable, _, hengine, rootId,
    hrootId, root, hroot, relationships, skipped, hconnected, rfl, rfl⟩ := h
  exact ⟨⟨hrequested, hexecutable, ⟨rootId, hrootId, hroot⟩, hconnected⟩, hcolumns, hengine⟩

theorem PlanScope.compile_eq_ok {catalog : Catalog} {spec : QuerySpec} {scope : PlanScope}
    {engine : String} {stages : PlanStages} (hsurvey : survey catalog spec = .ok (scope, engine))
    (h : scope.compile engine catalog spec = .ok stages) :
    stages.toPlanScope = scope ∧ stages.engine = engine ∧ stages.Compiles catalog spec := by
  simp only [compile, bind_eq_ok, pure_eq_ok] at h
  obtain ⟨joins, hjoined, rootAlias, hrootAlias, terms, hterms, filters, hfilters, groupBy,
    hgroupBy, orderBy, horderBy, rfl⟩ := h
  obtain ⟨hscope, hcolumns, hengine⟩ := survey_eq_ok hsurvey
  exact ⟨rfl, rfl,
    ⟨hscope, hcolumns, hengine, hjoined, hrootAlias, hterms, hfilters, hgroupBy, horderBy⟩⟩

theorem QueryPlan.build_stages {limits : RowLimits} {catalog : Catalog} {spec : QuerySpec}
    {plan : QueryPlan} (h : build limits catalog spec = .ok plan) :
    ∃ stages : PlanStages,
      PlanScope.survey catalog spec = .ok (stages.toPlanScope, stages.engine) ∧
        stages.Compiles catalog spec ∧ plan = stages.plan limits catalog spec := by
  rw [build_eq] at h
  simp only [bind_eq_ok, pure_eq_ok, Prod.exists] at h
  obtain ⟨scope, engine, hsurvey, stages, hstages, rfl⟩ := h
  obtain ⟨rfl, rfl, hcompiles⟩ := PlanScope.compile_eq_ok hsurvey hstages
  exact ⟨stages, hsurvey, hcompiles, rfl⟩

/-- A plan is the last stage of its request. -/
theorem build_eq_ok {limits : RowLimits} {catalog : Catalog} {spec : QuerySpec}
    {plan : QueryPlan} (h : QueryPlan.build limits catalog spec = .ok plan) :
    ∃ stages : PlanStages, stages.Compiles catalog spec ∧
      plan = stages.plan limits catalog spec := by
  obtain ⟨stages, -, hcompiles, hplan⟩ := QueryPlan.build_stages h
  exact ⟨stages, hcompiles, hplan⟩

/-! ### Faults -/

/-- The kinds of faults that are reported while a plan is built, the joins apart. -/
def planFaultKinds : List ErrorKind :=
  [.invalidRequest, .tableNotExecutable, .engineNotSupported, .crossSourceBlocked,
    .noRelationshipPath]

/-- A report of a stage of planning. -/
def Report.OfPlan (report : Report) : Prop :=
  report.kind ∈ planFaultKinds

/-- A report of one kind. -/
def Report.OfKind (kind : ErrorKind) (report : Report) : Prop :=
  report.kind = kind

theorem Report.OfKind.ofPlan {kind : ErrorKind} {report : Report} (h : report.OfKind kind)
    (hkind : kind ∈ planFaultKinds) : report.OfPlan := by
  rwa [OfPlan, h]

/-- A fault that is reported as one of a kind. -/
def Fault.IsReported (kind : ErrorKind) (fault : Fault) : Prop :=
  ∃ report : Report, fault = .reported report ∧ report.OfKind kind

namespace Catalog

variable (catalog : Catalog)

theorem require_fails (id : String) :
    FailsOnly (Report.OfKind .invalidRequest) (catalog.require id) := by
  unfold require
  split
  · exact .ok
  · exact .error rfl

theorem ownIds_fails (ids : List String) :
    FailsOnly (Report.OfKind .invalidRequest) (catalog.ownIds ids) :=
  (FailsOnly.mapM fun id _ => catalog.require_fails id).map

theorem requireColumn_fails (ref : ColumnRef) :
    FailsOnly (Report.OfKind .invalidRequest) (catalog.requireColumn ref) := by
  refine (catalog.require_fails _).bind fun table _ => ?_
  split
  · exact .pure
  · exact .error rfl

theorem checkSelected_fails (item : SelectItem) :
    FailsOnly (Report.OfKind .invalidRequest) (catalog.checkSelected item) := by
  unfold checkSelected
  split
  · split
    · exact .error rfl
    · exact .pure
  · exact catalog.requireColumn_fails _

theorem checkColumns_fails (spec : QuerySpec) :
    FailsOnly (Report.OfKind .invalidRequest) (catalog.checkColumns spec) := by
  refine FailsOnly.bind (.forM fun item _ => catalog.checkSelected_fails item) fun _ _ => ?_
  exact .forM fun ref _ => catalog.requireColumn_fails ref

theorem executable_fails (id : String) :
    FailsOnly (Fault.Reports (Report.OfKind .tableNotExecutable)) (catalog.executable id) := by
  unfold executable
  split
  · exact .error (by rintro _ ⟨⟩)
  · split
    · exact .ok
    · exact .error (Fault.reports_reported.2 rfl)

theorem requestedTables_fails (spec : QuerySpec) :
    FailsOnly (Report.OfKind .invalidRequest) (requestedTables catalog spec) := by
  refine (catalog.ownIds_fails _).bind fun needed _ => ?_
  refine (catalog.ownIds_fails _).bind fun filtered _ => ?_
  split
  · exact .error rfl
  · exact .pure

theorem rootId_fails (spec : QuerySpec) (required : List String) :
    FailsOnly (Report.OfKind .invalidRequest) (spec.rootId catalog required) := by
  unfold QuerySpec.rootId
  dsimp only
  split
  · exact .pure
  · exact (catalog.require_fails _).bind fun _ _ => .pure
  · exact .pure
  · exact .error rfl

end Catalog

theorem Table.checkEngine_fails (table : Table) :
    FailsOnly (Report.OfKind .engineNotSupported) table.checkEngine := by
  unfold checkEngine
  split
  · exact .ok
  · exact .error rfl

theorem commonEngine_fails (tables : List Table) :
    FailsOnly Report.OfPlan (commonEngine tables) := by
  refine FailsOnly.bind (.forM fun table _ => ?_) fun _ _ => ?_
  · exact table.checkEngine_fails.mono fun _ hkind => hkind.ofPlan (by decide)
  · split
    · exact .pure
    · exact .error (show ErrorKind.crossSourceBlocked ∈ planFaultKinds by decide)

theorem connect_fails (graph : JoinGraph) (tables : List Table) (rootId : String)
    (required optional : List String) :
    FailsOnly (Report.OfKind .noRelationshipPath)
      (connect graph tables rootId required optional) := by
  unfold connect
  dsimp only
  split
  · exact .error rfl
  · exact .pure

namespace JoinPlan

variable {p : Report → Prop}

/-- A table without an alias is no fault that is reported. -/
theorem aliasOf_fails (joins : JoinPlan) (id : String) :
    FailsOnly (Fault.Reports p) (joins.aliasOf id) := by
  unfold aliasOf
  split
  · exact .ok
  · exact .error (by rintro _ ⟨⟩)

theorem extend_fails (tables : List Table) (joins : JoinPlan) (r : Relationship) :
    FailsOnly (Fault.Reports p) (joins.extend tables r) := by
  unfold extend
  dsimp only
  split
  · exact .error (by rintro _ ⟨⟩)
  · exact (joins.aliasOf_fails _).bind fun _ _ => .pure

/-- Relationships that cannot be joined are reported. -/
theorem grow_fails (tables : List Table) (joins : JoinPlan) (pending : List Relationship) :
    FailsOnly (Fault.Reports (Report.OfKind .joinGraph))
      (joins.grow tables pending) := by
  induction joins, pending using JoinPlan.grow.induct with
  | case1 joins pending r others taken ih =>
    rw [grow]
    split
    · rename_i htaken
      cases htaken.symm.trans taken
      exact (joins.extend_fails tables r).bind fun joins _ => ih joins
    · rename_i htaken
      cases htaken.symm.trans taken
  | case2 joins pending taken hempty =>
    rw [grow]
    split
    · rename_i htaken
      cases htaken.symm.trans taken
    · exact if_pos hempty ▸ .ok
  | case3 joins pending taken hpending =>
    rw [grow]
    split
    · rename_i htaken
      cases htaken.symm.trans taken
    · exact if_neg hpending ▸ .error (Fault.reports_reported.2 rfl)

end JoinPlan

namespace PlanContext

variable (context : PlanContext)

theorem column_fails (ref : ColumnRef) :
    FailsOnly (Fault.Reports (Report.OfKind .invalidRequest)) (context.column ref) := by
  refine (context.catalog.require_fails _).lift.bind fun table _ => ?_
  exact (context.joins.aliasOf_fails _).bind fun _ _ => .pure

theorem selectFrom_fails (place : Nat) (taken : List String) (items : List SelectItem) :
    FailsOnly (Fault.Reports (Report.OfKind .invalidRequest))
      (context.selectFrom place taken items) := by
  induction items generalizing place taken with
  | nil => exact .ok
  | cons item rest ih =>
    unfold selectFrom
    refine (context.catalog.require_fails _).lift.bind fun table _ => ?_
    refine (context.joins.aliasOf_fails _).bind fun aliasName _ => ?_
    split <;> exact (ih _ _).bind fun _ _ => .pure

theorem select_fails (rootAlias : String) (items : List SelectItem) :
    FailsOnly (Fault.Reports (Report.OfKind .invalidRequest)) (context.select rootAlias items) := by
  unfold select
  split
  · exact .ok
  · exact context.selectFrom_fails _ _ _

theorem groupBy_fails (items : List ColumnRef) (terms : List SelectTerm) :
    FailsOnly (Fault.Reports (Report.OfKind .invalidRequest)) (context.groupBy items terms) := by
  unfold groupBy
  split
  · exact .mapM fun item _ => (context.column_fails item).map
  · split <;> exact .ok

theorem orderBy_fails (items : List OrderItem) (terms : List SelectTerm) :
    FailsOnly (Fault.Reports (Report.OfKind .invalidRequest)) (context.orderBy items terms) := by
  unfold orderBy
  split
  · exact .mapM fun item _ => (context.column_fails _).bind fun _ _ => .pure
  · split <;> exact .ok

theorem conditionIn_fails (dialect : Dialect) (item : FilterItem) :
    FailsOnly (Fault.Reports (Report.OfKind .invalidRequest)) (item.conditionIn dialect) := by
  refine FailsOnly.bind (FailsOnly.lift ?_) fun condition _ => ?_
  · unfold FilterItem.condition
    split <;> first
      | exact .ok
      | exact .error rfl
      | (split <;> first | exact .ok | exact .error rfl)
  · split
    · exact .pure
    · exact .error (by rintro _ ⟨⟩)

theorem filterTerms_fails (dialect : Dialect) (aliases : Aliases)
    (items : List (String × FilterItem)) :
    FailsOnly (Fault.Reports (Report.OfKind .invalidRequest))
      (filterTerms dialect aliases items) := by
  induction items with
  | nil => exact .ok
  | cons entry rest ih =>
    unfold filterTerms
    split
    · exact ih
    · exact (conditionIn_fails _ _).bind fun _ _ => ih.bind fun _ _ => .pure

theorem filters_fails (dialect : Dialect) (skipped : List String) (items : List FilterItem) :
    FailsOnly (Fault.Reports (Report.OfKind .invalidRequest))
      (context.filters dialect skipped items) := by
  refine FailsOnly.bind (.mapM fun item _ => ?_) fun owned _ => filterTerms_fails _ _ _
  exact (context.catalog.require_fails _).lift.bind fun _ _ => .pure

end PlanContext

end SemanticLayer
