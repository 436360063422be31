import SemanticLayer.Execution.RawQuery
import SemanticLayer.Proofs.Guard.Rewriting
import SemanticLayer.Proofs.Plan.Connection
import SemanticLayer.Proofs.Plan.SpanningTree

/-!
Hand-written SQL stays in its scope. The tables that a text may name are those that a plan has been
made for, and the plan's statement is the text with the engine's names of these tables in place of
its references. A text that is not run has failed one check, and has passed all checks before it.
-/

namespace SemanticLayer

open Sql

/-- The table that a plan takes for an identifier. Plans go by the tables' own identifiers, so it is
the first table with the identifier of the one that is meant. -/
def Catalog.planned? (catalog : Catalog) (id : String) : Option Table :=
  (catalog.resolve? id).bind fun table => catalog.resolve? table.id

/-- Where no two tables share an identifier, it is the table that is meant. -/
theorem Catalog.resolve_of_planned {catalog : Catalog} {id : String} {table : Table}
    (hdistinct : (catalog.tables.map Table.id).Nodup) (h : catalog.planned? id = some table) :
    catalog.resolve? id = some table := by
  obtain ⟨meant, hmeant, hown⟩ := Option.bind_eq_some_iff.1 h
  have hmem := mem_of_resolve hmeant
  have hid : table.id = meant.id := id_of_resolve (List.mem_map_of_mem hmem) hown
  rwa [List.inj_on_of_nodup_map hdistinct (mem_of_resolve hown) hmem hid]

/-! ### Scope -/

/-- The name that stands in place of a reference: it is the only one among the tables that the
reference fits, and the engine's name of a table that an identifier is looked up as. -/
structure ScopedName (lookup : String → Option Table) (tableIds : List String)
    (tables : List Table) (r : TableReference) (name : String) : Prop where
  resolves : Guard.Resolves ⟨ScopedTable.ofTables tables⟩ r name
  listed : ∃ id ∈ tableIds, ∃ table, lookup id = some table ∧ table.runtimeRef = some name

/-- The tables are those that the identifiers are looked up as. One supported engine can run queries
on all of them, and they are connected. -/
structure CoversScope (catalog : Catalog) (lookup : String → Option Table)
    (tableIds : List String) (engine : String) (tables : List Table) : Prop where
  resolved : ∀ id ∈ tableIds, ∃ table ∈ tables, lookup id = some table
  listed : ∀ table ∈ tables, ∃ id ∈ tableIds, lookup id = some table
  executable : ∀ table ∈ tables,
    table.executable = true ∧ (presentText table.runtimeRef).isSome = true
  sameEngine : ∀ table ∈ tables, table.engine = engine
  supported : engine ∈ supportedEngines
  connected : ∀ table ∈ tables, ∀ other ∈ tables,
    JoinGraph.Connected ⟨catalog.relationships, tables.map Table.id⟩ table.id other.id

/-- A name that a reference stands for is that of a table that an identifier is looked up as. -/
theorem CoversScope.scopedName {catalog : Catalog} {lookup : String → Option Table}
    {tableIds : List String} {engine : String} {tables : List Table} {r : TableReference}
    {name : String} (h : CoversScope catalog lookup tableIds engine tables)
    (hresolves : Guard.Resolves ⟨ScopedTable.ofTables tables⟩ r name) :
    ScopedName lookup tableIds tables r name := by
  obtain ⟨entry, hentry, rfl⟩ := hresolves.exists_table
  obtain ⟨table, htable, hname⟩ := ScopedTable.mem_ofTables hentry
  obtain ⟨id, hid, hlookup⟩ := h.listed table htable
  exact ⟨hresolves, id, hid, table, hlookup, hname⟩

namespace QueryPlan

/-- The plan runs the text on the tables of the identifiers: every reference of the text is replaced
by the name of one of these tables, nothing else is changed, and then the rows are bounded. -/
structure IsConfined (plan : QueryPlan) (limits : RowLimits) (catalog : Catalog)
    (lookup : String → Option Table) (tableIds : List String) (text : String) : Prop
    extends CoversScope catalog lookup tableIds plan.engine plan.tables where
  parameters : plan.parameters = []
  whole : Token.textOf (tokenize text) = text
  sql : ∃ confined, Rewrites (ScopedName lookup tableIds plan.tables) 0
    (tableReferences (tokenize text)) (tokenize text) confined ∧
      boundedSql confined limits.max = .ok plan.sql

variable {plan : QueryPlan} {limits : RowLimits} {catalog : Catalog}
  {lookup other : String → Option Table} {tableIds : List String} {text sql : String}

/-- Only the tables that the identifiers are looked up as matter. -/
theorem IsConfined.of_lookup (h : plan.IsConfined limits catalog lookup tableIds text)
    (hsame : ∀ id ∈ tableIds, ∀ table, lookup id = some table → other id = some table) :
    plan.IsConfined limits catalog other tableIds text where
  resolved := by
    intro id hid
    obtain ⟨table, hmem, htable⟩ := h.resolved id hid
    exact ⟨table, hmem, hsame id hid table htable⟩
  listed := by
    intro table hmem
    obtain ⟨id, hid, htable⟩ := h.listed table hmem
    exact ⟨id, hid, hsame id hid table htable⟩
  executable := h.executable
  sameEngine := h.sameEngine
  supported := h.supported
  connected := h.connected
  parameters := h.parameters
  whole := h.whole
  sql := by
    obtain ⟨confined, hrewrites, hbounded⟩ := h.sql
    refine ⟨confined, hrewrites.mono fun r _ name hname => ⟨hname.resolves, ?_⟩, hbounded⟩
    obtain ⟨id, hid, table, htable, hrun⟩ := hname.listed
    exact ⟨id, hid, table, hsame id hid table htable, hrun⟩

/-- Without filters all tables are required, and none is left out. -/
theorem tables_of_no_filters {spec : QuerySpec} {stages : PlanStages}
    (h : stages.Compiles catalog spec) (hfilters : spec.filters = []) (limits : RowLimits) :
    stages.optional = [] ∧ catalog.ownIds spec.neededIds = .ok stages.required ∧
      (stages.plan limits catalog spec).tables = stages.tables := by
  have hscope := h.toConnects
  obtain ⟨needed, filtered, hneeded, hfiltered, hrequired, hne, hoptional⟩ :=
    requestedTables_eq_ok_iff.1 hscope.requested
  rw [hfilters] at hfiltered
  obtain rfl : [] = filtered := Except.ok.inj hfiltered
  have hnone : stages.optional = [] := hoptional
  obtain ⟨-, hskipped⟩ := unites_of_connect hscope.root_mem hscope.connected
  refine ⟨hnone, ?_, List.filter_eq_self.2 fun table _ => ?_⟩
  · rwa [hrequired, if_neg fun hempty => hne (hrequired.trans (if_pos hempty))]
  · simp [hskipped, hnone]

/-- A plan for a request without filters, of which all needed tables are listed, covers the
identifiers. -/
theorem covers_of_build {spec : QuerySpec}
    (h : QueryPlan.build limits catalog spec = .ok plan) (hfilters : spec.filters = [])
    (hneeds : ∀ id, id ∈ spec.neededIds ↔ id ∈ tableIds) :
    CoversScope catalog catalog.planned? tableIds plan.engine plan.tables := by
  obtain ⟨stages, hcompiles, rfl⟩ := build_eq_ok h
  have hscope := hcompiles.toConnects
  obtain ⟨hnone, hneeded, hkept⟩ := tables_of_no_filters hcompiles hfilters limits
  obtain ⟨hunites, -⟩ := unites_of_connect hscope.root_mem hscope.connected
  have hids : stages.tables.map Table.id = stages.required := by
    rw [hscope.tableIds, hnone, List.append_nil]
  have hmem (table : Table) : table ∈ stages.tables ↔
      ∃ id ∈ stages.required, catalog.executable id = .ok table := by
    rw [hscope.mem_tables, hnone, List.append_nil]
  obtain ⟨hsupported, hengine⟩ := commonEngine_eq_ok.1 hcompiles.engine
  rw [hkept]
  constructor
  case resolved =>
    intro id hid
    obtain ⟨meant, hmeant, hown⟩ :=
      (requestedTables_eq_ok hscope.requested).needs id ((hneeds id).2 hid)
    obtain ⟨table, htable, hrun⟩ := exists_result_of_forall₂ (forall₂_of_mapM hscope.executable)
      meant.id (List.mem_append_left _ hown)
    exact ⟨table, htable, Option.bind_eq_some_iff.2
      ⟨meant, Catalog.require_eq_ok.1 hmeant, (Catalog.executable_eq_ok.1 hrun).1⟩⟩
  case listed =>
    intro table htable
    obtain ⟨own, hown, hrun⟩ := (hmem table).1 htable
    obtain ⟨id, hid, meant, hmeant, rfl⟩ := (Catalog.mem_ownIds hneeded).1 hown
    exact ⟨id, (hneeds id).1 hid, Option.bind_eq_some_iff.2
      ⟨meant, hmeant, (Catalog.executable_eq_ok.1 hrun).1⟩⟩
  case executable =>
    intro table htable
    obtain ⟨id, -, hrun⟩ := (hmem table).1 htable
    exact (Catalog.executable_eq_ok.1 hrun).2
  case sameEngine =>
    intro table htable
    exact (hengine table.engine).1 ⟨table, htable, rfl⟩
  case supported => exact hsupported
  case connected =>
    intro table htable other hother
    exact hunites table.id (hids ▸ List.mem_map_of_mem htable) other.id
      (hids ▸ List.mem_map_of_mem hother)

end QueryPlan

/-! ### Checks -/

/-- What is checked before a text is run. -/
inductive RawSqlCheck where
  | readOnly
  | scope
  | plan
  | ambiguity
  | blocking
  deriving Repr, DecidableEq

namespace RawSqlCheck

/-- The checks in the order in which a text has to pass them. -/
def all : List RawSqlCheck := [.readOnly, .scope, .plan, .ambiguity, .blocking]

/-- The text that may be run and the plan for its tables, where there are both. -/
def Admits (limits : RowLimits) (catalog : Catalog) (tableIds : List String) (sql text : String)
    (plan : QueryPlan) : Prop :=
  checkReadOnly sql = .ok ⟨text, none⟩ ∧
    ∃ spec, scopeRequest tableIds = .ok spec ∧ QueryPlan.build limits catalog spec = .ok plan

/-- Whether the check refuses the text with the report. -/
def Refuses (limits : RowLimits) (catalog : Catalog) (tableIds : List String) (sql : String)
    (report : Report) : RawSqlCheck → Prop
  | .readOnly => ∃ text refusal, checkReadOnly sql = .ok ⟨text, some refusal⟩ ∧
      report = .make .unsafeSql refusal.message
  | .scope => tableIds = [] ∧
      report = .make .missingTableScope "tableIds are required when executing raw SQL"
  | .plan => (report.OfPlan ∨ report.kind = .joinGraph) ∧
      ∃ spec, scopeRequest tableIds = .ok spec ∧
        QueryPlan.build limits catalog spec = .error (.reported report)
  | .ambiguity => ∃ text plan, Admits limits catalog tableIds sql text plan ∧
      let guard : Guard := ⟨ScopedTable.ofTables plan.tables⟩
      (∃ r ∈ tableReferences (tokenize text), guard.IsAmbiguous r) ∧
        report = .ambiguous (guard.identifiersWith .ambiguous (tableReferences (tokenize text)))
  | .blocking => ∃ text plan, Admits limits catalog tableIds sql text plan ∧
      let guard : Guard := ⟨ScopedTable.ofTables plan.tables⟩
      (∃ r ∈ tableReferences (tokenize text), guard.IsBlocked r) ∧
        report = .blocked (guard.identifiersWith .blocked (tableReferences (tokenize text)))

/-- The report is that of the first check that refuses the text. -/
def FirstRefusal (limits : RowLimits) (catalog : Catalog) (tableIds : List String) (sql : String)
    (report : Report) : Prop :=
  ∃ passed check rest, all = passed ++ check :: rest ∧
    check.Refuses limits catalog tableIds sql report ∧
    ∀ earlier ∈ passed, ∀ other, ¬ earlier.Refuses limits catalog tableIds sql other

variable {limits : RowLimits} {catalog : Catalog} {tableIds : List String} {sql text : String}
  {plan : QueryPlan} {spec : QuerySpec}

theorem Admits.unique (h : Admits limits catalog tableIds sql text plan) {otherText : String}
    {otherPlan : QueryPlan} (hother : Admits limits catalog tableIds sql otherText otherPlan) :
    otherText = text ∧ otherPlan = plan := by
  obtain ⟨hread, spec, hspec, hbuild⟩ := h
  obtain ⟨hotherRead, otherSpec, hotherSpec, hotherBuild⟩ := hother
  obtain rfl := Except.ok.inj (hspec.symm.trans hotherSpec)
  cases hread.symm.trans hotherRead
  exact ⟨rfl, Except.ok.inj (hotherBuild.symm.trans hbuild)⟩

/-! A text is refused by the check that fails. -/

theorem refuses_readOnly {report : Report} (h : readOnlySql sql = .error (.reported report)) :
    readOnly.Refuses limits catalog tableIds sql report := by
  unfold readOnlySql at h
  split at h
  · cases h
  · cases h
  · rename_i text refusal hread
    cases h
    exact ⟨text, refusal, hread, rfl⟩

theorem refuses_scope {report : Report} (h : scopeRequest tableIds = .error (.reported report)) :
    scope.Refuses limits catalog tableIds sql report := by
  unfold scopeRequest at h
  split at h
  · cases h
    exact ⟨rfl, rfl⟩
  · split at h <;> cases h

theorem refuses_plan {report : Report} (hspec : scopeRequest tableIds = .ok spec)
    (h : QueryPlan.build limits catalog spec = .error (.reported report)) :
    RawSqlCheck.plan.Refuses limits catalog tableIds sql report := by
  have hkind : FailsOnly (Fault.Reports fun report => report.OfPlan ∨ report.kind = .joinGraph)
      (QueryPlan.build limits catalog spec) :=
    QueryPlan.build_failsOnly limits catalog spec (fun _ => .inl) fun scope _ =>
      (JoinPlan.grow_fails _ _ _).mono fun _ h => h.mono fun _ => .inr
  exact ⟨hkind _ h report rfl, spec, hspec, h⟩

/-! A check that a text has passed refuses it with no report. -/

theorem not_refuses_readOnly (h : checkReadOnly sql = .ok ⟨text, none⟩) (report : Report) :
    ¬ readOnly.Refuses limits catalog tableIds sql report := by
  rintro ⟨other, refusal, hother, -⟩
  cases h.symm.trans hother

theorem not_refuses_scope (h : scopeRequest tableIds = .ok spec) (report : Report) :
    ¬ scope.Refuses limits catalog tableIds sql report := by
  rintro ⟨rfl, -⟩
  cases h

theorem not_refuses_plan (h : Admits limits catalog tableIds sql text plan) (report : Report) :
    ¬ RawSqlCheck.plan.Refuses limits catalog tableIds sql report := by
  rintro ⟨-, other, hother, hfails⟩
  obtain ⟨-, spec, hspec, hbuild⟩ := h
  obtain rfl := Except.ok.inj (hspec.symm.trans hother)
  cases hbuild.symm.trans hfails

theorem not_refuses_ambiguity (h : Admits limits catalog tableIds sql text plan)
    (hclear : ∀ r ∈ tableReferences (tokenize text),
      ¬ Guard.IsAmbiguous ⟨ScopedTable.ofTables plan.tables⟩ r) (report : Report) :
    ¬ ambiguity.Refuses limits catalog tableIds sql report := by
  rintro ⟨otherText, otherPlan, hother, ⟨r, hr, hambiguous⟩, -⟩
  obtain ⟨rfl, rfl⟩ := h.unique hother
  exact hclear r hr hambiguous

end RawSqlCheck

theorem readOnlySql_eq_ok {sql text : String} :
    readOnlySql sql = .ok text ↔ checkReadOnly sql = .ok ⟨text, none⟩ := by
  unfold readOnlySql
  rcases checkReadOnly sql with cause | ⟨other, refusal⟩
  · simp
  · cases refusal <;> simp

/-- The request that stands for a text has no filters and needs just the tables of its scope. -/
theorem scopeRequest_eq_ok {tableIds : List String} {spec : QuerySpec}
    (h : scopeRequest tableIds = .ok spec) :
    spec.filters = [] ∧ ∀ id, id ∈ spec.neededIds ↔ id ∈ tableIds := by
  unfold scopeRequest at h
  split at h
  · cases h
  · split at h
    · cases h
    · obtain rfl := Except.ok.inj h
      refine ⟨rfl, fun id => ?_⟩
      have hfirst (p q : Prop) : p ∨ q ∨ p ↔ p ∨ q := by tauto
      simpa [QuerySpec.neededIds] using hfirst _ _

namespace QueryPlan

variable (limits : RowLimits) (catalog : Catalog) (tableIds : List String) (sql : String)

open RawSqlCheck in
/-- A text is refused by the first check that it does not pass. -/
theorem ofRawSql_fails :
    FailsOnly (Fault.Reports (FirstRefusal limits catalog tableIds sql))
      (ofRawSql limits catalog tableIds sql) := by
  unfold ofRawSql
  refine FailsOnly.bind ?_ fun text hread => ?_
  · rintro fault hfault report rfl
    exact ⟨[], .readOnly, _, rfl, refuses_readOnly hfault, by simp⟩
  have hadmissible := readOnlySql_eq_ok.1 hread
  refine FailsOnly.bind ?_ fun spec hspec => ?_
  · rintro fault hfault report rfl
    refine ⟨[.readOnly], .scope, _, rfl, refuses_scope hfault, ?_⟩
    simpa using not_refuses_readOnly hadmissible
  refine FailsOnly.bind ?_ fun plan hplan => ?_
  · rintro fault hfault report rfl
    refine ⟨[.readOnly, .scope], .plan, _, rfl, refuses_plan hspec hfault, ?_⟩
    simpa using ⟨not_refuses_readOnly hadmissible, not_refuses_scope hspec⟩
  have hadmits : Admits limits catalog tableIds sql text plan := ⟨hadmissible, spec, hspec, hplan⟩
  refine FailsOnly.bind (FailsOnly.lift ?_) fun confined _ => ?_
  · intro report hreport
    rcases Guard.confineTokens_eq_error hreport with
      ⟨hambiguous, heq⟩ | ⟨hclear, hblocked, heq⟩
    · refine ⟨[.readOnly, .scope, .plan], .ambiguity, _, rfl,
        ⟨text, plan, hadmits, hambiguous, heq⟩, ?_⟩
      simpa using ⟨not_refuses_readOnly hadmissible, not_refuses_scope hspec,
        not_refuses_plan hadmits⟩
    · refine ⟨[.readOnly, .scope, .plan, .ambiguity], .blocking, _, rfl,
        ⟨text, plan, hadmits, hblocked, heq⟩, ?_⟩
      simpa using ⟨not_refuses_readOnly hadmissible, not_refuses_scope hspec,
        not_refuses_plan hadmits, not_refuses_ambiguity hadmits hclear⟩
  · refine FailsOnly.bind ?_ fun _ _ => .pure
    rintro fault hfault report rfl
    unfold boundedSql at hfault
    cases hbound : boundRows confined limits.max <;> simp [hbound, Except.mapError] at hfault

/-- Hand-written SQL runs on the tables of its scope only. A plan for it has been made for just
these tables and runs the text that may be run, with a table's name in place of each reference; the
tables are those that the identifiers are looked up as where no two tables share an identifier. A
text that is refused is refused by the first check that it does not pass. -/
theorem ofRawSql_confined :
    match ofRawSql limits catalog tableIds sql with
    | .ok plan => ∃ text, checkReadOnly sql = .ok ⟨text, none⟩ ∧
        plan.IsConfined limits catalog catalog.planned? tableIds text ∧
        ((catalog.tables.map Table.id).Nodup →
          plan.IsConfined limits catalog catalog.resolve? tableIds text)
    | .error fault => fault.Reports (RawSqlCheck.FirstRefusal limits catalog tableIds sql) := by
  cases hresult : ofRawSql limits catalog tableIds sql with
  | error fault => exact ofRawSql_fails limits catalog tableIds sql fault hresult
  | ok plan =>
    unfold ofRawSql at hresult
    simp only [bind_eq_ok, lift_eq_ok, pure_eq_ok] at hresult
    obtain ⟨text, hread, spec, hspec, base, hbase, confined, hconfined, bounded, hbounded, rfl⟩ :=
      hresult
    obtain ⟨hfilters, hneeds⟩ := scopeRequest_eq_ok hspec
    have hcovers := covers_of_build hbase hfilters hneeds
    have hconfined : IsConfined { base with sql := bounded, parameters := [], columns := [] }
        limits catalog catalog.planned? tableIds text :=
      { toCoversScope := hcovers
        parameters := rfl
        whole := textOf_tokenize text
        sql := ⟨confined, (Guard.confineTokens_eq_ok hconfined).mono
          fun _ _ _ hname => hcovers.scopedName hname, hbounded⟩ }
    refine ⟨text, readOnlySql_eq_ok.1 hread, hconfined, fun hdistinct => ?_⟩
    exact hconfined.of_lookup fun _ _ _ htable => Catalog.resolve_of_planned hdistinct htable

end QueryPlan

/-- Two tables that share an identifier. No engine can run queries on the second one. -/
def sharedIdCatalog : Catalog where
  model := ⟨"sales", "main", "Sales", true, none, none⟩
  tables := [("live", "orders", true), ("old", "archive", false)].map
    fun (syncedTableId, name, executable) =>
      ⟨"x", syncedTableId, name, none, none, none, postgresEngine, some name, executable, none,
        some "public", some name, none, []⟩
  relationships := []

/-- Where tables share an identifier, a text may run though its scope is a table that no engine can
run queries on. -/
theorem QueryPlan.ofRawSql_sharedIdCatalog :
    ∃ plan table, QueryPlan.ofRawSql ⟨10, 100⟩ sharedIdCatalog ["old"] "SELECT id FROM orders" =
        .ok plan ∧
      sharedIdCatalog.resolve? "old" = some table ∧ table.executable = false := by
  have hruns : (QueryPlan.ofRawSql ⟨10, 100⟩ sharedIdCatalog ["old"]
      "SELECT id FROM orders").toOption.isSome = true := by
    decide +kernel
  have hmeant : (sharedIdCatalog.resolve? "old").map Table.executable = some false := by
    decide +kernel
  obtain ⟨table, htable, hexecutable⟩ := Option.map_eq_some_iff.1 hmeant
  cases hplan : QueryPlan.ofRawSql ⟨10, 100⟩ sharedIdCatalog ["old"] "SELECT id FROM orders" with
  | error fault => simp [hplan, Except.toOption] at hruns
  | ok plan => exact ⟨plan, table, rfl, htable, hexecutable⟩

end SemanticLayer
