import SemanticLayer.Proofs.Plan.Growth
import SemanticLayer.Proofs.Plan.Reordering
import SemanticLayer.Proofs.Plan.Values

/-!
Which faults of planning are reported. Almost all of them are: a request that asks for what is not
there, or what cannot be joined, ends in a report. Two sorts of requests do not. One puts a whole
number beyond the range of binary numbers into a statement whose values are written out. The other
one refers to a table that has been left without an alias, because relationships on the way to it
share an identifier.
-/

namespace SemanticLayer

/-- The fault is one that callers get a report of. -/
def Fault.HasReport (fault : Fault) : Prop :=
  ∃ report, fault = .reported report

theorem Fault.IsReported.hasReport {kind : ErrorKind} {fault : Fault} (h : fault.IsReported kind) :
    fault.HasReport := by
  obtain ⟨report, rfl, -⟩ := h
  exact ⟨report, rfl⟩

theorem Fault.hugeInteger_not_hasReport : ¬ Fault.hugeInteger.HasReport := by
  rintro ⟨report, ⟨⟩⟩

theorem FailsOnly.hasReport {α : Type} (x : Except Report α) :
    FailsOnly Fault.HasReport (liftM x : Except Fault α) := by
  cases x with
  | error report => exact .error ⟨report, rfl⟩
  | ok a => exact .ok

/-! ### Columns without aliases -/

namespace PlanContext

variable {context : PlanContext} {fault : Fault}

/-- One of the columns is of a table without an alias. The fault names the first such table. -/
def Strands (context : PlanContext) (refs : List ColumnRef) (fault : Fault) : Prop :=
  ∃ before ref after, refs = before ++ ref :: after ∧
    (∀ other ∈ before, context.Knows other.tableId) ∧ ¬ context.Knows ref.tableId ∧
    ∃ table, context.catalog.resolve? ref.tableId = some table ∧ fault = .absentTable table.id

theorem Strands.not_hasReport {refs : List ColumnRef} (h : context.Strands refs fault) :
    ¬ fault.HasReport := by
  obtain ⟨before, ref, after, -, -, -, table, -, rfl⟩ := h
  rintro ⟨report, ⟨⟩⟩

theorem Strands.not_known {refs : List ColumnRef} (h : context.Strands refs fault) :
    ¬ ∀ ref ∈ refs, context.Knows ref.tableId := by
  obtain ⟨before, ref, after, rfl, -, hnot, -⟩ := h
  exact fun hknown => hnot (hknown ref (by simp))

theorem exists_column_iff {ref : ColumnRef} :
    (∃ term, context.column ref = .ok term) ↔ context.Knows ref.tableId := by
  refine ⟨fun ⟨term, hterm⟩ => ?_, exists_column⟩
  unfold column at hterm
  simp only [bind_eq_ok, lift_eq_ok] at hterm
  obtain ⟨table, htable, aliasName, halias, -⟩ := hterm
  exact ⟨table, aliasName, htable, halias⟩

/-- A column of a table that is there fails exactly if the table has no alias. -/
theorem column_eq_error {ref : ColumnRef} {table : Table}
    (htable : context.catalog.resolve? ref.tableId = some table) :
    context.column ref = .error fault ↔
      ¬ context.Knows ref.tableId ∧ fault = .absentTable table.id := by
  have hcolumn : context.column ref = (do
      let aliasName ← context.joins.aliasOf table.id
      return ⟨aliasName, ref.column, ref.part⟩) := by
    unfold column
    rw [bind_of_ok (lift_eq_ok.2 (Catalog.require_eq_ok.2 htable))]
  rw [← exists_column_iff, hcolumn]
  unfold JoinPlan.aliasOf
  cases context.joins.aliases.find? table.id with
  | some aliasName => simp [bind, Except.bind, pure, Except.pure]
  | none => simp [bind, Except.bind, eq_comm]

/-- Columns of tables that are there fail at the first table without an alias. -/
theorem columns_eq_error {refs : List ColumnRef}
    (htables : ∀ ref ∈ refs, ∃ table, context.catalog.resolve? ref.tableId = some table) :
    refs.mapM context.column = .error fault ↔ context.Strands refs fault := by
  rw [mapM_eq_error]
  refine exists_congr fun before => exists_congr fun ref => exists_congr fun after =>
    and_congr_right fun heq => ?_
  obtain ⟨table, htable⟩ := htables ref (heq ▸ by simp)
  simp only [exists_column_iff, column_eq_error htable, htable, Option.some.injEq]
  constructor
  · rintro ⟨hbefore, hnot, rfl⟩
    exact ⟨hbefore, hnot, table, rfl, rfl⟩
  · rintro ⟨hbefore, hnot, _, rfl, rfl⟩
    exact ⟨hbefore, hnot, rfl⟩

theorem exists_columns_iff {refs : List ColumnRef} :
    (∃ terms, refs.mapM context.column = .ok terms) ↔ ∀ ref ∈ refs, context.Knows ref.tableId := by
  constructor
  · rintro ⟨terms, hterms⟩ ref href
    obtain ⟨term, -, hterm⟩ := exists_result_of_forall₂ (forall₂_of_mapM hterms) ref href
    exact exists_column_iff.1 ⟨term, hterm⟩
  · exact fun h => exists_mapM fun ref href => exists_column (h ref href)

/-! ### Clauses fail as the columns in them do -/

theorem selectFrom_agree (place : Nat) (taken : List String) (items : List SelectItem) :
    FailsAlike (context.selectFrom place taken items)
      ((items.map (·.toColumnRef)).mapM context.column) := by
  induction items generalizing place taken with
  | nil => exact .ok trivial
  | cons item rest ih =>
    rw [List.map_cons, List.mapM_cons]
    unfold selectFrom column
    simp only [bind_assoc]
    refine .bind_same (fun _ => rfl) fun table _ => ?_
    refine .bind_same (fun _ => rfl) fun aliasName _ => ?_
    rw [pure_bind]
    split <;> exact (ih _ _).bind fun _ _ _ _ _ => .ok trivial

theorem select_agree (rootAlias : String) (items : List SelectItem) :
    FailsAlike (context.select rootAlias items)
      ((items.map (·.toColumnRef)).mapM context.column) := by
  unfold select
  split
  · rename_i hempty
    rw [List.isEmpty_iff.1 hempty]
    exact .ok trivial
  · exact selectFrom_agree _ _ _

theorem groupBy_agree (items : List ColumnRef) (terms : List SelectTerm) :
    FailsAlike (context.groupBy items terms) (items.mapM context.column) := by
  unfold groupBy
  split
  · exact .mapM fun ref _ => .map_left _ _
  · rename_i hempty
    have hnone : items = [] := by simpa using hempty
    rw [hnone]
    split <;> exact .ok trivial

theorem orderBy_agree (items : List OrderItem) (terms : List SelectTerm) :
    FailsAlike (context.orderBy items terms)
      ((items.map (·.toColumnRef)).mapM context.column) := by
  unfold orderBy
  split
  · simp only [List.mapM_map, bind_pure_comp]
    exact .mapM fun item _ => .map_left _ _
  · rename_i hempty
    have hnone : items = [] := by simpa using hempty
    rw [hnone]
    split <;> exact .ok trivial

end PlanContext

/-! ### Numbers beyond the range -/

theorem isWritable_eq_false {value : Json} :
    isWritable value = false ↔ ∃ n : Int, value = .int n ∧ hugeSize ≤ n.natAbs := by
  cases value <;> simp [isWritable]

/-- The filter puts a whole number beyond the range into a statement whose values are written
out. -/
structure FilterItem.Overflows (dialect : Dialect) (item : FilterItem) : Prop where
  dialect_eq : dialect = .bigQuery
  stated : ∃ condition, item.condition = .ok condition
  beyond : ∃ n : Int, .int n ∈ item.placed ∧ hugeSize ≤ n.natAbs

theorem FilterItem.conditionIn_eq_error {dialect : Dialect} {item : FilterItem} {fault : Fault}
    (hnot : ¬ fault.HasReport) : item.conditionIn dialect = .error fault ↔
      item.Overflows dialect ∧ fault = .hugeInteger := by
  unfold conditionIn
  cases hstated : item.condition with
  | error report =>
    constructor
    · rintro ⟨⟩
      exact absurd ⟨report, rfl⟩ hnot
    · rintro ⟨⟨-, ⟨condition, hcondition⟩, -⟩, -⟩
      rw [hstated] at hcondition
      cases hcondition
  | ok condition =>
    rw [bind_of_ok (lift_eq_ok.2 rfl)]
    split
    · rename_i hwritable
      constructor
      · rintro ⟨⟩
      · rintro ⟨⟨rfl, -, n, hn, hsize⟩, -⟩
        rw [Condition.isWritable, values_of_condition hstated, Bool.or_eq_true,
          List.all_eq_true] at hwritable
        have hin := hwritable.resolve_left (by decide) _ hn
        rw [isWritable_eq_false.2 ⟨n, rfl, hsize⟩] at hin
        cases hin
    · rename_i hwritable
      constructor
      · rintro ⟨⟩
        rw [Condition.isWritable, values_of_condition hstated, Bool.not_eq_true,
          Bool.or_eq_false_iff, List.all_eq_false] at hwritable
        obtain ⟨hdialect, value, hvalue, hbeyond⟩ := hwritable
        obtain ⟨n, rfl, hsize⟩ := isWritable_eq_false.1 (Bool.not_eq_true _ ▸ hbeyond)
        refine ⟨⟨?_, ⟨condition, hstated⟩, n, hvalue, hsize⟩, rfl⟩
        cases dialect with
        | postgres => cases hdialect
        | bigQuery => rfl
      · rintro ⟨-, rfl⟩
        rfl

namespace PlanContext

variable {context : PlanContext} {dialect : Dialect} {skipped : List String}

/-- The first of the filters that are kept and cannot be compiled is one that overflows. -/
def Overflows (context : PlanContext) (dialect : Dialect) (skipped : List String)
    (items : List FilterItem) : Prop :=
  ∃ before entry after, context.keptFilters skipped items = before ++ entry :: after ∧
    (∀ other ∈ before, ∃ condition, other.2.conditionIn dialect = .ok condition) ∧
    entry.2.Overflows dialect

theorem filters_eq_error {items : List FilterItem} {fault : Fault} (hnot : ¬ fault.HasReport)
    (htables : ∀ item ∈ items, (context.catalog.resolve? item.tableId).isSome = true) :
    context.filters dialect skipped items = .error fault ↔
      context.Overflows dialect skipped items ∧ fault = .hugeInteger := by
  have hterm (entry : String × FilterItem) :
      FailsAlike (FilterItem.termIn dialect entry) (entry.2.conditionIn dialect) := .map_left _ _
  rw [filters_eq htables, mapM_eq_error]
  simp only [(hterm _).error_iff, (hterm _).ok_iff, FilterItem.conditionIn_eq_error hnot, Overflows]
  constructor
  · rintro ⟨before, entry, after, heq, hbefore, hoverflows, hfault⟩
    exact ⟨⟨before, entry, after, heq, hbefore, hoverflows⟩, hfault⟩
  · rintro ⟨⟨before, entry, after, heq, hbefore, hoverflows⟩, hfault⟩
    exact ⟨before, entry, after, heq, hbefore, hoverflows, hfault⟩

/-- What stops the compilation of a request without a report: a table without an alias that it
selects from, a filter that overflows, or such a table that it groups or orders by. Each is found
only if those before it are not there. -/
inductive Breaks (context : PlanContext) (dialect : Dialect) (skipped : List String)
    (spec : QuerySpec) : Fault → Prop
  | select {fault : Fault}
      (strands : context.Strands (spec.select.map (·.toColumnRef)) fault) :
      Breaks context dialect skipped spec fault
  | filters (known : ∀ item ∈ spec.select, context.Knows item.tableId)
      (overflows : context.Overflows dialect skipped spec.filters) :
      Breaks context dialect skipped spec .hugeInteger
  | keys {fault : Fault} (known : ∀ item ∈ spec.select, context.Knows item.tableId)
      (compiled : ∃ terms, context.filters dialect skipped spec.filters = .ok terms)
      (strands : context.Strands (spec.groupBy ++ spec.orderBy.map (·.toColumnRef)) fault) :
      Breaks context dialect skipped spec fault

theorem Breaks.not_hasReport {spec : QuerySpec} {fault : Fault}
    (h : context.Breaks dialect skipped spec fault) : ¬ fault.HasReport := by
  cases h with
  | select strands => exact strands.not_hasReport
  | filters => exact Fault.hugeInteger_not_hasReport
  | keys _ _ strands => exact strands.not_hasReport

end PlanContext

/-- The tables of a request are connected and joined. -/
structure QuerySpec.Joins (catalog : Catalog) (spec : QuerySpec) (scope : PlanScope)
    (engine : String) (joins : JoinPlan) : Prop where
  surveyed : PlanScope.survey catalog spec = .ok (scope, engine)
  joined : JoinPlan.ofRelationships scope.tables scope.root.id scope.relationships = .ok joins

/-! ### Plans -/

namespace PlanScope

variable {scope : PlanScope} {engine : String} {catalog : Catalog} {spec : QuerySpec}
  {joins : JoinPlan} {fault : Fault}

/-- Once the tables are joined, a request fails as its columns and its filters do. -/
theorem Connects.compile_agree (h : scope.Connects catalog spec)
    (hjoins : JoinPlan.ofRelationships scope.tables scope.root.id scope.relationships = .ok joins)
    (engine : String) :
    FailsAlike (scope.compile engine catalog spec) (do
      let context : PlanContext := ⟨catalog, joins⟩
      let _ ← (spec.select.map (·.toColumnRef)).mapM context.column
      let _ ← context.filters (Dialect.ofEngine engine) scope.skipped spec.filters
      (spec.groupBy ++ spec.orderBy.map (·.toColumnRef)).mapM context.column) := by
  unfold compile
  rw [bind_of_ok hjoins]
  dsimp only
  rw [bind_of_ok (h.isTree hjoins).1.aliasOf_root]
  refine Agree.bind (PlanContext.select_agree _ _) fun terms _ _ _ _ => ?_
  refine .bind_same (fun _ => rfl) fun filters _ => ?_
  rw [List.mapM_append]
  refine Agree.bind (PlanContext.groupBy_agree _ _) fun _ _ _ _ _ => ?_
  exact Agree.bind (PlanContext.orderBy_agree _ _) fun _ _ _ _ _ => .ok trivial

theorem Connects.compile_eq_error (h : scope.Connects catalog spec)
    (hjoins : JoinPlan.ofRelationships scope.tables scope.root.id scope.relationships = .ok joins)
    (hnot : ¬ fault.HasReport) : scope.compile engine catalog spec = .error fault ↔
      PlanContext.Breaks ⟨catalog, joins⟩ (Dialect.ofEngine engine) scope.skipped spec fault := by
  have hneeds : ∀ id ∈ spec.neededIds, ∃ table, catalog.resolve? id = some table := by
    intro id hid
    obtain ⟨table, htable, -⟩ := (requestedTables_eq_ok h.requested).needs id hid
    exact ⟨table, Catalog.require_eq_ok.1 htable⟩
  simp only [QuerySpec.neededIds, List.forall_mem_append, List.forall_mem_map] at hneeds
  obtain ⟨⟨⟨-, hitems⟩, hgroupBy⟩, horderBy⟩ := hneeds
  have hselect : ∀ ref ∈ spec.select.map (·.toColumnRef),
      ∃ table, catalog.resolve? ref.tableId = some table := List.forall_mem_map.2 hitems
  have hkeys : ∀ ref ∈ spec.groupBy ++ spec.orderBy.map (·.toColumnRef),
      ∃ table, catalog.resolve? ref.tableId = some table :=
    List.forall_mem_append.2 ⟨hgroupBy, List.forall_mem_map.2 horderBy⟩
  have hfilters := resolve_of_requested h.requested
  rw [(h.compile_agree hjoins engine).error_iff, bind_eq_error,
    PlanContext.columns_eq_error hselect, exists_and_right, PlanContext.exists_columns_iff,
    bind_eq_error, PlanContext.filters_eq_error hnot hfilters, PlanContext.columns_eq_error hkeys,
    exists_and_right, List.forall_mem_map]
  constructor
  · rintro (hstrands | ⟨hknown, ⟨hoverflows, rfl⟩ | ⟨hcompiled, hstrands⟩⟩)
    · exact .select hstrands
    · exact .filters hknown hoverflows
    · exact .keys hknown hcompiled hstrands
  · rintro (hstrands | ⟨hknown, hoverflows⟩ | ⟨hknown, hcompiled, hstrands⟩)
    · exact .inl hstrands
    · exact .inr ⟨hknown, .inl ⟨hoverflows, rfl⟩⟩
    · exact .inr ⟨hknown, .inr ⟨hcompiled, hstrands⟩⟩

/-- Where every table has an identifier, all faults of connecting the tables are reported. -/
theorem survey_hasReport (hids : ∀ table ∈ catalog.tables, table.id ≠ "") :
    FailsOnly Fault.HasReport (survey catalog spec) := by
  unfold survey
  refine (FailsOnly.hasReport _).bind fun ⟨required, optional⟩ hrequested => ?_
  have howns := (requestedTables_eq_ok (lift_eq_ok.1 hrequested)).owns
  refine (FailsOnly.hasReport _).bind fun _ _ => ?_
  refine FailsOnly.bind (.mapM fun id hid => ?_) fun tables _ => ?_
  · obtain ⟨table, htable, -⟩ := (howns id hid).exists_resolve hids
    exact (Catalog.executable_isReported ⟨table, htable⟩).mono fun _ hfault => hfault.hasReport
  · refine (FailsOnly.hasReport _).bind fun _ _ => ?_
    refine (FailsOnly.hasReport _).bind fun _ _ => ?_
    refine (FailsOnly.hasReport _).bind fun _ _ => ?_
    exact (FailsOnly.hasReport _).bind fun _ _ => .pure

end PlanScope

namespace QueryPlan

variable {catalog : Catalog} {spec : QuerySpec}

/-- A fault without a report comes from the compilation of a request whose tables are joined. -/
theorem build_eq_unreported (limits : RowLimits) (hids : ∀ table ∈ catalog.tables, table.id ≠ "")
    {fault : Fault} (hnot : ¬ fault.HasReport) :
    build limits catalog spec = .error fault ↔
      ∃ scope engine joins, spec.Joins catalog scope engine joins ∧
        PlanContext.Breaks ⟨catalog, joins⟩ (Dialect.ofEngine engine) scope.skipped spec
          fault := by
  have hsurveyed : PlanScope.survey catalog spec ≠ .error fault := fun h =>
    hnot (PlanScope.survey_hasReport hids fault h)
  have hcompiled (scope : PlanScope) (engine : String) : (do
      let stages ← scope.compile engine catalog spec
      return stages.plan limits catalog spec) = .error fault ↔
        scope.compile engine catalog spec = .error fault := by
    rw [bind_pure_comp]
    exact (FailsAlike.map_left _ _).error_iff
  rw [build_eq, bind_eq_error, or_iff_right hsurveyed]
  simp only [Prod.exists, hcompiled]
  refine exists_congr fun scope => exists_congr fun engine => ?_
  constructor
  · rintro ⟨hsurvey, hcompile⟩
    have hconnects := (PlanScope.survey_eq_ok hsurvey).1
    rcases hconnects.joined_or_reported with ⟨joins, hjoins, -⟩ | ⟨other, hother, hreported⟩
    · exact ⟨joins, ⟨hsurvey, hjoins⟩, (hconnects.compile_eq_error hjoins hnot).1 hcompile⟩
    · rw [PlanScope.compile, hother] at hcompile
      cases hcompile
      exact absurd hreported.hasReport hnot
  · rintro ⟨joins, ⟨hsurvey, hjoins⟩, hbreaks⟩
    have hconnects := (PlanScope.survey_eq_ok hsurvey).1
    exact ⟨hsurvey, (hconnects.compile_eq_error hjoins hnot).2 hbreaks⟩

/-- Where relationships do not share identifiers, only numbers beyond the range break a request. -/
theorem breaks_iff_overflows {scope : PlanScope} {engine : String} {joins : JoinPlan}
    {fault : Fault} (hdistinct : (catalog.relationships.map Relationship.id).Nodup)
    (h : spec.Joins catalog scope engine joins) :
    PlanContext.Breaks ⟨catalog, joins⟩ (Dialect.ofEngine engine) scope.skipped spec fault ↔
      fault = .hugeInteger ∧ PlanContext.Overflows ⟨catalog, joins⟩ (Dialect.ofEngine engine)
        scope.skipped spec.filters := by
  have hknows := (PlanScope.survey_eq_ok h.surveyed).1.knows_needed hdistinct h.joined
  simp only [QuerySpec.neededIds, List.forall_mem_append, List.forall_mem_map] at hknows
  obtain ⟨⟨⟨-, hselect⟩, hgroupBy⟩, horderBy⟩ := hknows
  constructor
  · rintro (hstrands | ⟨-, hoverflows⟩ | ⟨-, -, hstrands⟩)
    · exact (hstrands.not_known (List.forall_mem_map.2 hselect)).elim
    · exact ⟨rfl, hoverflows⟩
    · refine (hstrands.not_known (List.forall_mem_append.2 ⟨hgroupBy, ?_⟩)).elim
      exact List.forall_mem_map.2 horderBy
  · rintro ⟨rfl, hoverflows⟩
    exact .filters hselect hoverflows

/-- Every fault of planning is reported, with two exceptions. The first filter that cannot be
compiled may put a whole number beyond the range into the statement; and a column may be of a table
that has been joined to no other, which takes relationships that share an identifier. -/
theorem build_unreported_iff (limits : RowLimits) (catalog : Catalog) (spec : QuerySpec)
    (hids : ∀ table ∈ catalog.tables, table.id ≠ "") :
    (∀ fault, build limits catalog spec = .error fault ∧ ¬ fault.HasReport ↔
        ∃ scope engine joins, spec.Joins catalog scope engine joins ∧
          PlanContext.Breaks ⟨catalog, joins⟩ (Dialect.ofEngine engine) scope.skipped spec
            fault) ∧
      ((catalog.relationships.map Relationship.id).Nodup →
        ∀ fault, build limits catalog spec = .error fault ∧ ¬ fault.HasReport ↔
          fault = .hugeInteger ∧ ∃ scope engine joins, spec.Joins catalog scope engine joins ∧
            PlanContext.Overflows ⟨catalog, joins⟩ (Dialect.ofEngine engine) scope.skipped
              spec.filters) := by
  have hall (fault : Fault) : build limits catalog spec = .error fault ∧ ¬ fault.HasReport ↔
      ∃ scope engine joins, spec.Joins catalog scope engine joins ∧
        PlanContext.Breaks ⟨catalog, joins⟩ (Dialect.ofEngine engine) scope.skipped spec
          fault := by
    constructor
    · rintro ⟨hbuild, hnot⟩
      exact (build_eq_unreported limits hids hnot).1 hbuild
    · rintro ⟨scope, engine, joins, hjoins, hbreaks⟩
      exact ⟨(build_eq_unreported limits hids hbreaks.not_hasReport).2
        ⟨scope, engine, joins, hjoins, hbreaks⟩, hbreaks.not_hasReport⟩
  refine ⟨hall, fun hdistinct fault => (hall fault).trans ?_⟩
  constructor
  · rintro ⟨scope, engine, joins, hjoins, hbreaks⟩
    obtain ⟨hfault, hoverflows⟩ := (breaks_iff_overflows hdistinct hjoins).1 hbreaks
    exact ⟨hfault, scope, engine, joins, hjoins, hoverflows⟩
  · rintro ⟨hfault, scope, engine, joins, hjoins, hoverflows⟩
    exact ⟨scope, engine, joins, hjoins,
      (breaks_iff_overflows hdistinct hjoins).2 ⟨hfault, hoverflows⟩⟩

/-- A request for the names that equal a number beyond the range. -/
def hugeNumberSpec : QuerySpec where
  dataModelId := none
  tableIds := ["names"]
  select := []
  filters := [⟨⟨"names", "name", none⟩, .equals, .int (Decimal.tenTo 309), .null, .and⟩]
  groupBy := []
  orderBy := []
  limit := none

theorem build_unreported_names :
    (∀ table ∈ namesCatalog.tables, table.id ≠ "") ∧
      (namesCatalog.relationships.map Relationship.id).Nodup ∧
      ∃ scope engine joins, hugeNumberSpec.Joins namesCatalog scope engine joins ∧
        PlanContext.Overflows ⟨namesCatalog, joins⟩ (Dialect.ofEngine engine) scope.skipped
          hugeNumberSpec.filters := by
  have hids : ∀ table ∈ namesCatalog.tables, table.id ≠ "" := by decide
  have hdistinct : (namesCatalog.relationships.map Relationship.id).Nodup := List.nodup_nil
  have hfails : build ⟨10, 100⟩ namesCatalog hugeNumberSpec = .error .hugeInteger :=
    fault?_eq_some.1 (by decide +kernel)
  have hiff := (build_unreported_iff ⟨10, 100⟩ namesCatalog hugeNumberSpec hids).2 hdistinct
  exact ⟨hids, hdistinct, ((hiff _).1 ⟨hfails, Fault.hugeInteger_not_hasReport⟩).2⟩

/-- Both exceptions occur, in catalogs whose tables have identifiers of their own. -/
theorem build_unreported :
    ((namesCatalog.tables.map Table.id).Nodup ∧ (∀ table ∈ namesCatalog.tables, table.id ≠ "") ∧
        build ⟨10, 100⟩ namesCatalog hugeNumberSpec = .error .hugeInteger) ∧
      let catalog := triangleCatalog ["shared", "shared", "direct"]
      (catalog.tables.map Table.id).Nodup ∧ (∀ table ∈ catalog.tables, table.id ≠ "") ∧
        build ⟨10, 100⟩ catalog (columnsSpec ["b", "c"]) = .error (.absentTable "c") := by
  refine ⟨⟨by decide, by decide, ?_⟩, by decide, by decide, ?_⟩
  · exact fault?_eq_some.1 (by decide +kernel)
  · exact fault?_eq_some.1 (by decide +kernel)

end QueryPlan

end SemanticLayer
