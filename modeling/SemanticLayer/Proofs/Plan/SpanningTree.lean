import SemanticLayer.Proofs.Plan.Build
import SemanticLayer.Proofs.Plan.Routes

/-!
The joins of every plan are a spanning tree of the plan's tables. Building a plan therefore never
ends because relationships cannot be joined.
-/

namespace SemanticLayer

open JoinPlan

namespace SelectStatement

end SelectStatement

namespace PlanScope

variable {scope : PlanScope} {catalog : Catalog} {spec : QuerySpec}

theorem Connects.tableIds (h : scope.Connects catalog spec) :
    scope.tables.map Table.id = scope.required ++ scope.optional :=
  ids_of_executable (requestedTables_eq_ok h.requested).owns h.executable

/-- The tables are those that the identifiers of the request stand for, and an engine can run
queries on all of them. -/
theorem Connects.mem_tables (h : scope.Connects catalog spec) {table : Table} :
    table ∈ scope.tables ↔
      ∃ id ∈ scope.required ++ scope.optional, catalog.executable id = .ok table := by
  have hall := forall₂_of_mapM h.executable
  constructor
  · exact exists_item_of_forall₂ hall table
  · rintro ⟨id, hid, htable⟩
    obtain ⟨other, hother, heq⟩ := exists_result_of_forall₂ hall id hid
    obtain rfl : table = other := Except.ok.inj (htable.symm.trans heq)
    exact hother

theorem Connects.root_mem (h : scope.Connects catalog spec) : scope.root.id ∈ scope.required := by
  obtain ⟨rootId, hrootId, hroot⟩ := h.rooted
  have hrequests := requestedTables_eq_ok h.requested
  have hmem := QuerySpec.rootId_mem hrequests hrootId
  have howns := hrequests.owns rootId (List.mem_append_left _ hmem)
  rwa [Catalog.id_of_resolve howns (Catalog.require_eq_ok.1 hroot)]

/-- The identifiers of the tables that are not left out. -/
def usedIds (scope : PlanScope) : List String :=
  (scope.required ++ scope.optional).filter fun id => !scope.skipped.contains id

/-- The relationships that connect the tables of a request lead to just the tables that are not left
out. -/
theorem Connects.exists_leads (h : scope.Connects catalog spec)
    (hdistinct : (catalog.relationships.map Relationship.id).Nodup) :
    ∃ all, Leads [scope.root.id] scope.relationships all ∧ all.Nodup ∧
      (∀ id, id ∈ all ↔ id ∈ scope.usedIds) ∧
      ∀ r ∈ scope.relationships, r.isJoinable = true := by
  have htableIds := h.tableIds
  obtain ⟨all, hall, hrequired, hskipped, hoptional⟩ := connect_eq_ok hdistinct h.connected
  refine ⟨all, hall.leads, hall.leads.nodup (List.nodup_singleton _), ?_, ?_⟩
  · intro id
    simp only [usedIds, List.mem_filter, Bool.not_eq_eq_eq_not, Bool.not_true,
      List.contains_eq_mem, decide_eq_false_iff_not]
    constructor
    · intro hid
      obtain ⟨way, hway, -⟩ := hall.covers id hid
      constructor
      · rw [← htableIds]
        refine JoinGraph.mem_tableIds_of_path hway ?_
        rw [htableIds]
        exact List.mem_append_left _ h.root_mem
      · simp [hskipped, hway]
    · rintro ⟨hid, hleft⟩
      rcases List.mem_append.1 hid with hid | hid
      · exact hrequired hid
      · exact hoptional id hid hleft
  · intro r hr
    have hfollows := (hall.stored r hr).2
    simp only [JoinGraph.follows, Bool.and_eq_true] at hfollows
    exact hfollows.1.1

/-- The relationships that connect the tables of a request make a tree of just the tables that are
not left out. -/
theorem Connects.exists_tree (h : scope.Connects catalog spec)
    (hdistinct : (catalog.relationships.map Relationship.id).Nodup) :
    ∃ joins, ofRelationships scope.tables scope.root.id scope.relationships = .ok joins ∧
      joins.IsTree scope.root.id ∧ joins.ids.Perm scope.usedIds ∧
      joins.joins.map Join.relationship = scope.relationships ∧
      (∀ join ∈ joins.joins, join.table ∈ scope.tables) ∧
      ∀ r ∈ scope.relationships, r.isJoinable = true ∧ r.fromTableId ∈ scope.usedIds ∧
        r.toTableId ∈ scope.usedIds := by
  obtain ⟨all, hleads, hnodup, hused, hjoinable⟩ := h.exists_leads hdistinct
  have hsubset : all ⊆ scope.tables.map Table.id := by
    intro id hid
    rw [h.tableIds]
    exact (List.mem_filter.1 ((hused id).1 hid)).1
  have hstart : (start scope.root.id).IsTree scope.root.id := .start
  obtain ⟨joins, htree, hids, hjoins, htables, hgrow⟩ := grow_of_leads hstart hleads hsubset []
  refine ⟨joins, ?_, htree, ?_, hjoins, ?_, ?_⟩
  · rw [ofRelationships, ← List.append_nil scope.relationships, hgrow, grow_nil]
  · rw [hids]
    have hrequests := requestedTables_eq_ok h.requested
    exact (List.perm_ext_iff_of_nodup hnodup (hrequests.nodup.filter _)).2 hused
  · intro join hjoin
    exact (htables join hjoin).resolve_left List.not_mem_nil
  · intro r hr
    obtain ⟨hfrom, hto⟩ := hleads.ends r hr
    exact ⟨hjoinable r hr, (hused _).1 hfrom, (hused _).1 hto⟩

end PlanScope

namespace PlanStages

variable {stages : PlanStages} {limits : RowLimits} {catalog : Catalog} {spec : QuerySpec}

/-- The tables of a plan are the required ones and those others that are not left out. -/
theorem Compiles.tables_eq (h : stages.Compiles catalog spec)
    (hdistinct : (catalog.relationships.map Relationship.id).Nodup) :
    (stages.plan limits catalog spec).tables.map Table.id = stages.required ++
      stages.optional.filter fun id => !stages.skipped.contains id := by
  have hnodup := (requestedTables_eq_ok h.requested).nodup
  obtain ⟨-, -, -, hskipped, -⟩ := connect_eq_ok hdistinct h.connected
  have hrequired : stages.required.filter (fun id => !stages.skipped.contains id) =
      stages.required := by
    rw [List.filter_eq_self]
    intro id hid
    have hoptional : id ∉ stages.optional := fun hmem =>
      (List.nodup_append.1 hnodup).2.2 id hid id hmem rfl
    simp [hskipped, hoptional]
  calc
    _ = (stages.tables.map Table.id).filter fun id => !stages.skipped.contains id := by
      rw [List.filter_map]
      rfl
    _ = _ := by rw [h.tableIds, List.filter_append, hrequired]

end PlanStages

/-- Connecting the tables of a request fails in one of its stages. -/
theorem PlanScope.survey_fails (catalog : Catalog) (spec : QuerySpec) :
    FailsOnly (Fault.Reports Report.OfPlan) (survey catalog spec) := by
  have ofKind {α : Type} {kind : ErrorKind} {x : Except Report α}
      (h : FailsOnly (Report.OfKind kind) x) (hkind : kind ∈ planFaultKinds) :
      FailsOnly (Fault.Reports Report.OfPlan) (liftM x : Except Fault α) :=
    (h.mono fun _ hreport => hreport.ofPlan hkind).lift
  unfold survey
  refine (ofKind (catalog.requestedTables_fails spec) (by decide)).bind fun _ _ => ?_
  refine (ofKind (catalog.checkColumns_fails spec) (by decide)).bind fun _ _ => ?_
  refine FailsOnly.bind (.mapM fun id _ => (catalog.executable_fails id).mono fun _ hfault =>
    hfault.mono fun _ hreport => hreport.ofPlan (by decide)) fun tables _ => ?_
  refine (commonEngine_fails tables).lift.bind fun _ _ => ?_
  refine (ofKind (catalog.rootId_fails spec _) (by decide)).bind fun rootId _ => ?_
  refine (ofKind (catalog.require_fails rootId) (by decide)).bind fun root _ => ?_
  exact (ofKind (connect_fails _ tables root.id _ _) (by decide)).bind fun _ _ => .pure

/-- Compiling a request fails where its relationships cannot be joined, or because of its items. -/
theorem PlanScope.compile_fails {p : Report → Prop} (scope : PlanScope) (engine : String)
    (catalog : Catalog) (spec : QuerySpec)
    (hinvalid : ∀ report : Report, report.OfKind .invalidRequest → p report)
    (hjoined : FailsOnly (Fault.Reports p)
      (ofRelationships scope.tables scope.root.id scope.relationships)) :
    FailsOnly (Fault.Reports p) (scope.compile engine catalog spec) := by
  have ofItems {α : Type} {x : Except Fault α}
      (h : FailsOnly (Fault.Reports (Report.OfKind .invalidRequest)) x) :
      FailsOnly (Fault.Reports p) x := h.mono fun _ hfault => hfault.mono hinvalid
  unfold compile
  refine hjoined.bind fun joins _ => ?_
  refine (joins.aliasOf_fails _).bind fun rootAlias _ => ?_
  refine (ofItems (PlanContext.select_fails _ _ _)).bind fun terms _ => ?_
  refine (ofItems (PlanContext.filters_fails _ _ _ _)).bind fun _ _ => ?_
  refine (ofItems (PlanContext.groupBy_fails _ _ _)).bind fun _ _ => ?_
  exact (ofItems (PlanContext.orderBy_fails _ _ _)).bind fun _ _ => .pure

/-- Building a plan fails in one of its stages or because the relationships that connect its tables
cannot be joined. -/
theorem QueryPlan.build_failsOnly {p : Report → Prop} (limits : RowLimits) (catalog : Catalog)
    (spec : QuerySpec) (hplan : ∀ report, report.OfPlan → p report)
    (hjoined : ∀ scope : PlanScope, scope.Connects catalog spec → FailsOnly (Fault.Reports p)
      (ofRelationships scope.tables scope.root.id scope.relationships)) :
    FailsOnly (Fault.Reports p) (QueryPlan.build limits catalog spec) := by
  rw [build_eq]
  refine ((PlanScope.survey_fails catalog spec).mono fun _ hfault => hfault.mono hplan).bind
    fun ⟨scope, engine⟩ hsurvey => ?_
  have hscope := (PlanScope.survey_eq_ok hsurvey).1
  refine (scope.compile_fails engine catalog spec (fun report hkind => ?_)
    (hjoined scope hscope)).bind fun _ _ => .pure
  exact hplan report (hkind.ofPlan (by decide))

end SemanticLayer
