import SemanticLayer.Proofs.Inference.Evaluation
import SemanticLayer.Proofs.Plan.Build
import SemanticLayer.Proofs.Registry.Relationship
import SemanticLayer.Proofs.Service.Change

/-!
The relationships of a registry are sound at all times. What a request proposes is sound, since its
ends were found in the catalog and its verdict is that of an evaluation; and nothing else that
happens to a service stores a relationship.
-/

namespace SemanticLayer

open Text

theorem Cardinality.eq_manyToMany {cardinality : Cardinality} (hcase : cardinality.isCase = true)
    (hcode : cardinality.code = "n-n") : cardinality = .manyToMany := by
  cases cardinality with
  | manyToMany => rfl
  | oneToOne | oneToMany | manyToOne => exact absurd hcode (by decide)
  | other code => cases hcase

theorem Table.lower_of_findColumn {table : Table} {name : String} {column : Column}
    (htrimmed : trim name = name) (h : table.findColumn? name = some column) :
    lower column.name = lower name := by
  have hkey := List.find?_some h
  simpa only [columnKey, htrimmed, beq_iff_eq] using hkey

namespace RelationshipRequest

/-- A proposal is about two columns of tables of the catalog, and says what their evaluation says. -/
theorem proposal_eq_ok {request : RelationshipRequest} {profiler : Option Profiler}
    {catalog : Catalog} {draft : RelationshipDraft} {evaluation : Evaluation}
    (h : request.proposal profiler catalog = .ok (draft, evaluation)) :
    ∃ one ∈ catalog.tables, ∃ two ∈ catalog.tables, ∃ first second : Column,
      one.findColumn? request.fromColumn = some first ∧
      two.findColumn? request.toColumn = some second ∧
      (one.id, lower request.fromColumn) ≠ (two.id, lower request.toColumn) ∧
      evaluateRelationship profiler one request.fromColumn two request.toColumn
        request.cardinality = .ok evaluation ∧
      draft = {
        id := none, dataModelId := some catalog.model.id, fromTableId := some one.id
        fromColumn := some first.name, toTableId := some two.id, toColumn := some second.name
        cardinality := some evaluation.cardinality, direction := some request.direction
        status := some evaluation.status, invalidReason := evaluation.invalidReason
        fromTable := some one.name, toTable := some two.name } := by
  obtain ⟨one, hone, h⟩ := bind_eq_ok.1 h
  obtain ⟨two, htwo, h⟩ := bind_eq_ok.1 h
  split at h
  · cases h
  · rename_i hends
    obtain ⟨-, -, h⟩ := bind_eq_ok.1 h
    obtain ⟨evaluation, hevaluation, h⟩ := bind_eq_ok.1 h
    obtain ⟨rfl, rfl⟩ := Prod.mk.inj (pure_eq_ok.1 h)
    obtain ⟨first, second, hfirst, hsecond, -⟩ := evaluateRelationship_eq_ok hevaluation
    refine ⟨one, Catalog.mem_of_resolve (Catalog.require_eq_ok.1 hone), two,
      Catalog.mem_of_resolve (Catalog.require_eq_ok.1 htwo), first, second, hfirst, hsecond,
      ?_, hevaluation, ?_⟩
    · simpa using hends
    · rw [hfirst, hsecond]
      rfl

/-- A relationship is proposed for a data model of the workspace that asks. -/
theorem Proposes.owns {request : RelationshipRequest} {profiler : Option Profiler}
    {rows : RegistryRows} {workspaceId : String} {r : Relationship}
    (h : request.Proposes profiler rows workspaceId r) : rows.OwnsModel workspaceId r.dataModelId := by
  obtain ⟨catalog, draft, evaluation, id, now, hshows, hproposal, hr⟩ := h
  obtain ⟨one, -, two, -, first, second, -, -, -, -, rfl⟩ := proposal_eq_ok hproposal
  obtain rfl := Except.ok.inj hr
  exact hshows.owns

theorem Proposes.isSound {body : Json} {request : RelationshipRequest}
    {profiler : Option Profiler} {rows : RegistryRows} {workspaceId : String} {r : Relationship}
    (h : request.Proposes profiler rows workspaceId r) (hread : read body = .ok request) :
    RelationshipRecord.IsSound { r with storedKey := r.key } rows := by
  obtain ⟨catalog, draft, evaluation, id, now, hshows, hproposal, hr⟩ := h
  obtain ⟨one, hone, two, htwo, first, second, hfirst, hsecond, hends, hevaluation, rfl⟩ :=
    proposal_eq_ok hproposal
  obtain rfl := Except.ok.inj hr
  obtain ⟨hfrom, hto, hcase⟩ := read_eq_ok hread
  have hconsistent := isConsistent_of_evaluateRelationship hcase hevaluation
  rw [hshows.tables] at hone htwo
  exact {
    key := rfl
    ends := by
      change (one.id, lower first.name) ≠ (two.id, lower second.name)
      rwa [Table.lower_of_findColumn hfrom hfirst, Table.lower_of_findColumn hto hsecond]
    fromTable := RegistryRows.hasTable_of_mem_tables hone
    toTable := RegistryRows.hasTable_of_mem_tables htwo
    manyToMany := fun hcode =>
      hconsistent.manyToMany (Cardinality.eq_manyToMany hconsistent.isCase hcode)
    valid := hconsistent.valid }

end RelationshipRequest

/-- Whatever a request writes leaves the relationships sound. -/
theorem HttpRequest.keeps_relationshipsSound (profiler : Option Profiler)
    (tableId : String → String → String) (request : HttpRequest) :
    request.Keeps profiler tableId RegistryRows.RelationshipsSound where
  addModel _ _ _ _ _ hrows hchange := hrows.addModel hchange
  putTable _ _ _ _ _ _ _ _ _ _ hrows _ hchange := hrows.putModelTable hchange
  putRelationship _ _ _ _ _ _ _ _ hread hrows hproposes hchange :=
    hrows.putRelationship (hproposes.isSound hread) hchange
  removeRelationship workspaceId _ id _ _ hrows := hrows.removeRelationship workspaceId id

namespace Service

variable {δ σ : Type} [Duration δ]

theorem act_relationshipsSound (service : Service δ σ) (activity : Activity)
    {state : ServiceState σ} (h : state.registry.rows.RelationshipsSound) :
    (service.act state activity).registry.rows.RelationshipsSound := by
  cases activity with
  | connection entry =>
    exact Registry.registerConnection_keeps h
      (fun _ _ hrows => hrows.of_tables rfl fun _ _ htable => htable) entry
  | syncedTable entry =>
    exact Registry.registerSyncedTable_keeps h
      (fun _ _ hrows => hrows.of_tables rfl fun _ _ htable => htable) entry
  | runtimeTable entry =>
    exact Registry.registerRuntimeTable_keeps h
      (fun _ _ hrows => hrows.of_tables rfl fun _ _ htable => htable) entry
  | request request now =>
    obtain ⟨rows, issued, hafter, hrows⟩ := (service.handle_changes request now state).keeps
      (HttpRequest.keeps_relationshipsSound _ _ request) h
    rw [act, hafter]
    exact hrows

/-- A service that starts without rows has only sound relationships, whatever is registered and
whatever is asked of it, and however its store fails. -/
theorem run_relationshipsSound (service : Service δ σ) (registry : Registry)
    (conversation : Conversation σ) (activities : List Activity) :
    (service.run activities
      ⟨{ registry with rows := .empty }, conversation⟩).registry.rows.RelationshipsSound := by
  have hrun : ∀ state : ServiceState σ, state.registry.rows.RelationshipsSound →
      (service.run activities state).registry.rows.RelationshipsSound := by
    induction activities with
    | nil => exact fun _ h => h
    | cons activity rest ih =>
      exact fun state h => ih _ (service.act_relationshipsSound activity h)
  exact hrun _ .empty

end Service

end SemanticLayer
