import Mathlib
import SemanticLayer.Proofs.Registry.Isolation
import SemanticLayer.Proofs.Service.Relationship

/-!
Workspaces do not see each other. Requests of other workspaces change nothing of what a workspace
loads, and requests of senders who may not manage relationships change no relationship at all.
-/

namespace SemanticLayer

open RegistryRows

/-- Different data models never give one identifier to their tables. -/
def Registry.GivesDistinctIds (registry : Registry) : Prop :=
  ∀ one ∈ registry.rows.syncedTables, ∀ two ∈ registry.rows.syncedTables, ∀ modelId other,
    registry.tableId modelId one.id = registry.tableId other two.id → modelId = other

/-- The rows have become others, but not so that a workspace could see it. -/
structure RegistryRows.UnseenBy (tableId : String → String → String) (workspaceId : String)
    (rows later : RegistryRows) : Prop where
  same : SameFor tableId workspaceId rows later
  ids : (later.models.map (·.id)).Nodup

namespace HttpRequest

variable {profiler : Option Profiler} {request : HttpRequest} {workspaceId : String}

theorem keeps_unseen {registry : Registry} (hdistinct : registry.GivesDistinctIds)
    (hother : request.workspace ≠ .ok workspaceId) :
    request.Keeps profiler registry.tableId
      (UnseenBy registry.tableId workspaceId registry.rows) where
  addModel workspace rows changed now hworkspace hrows hchange := by
    have hne : workspace ≠ workspaceId := fun h => hother (h ▸ hworkspace)
    refine ⟨hrows.same.trans (.of_addModel (defaultModelId_injective.ne hne) hne ?_ hchange), ?_⟩
    · exact fun h => hne (Option.some.inj h)
    · rcases addModel_eq_ok hchange with rfl | ⟨hnew, rfl⟩
      · exact hrows.ids
      · rw [List.map_append, List.nodup_append]
        refine ⟨hrows.ids, by simp, ?_⟩
        simpa [hasModel] using hnew
  putTable workspace earlier rows changed modelId found now hworkspace hearlier hfound hrows howns
      hchange := by
    have hne : workspace ≠ workspaceId := fun h => hother (h ▸ hworkspace)
    have hmodel := isModelOf_eq_false hrows.ids howns hne
    refine ⟨hrows.same.trans (.of_putModelTable hmodel ?_ hchange), ?_⟩
    · intro own hown synced hsynced heq
      have hsame := hdistinct found.synced (hearlier.same.syncedTables ▸ mem_registered hfound)
        synced (hrows.same.syncedTables ▸ hsynced) modelId own heq
      rw [← hsame, hmodel] at hown
      cases hown
    · rcases putModelTable_eq_ok hchange with rfl | rfl <;> exact hrows.ids
  putRelationship workspace rows changed body wanted r hworkspace _ _ hrows hproposes hchange := by
    have hne : workspace ≠ workspaceId := fun h => hother (h ▸ hworkspace)
    refine ⟨hrows.same.trans (.of_putRelationship ?_ hchange), ?_⟩
    · exact isModelOf_eq_false hrows.ids hproposes.owns hne
    · rcases putRelationship_eq_ok hchange with rfl | ⟨-, rfl⟩ <;> exact hrows.ids
  removeRelationship workspace rows id hworkspace _ hrows := by
    have hne : workspace ≠ workspaceId := fun h => hother (h ▸ hworkspace)
    refine ⟨hrows.same.trans (.of_removeRelationship id fun modelId howns => ?_), hrows.ids⟩
    exact isModelOf_eq_false hrows.ids howns hne

/-- Whoever may not manage relationships writes none. -/
theorem keeps_relationships {tableId : String → String → String} (hedit : request.canEdit = false)
    (relationships : List RelationshipRecord) :
    request.Keeps profiler tableId (·.relationships = relationships) where
  addModel _ _ _ _ _ hrows hchange := by
    rcases addModel_eq_ok hchange with rfl | ⟨-, rfl⟩ <;> exact hrows
  putTable _ _ _ _ _ _ _ _ _ _ hrows _ hchange := by
    rcases putModelTable_eq_ok hchange with rfl | rfl <;> exact hrows
  putRelationship _ _ _ _ _ _ _ hcan := absurd hcan (by simp [hedit])
  removeRelationship _ _ _ _ hcan := absurd hcan (by simp [hedit])

end HttpRequest

namespace Service

variable {δ σ : Type} [Duration δ]

/-- Whatever is requested for other workspaces, a workspace loads the same catalogs and has the same
relationships; and whatever is requested by senders who may not manage relationships, none of them
changes. -/
theorem run_isolated (service : Service δ σ) (state : ServiceState σ)
    (requests : List (HttpRequest × String))
    (hids : (state.registry.rows.models.map (·.id)).Nodup)
    (hdistinct : state.registry.GivesDistinctIds) :
    let after := service.run (requests.map fun sent => .request sent.1 sent.2) state
    (∀ workspaceId, (∀ sent ∈ requests, sent.1.workspace ≠ .ok workspaceId) →
      (∀ modelId now, (after.registry.loadCatalog workspaceId modelId now).1 =
        (state.registry.loadCatalog workspaceId modelId now).1) ∧
      after.registry.rows.relationshipsIn workspaceId =
        state.registry.rows.relationshipsIn workspaceId) ∧
    ((∀ sent ∈ requests, sent.1.canEdit = false) →
      after.registry.rows.relationships = state.registry.rows.relationships) := by
  intro after
  refine ⟨fun workspaceId hothers => ?_, fun hreaders => ?_⟩
  · have hkeeps : ∀ sent ∈ requests, sent.1.Keeps service.profiler state.registry.tableId
        (UnseenBy state.registry.tableId workspaceId state.registry.rows) :=
      fun sent hsent => HttpRequest.keeps_unseen hdistinct (hothers sent hsent)
    obtain ⟨rows, issued, hafter, hunseen⟩ := service.run_keeps hkeeps
      ⟨.refl _ _ _, hids⟩
    change after.registry = _ at hafter
    have hstore : Transaction.SameStore state.registry { state.registry with rows, issued } :=
      ⟨rfl, rfl, rfl⟩
    rw [hafter]
    refine ⟨fun modelId now => ?_, hunseen.same.relationshipsIn.symm⟩
    exact (loadCatalog_eq_of_sameFor hstore hunseen.same modelId).symm
  · have hkeeps : ∀ sent ∈ requests, sent.1.Keeps service.profiler state.registry.tableId
        (·.relationships = state.registry.rows.relationships) :=
      fun sent hsent => HttpRequest.keeps_relationships (hreaders sent hsent) _
    obtain ⟨rows, issued, hafter, hsame⟩ := service.run_keeps hkeeps rfl
    change after.registry = _ at hafter
    rw [hafter]
    exact hsame

end Service

/-! ### Two workspaces -/

/-- Two workspaces with a table each; only one of them has a data model. -/
def twoWorkspaces : Registry :=
  { Registry.empty with
    rows := { RegistryRows.empty with
      connections := [⟨"c1", "north", none, "postgres", none, false⟩,
        ⟨"c2", "south", none, "postgres", none, false⟩]
      syncedTables := [⟨"orders", "c1", "orders", none, .list [], false⟩,
        ⟨"people", "c2", "people", none, .list [], false⟩]
      models := [⟨⟨defaultModelId "south", "south", defaultModelName, true, none, none⟩,
        some "south"⟩] } }

/-- A service without a warehouse, whose store answers nothing. -/
def storeless : Service Rat Unit :=
  { limits := ⟨1000, 5000⟩
    engines :=
      { store := fun _ _ => (.error "no store", ())
        warehouse := none
        around :=
          { send := fun _ _ _ => (.lost "no network", ()), pause := fun _ _ => ()
            isCancelled := fun _ => false, deliver := fun _ _ => (), environment := fun _ _ => none } }
    profiler := none }

/-- A request for the tables of a workspace. -/
def tablesRequest (workspace : String) : HttpRequest :=
  ⟨"GET", "/tables", [], [("x-workspace-id", workspace), ("x-user-role", "Viewer")], ""⟩

theorem run_isolated_twoWorkspaces :
    (twoWorkspaces.rows.models.map (·.id)).Nodup ∧ twoWorkspaces.GivesDistinctIds ∧
      (tablesRequest " north ").workspace = .ok "north" ∧
      (tablesRequest " north ").canEdit = false ∧
      let state : ServiceState Unit := ⟨twoWorkspaces, ⟨(), ⟨"TOKEN", none⟩, 0⟩⟩
      let after := storeless.run [.request (tablesRequest " north ") "2026-01-01"] state
      after.registry.rows.models.length = 2 ∧
        (after.registry.loadCatalog "south" none "2026-01-02").1 =
          (twoWorkspaces.loadCatalog "south" none "2026-01-02").1 ∧
        after.registry.rows.relationships = twoWorkspaces.rows.relationships := by
  have hids : (twoWorkspaces.rows.models.map (·.id)).Nodup := by decide
  have hdistinct : twoWorkspaces.GivesDistinctIds := by
    intro one hone two htwo modelId other h
    refine (Registry.spelledTableId_inj ?_ h).1
    simp only [twoWorkspaces, List.mem_cons, List.not_mem_nil, or_false] at hone htwo
    rcases hone with rfl | rfl <;> rcases htwo with rfl | rfl <;> decide
  have hworkspace : (tablesRequest " north ").workspace = .ok "north" := by rfl
  have hedit : (tablesRequest " north ").canEdit = false := by rfl
  have hisolated := storeless.run_isolated ⟨twoWorkspaces, ⟨(), ⟨"TOKEN", none⟩, 0⟩⟩
    [(tablesRequest " north ", "2026-01-01")] hids hdistinct
  refine ⟨hids, hdistinct, hworkspace, hedit, ?_, ?_, hisolated.2 (by simpa using hedit)⟩
  · have hcall : ServiceCall.ofRequest (tablesRequest " north ") = .ok (.tables "north" none) := by
      cbv
    simp only [Service.run, List.foldl, Service.act, Service.handle, hcall]
    decide +kernel
  refine (hisolated.1 "south" fun sent hsent => ?_).1 none "2026-01-02"
  obtain rfl := List.mem_singleton.1 hsent
  rw [hworkspace]
  simp

end SemanticLayer
