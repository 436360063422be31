import SemanticLayer.Proofs.Registry.Write
import SemanticLayer.Service.Activity

/-!
What a request can do to the registry. Whatever it asks for, it makes at most the default model of
its workspace, loads a catalog of its workspace, and stores or removes one relationship, the last two
only for a sender who may manage relationships.
-/

namespace SemanticLayer

/-- What is known of a request that calls for something. -/
def ServiceCall.Fits (request : HttpRequest) : ServiceCall → Prop
  | .health => True
  | .defaultModel workspace | .tables workspace _ | .relationships workspace _
  | .detect workspace _ | .plan workspace _ | .execute workspace _ =>
    request.workspace = .ok workspace
  | .create workspace wanted =>
    request.workspace = .ok workspace ∧ request.canEdit = true ∧
      ∃ body, RelationshipRequest.read body = .ok wanted
  | .delete workspace _ => request.workspace = .ok workspace ∧ request.canEdit = true

theorem ServiceCall.editedWorkspace_eq_ok {request : HttpRequest} {workspace : String}
    (h : editedWorkspace request = .ok workspace) :
    request.workspace = .ok workspace ∧ request.canEdit = true := by
  unfold editedWorkspace at h
  obtain ⟨found, hfound, h⟩ := bind_eq_ok.1 h
  split at h
  · rename_i hedit
    obtain rfl := pure_eq_ok.1 h
    exact ⟨hfound, hedit⟩
  · cases h

theorem Body.required_eq_ok {α : Type} {read : Json → Checked α} {body : Body} {a : α}
    (h : body.required read = .ok a) : ∃ value, read value = .ok a := by
  unfold Body.required at h
  split at h
  · cases h
  · cases h
  · rename_i value _
    refine ⟨value, ?_⟩
    cases hread : read value with
    | error issues => simp [hread, Except.mapError] at h
    | ok found => simpa [hread, Except.mapError] using h
  · cases h

theorem ServiceCall.ofEndpoint_eq_ok {request : HttpRequest} {body : Body} {endpoint : Endpoint}
    {call : ServiceCall} (h : ofEndpoint request body endpoint = .ok call) :
    call.Fits request := by
  cases endpoint with
  | health =>
    cases h
    trivial
  | defaultModel =>
    obtain ⟨workspace, hworkspace, rfl⟩ := map_eq_ok.1 h
    exact hworkspace
  | tables | relationships =>
    obtain ⟨workspace, hworkspace, h⟩ := bind_eq_ok.1 h
    obtain rfl := pure_eq_ok.1 h
    exact hworkspace
  | create =>
    obtain ⟨workspace, hworkspace, h⟩ := bind_eq_ok.1 h
    obtain ⟨wanted, hwanted, h⟩ := bind_eq_ok.1 h
    obtain rfl := pure_eq_ok.1 h
    obtain ⟨howner, hedit⟩ := editedWorkspace_eq_ok hworkspace
    exact ⟨howner, hedit, Body.required_eq_ok hwanted⟩
  | delete id =>
    obtain ⟨workspace, hworkspace, h⟩ := bind_eq_ok.1 h
    obtain rfl := pure_eq_ok.1 h
    exact editedWorkspace_eq_ok hworkspace
  | detect | plan | execute =>
    obtain ⟨workspace, hworkspace, h⟩ := bind_eq_ok.1 h
    obtain ⟨wanted, -, h⟩ := bind_eq_ok.1 h
    obtain rfl := pure_eq_ok.1 h
    exact hworkspace

theorem ServiceCall.ofRequest_eq_ok {request : HttpRequest} {call : ServiceCall}
    (h : ofRequest request = .ok call) : call.Fits request := by
  obtain ⟨endpoint, -, h⟩ := bind_eq_ok.1 h
  dsimp only at h
  split at h
  · obtain ⟨body, -, h⟩ := bind_eq_ok.1 h
    exact ofEndpoint_eq_ok h
  · exact ofEndpoint_eq_ok h

/-- The registries that a request can leave behind. -/
inductive HttpRequest.Changes (profiler : Option Profiler) (request : HttpRequest) (now : String)
    (registry : Registry) : Registry → Prop
  | nothing : Changes profiler request now registry registry
  | model {workspace : String} (hworkspace : request.workspace = .ok workspace) :
    Changes profiler request now registry
      (registry.ensureDefaultModel workspace defaultModelName now).2
  | load {workspace : String} (hworkspace : request.workspace = .ok workspace)
      (modelId : Option String) :
    Changes profiler request now registry (registry.loadCatalog workspace modelId now).2
  | store {workspace : String} (hworkspace : request.workspace = .ok workspace)
      (hedit : request.canEdit = true) {body : Json} {wanted : RelationshipRequest}
      (hread : RelationshipRequest.read body = .ok wanted) {catalog : Catalog} {loaded : Registry}
      (hload : registry.loadCatalog workspace wanted.dataModelId now = (.ok catalog, loaded))
      {draft : RelationshipDraft} {evaluation : Evaluation}
      (hproposal : wanted.proposal profiler catalog = .ok (draft, evaluation)) :
    Changes profiler request now registry (loaded.saveRelationship draft now).2
  | remove {workspace : String} (hworkspace : request.workspace = .ok workspace)
      (hedit : request.canEdit = true) (id : String) :
    Changes profiler request now registry (registry.deleteRelationship workspace id).2

namespace Service

variable {δ σ : Type} [Duration δ]

/-- A catalog is loaded, and what is answered from it starts from the registry that this leaves. -/
theorem withCatalog_eq (workspace : String) (modelId : Option String) (now : String)
    (state : ServiceState σ)
    (answer : Catalog → ServiceState σ → Except Report Answer × ServiceState σ) :
    (∃ fault loaded, state.registry.loadCatalog workspace modelId now = (.error fault, loaded) ∧
      withCatalog workspace modelId now state answer =
        (.error fault, { state with registry := loaded })) ∨
    ∃ catalog loaded, state.registry.loadCatalog workspace modelId now = (.ok catalog, loaded) ∧
      withCatalog workspace modelId now state answer =
        ((answer catalog { state with registry := loaded }).1.mapError .reported,
          (answer catalog { state with registry := loaded }).2) := by
  unfold withCatalog
  cases state.registry.loadCatalog workspace modelId now with
  | mk result loaded =>
    cases result with
    | error fault => exact .inl ⟨fault, loaded, rfl, rfl⟩
    | ok catalog => exact .inr ⟨catalog, loaded, rfl, rfl⟩

/-- Only the loading touches the registry if the answer leaves it alone. -/
theorem withCatalog_registry {workspace : String} {modelId : Option String} {now : String}
    {state : ServiceState σ}
    {answer : Catalog → ServiceState σ → Except Report Answer × ServiceState σ}
    (h : ∀ catalog state, (answer catalog state).2.registry = state.registry) :
    (withCatalog workspace modelId now state answer).2.registry =
      (state.registry.loadCatalog workspace modelId now).2 := by
  rcases withCatalog_eq workspace modelId now state answer with
    ⟨fault, loaded, hload, hanswer⟩ | ⟨catalog, loaded, hload, hanswer⟩
  · rw [hanswer, hload]
  · rw [hanswer, hload, h]

theorem create_changes (service : Service δ σ) {request : HttpRequest} {workspace : String}
    {wanted : RelationshipRequest} (hcall : (ServiceCall.create workspace wanted).Fits request)
    (now : String) (state : ServiceState σ) :
    request.Changes service.profiler now state.registry
      (service.perform (.create workspace wanted) now state).2.registry := by
  obtain ⟨hworkspace, hedit, body, hread⟩ := hcall
  have hloaded : request.Changes service.profiler now state.registry
      (state.registry.loadCatalog workspace wanted.dataModelId now).2 := .load hworkspace _
  rw [perform]
  rcases withCatalog_eq workspace wanted.dataModelId now state (service.create wanted now) with
    ⟨fault, loaded, hload, hanswer⟩ | ⟨catalog, loaded, hload, hanswer⟩
  · rw [hload] at hloaded
    rwa [hanswer]
  · rw [hload] at hloaded
    rw [hanswer, create]
    cases hproposal : wanted.proposal service.profiler catalog with
    | error report => exact hloaded
    | ok found => exact .store hworkspace hedit hread hload hproposal

theorem perform_changes (service : Service δ σ) {request : HttpRequest} {call : ServiceCall}
    (hcall : call.Fits request) (now : String) (state : ServiceState σ) :
    request.Changes service.profiler now state.registry
      (service.perform call now state).2.registry := by
  cases call with
  | health => exact .nothing
  | defaultModel workspace => exact .model hcall
  | tables workspace modelId | relationships workspace modelId =>
    rw [perform]
    rw [withCatalog_registry fun _ _ => rfl]
    exact .load hcall modelId
  | create workspace wanted => exact service.create_changes hcall now state
  | delete workspace id => exact .remove hcall.1 hcall.2 id
  | detect workspace wanted | plan workspace wanted | execute workspace wanted =>
    rw [perform]
    rw [withCatalog_registry fun _ _ => rfl]
    exact .load hcall _

/-- Whatever a request asks for, and whatever is replied. -/
theorem handle_changes (service : Service δ σ) (request : HttpRequest) (now : String)
    (state : ServiceState σ) :
    request.Changes service.profiler now state.registry
      (service.handle request now state).2.registry := by
  unfold handle
  cases hcall : ServiceCall.ofRequest request with
  | error refusal => exact .nothing
  | ok call => exact service.perform_changes (ServiceCall.ofRequest_eq_ok hcall) now state

end Service

/-! ### What requests keep -/

/-- The relationship is what a request proposes on rows from which its catalog was loaded. -/
def RelationshipRequest.Proposes (profiler : Option Profiler) (wanted : RelationshipRequest)
    (rows : RegistryRows) (workspaceId : String) (r : Relationship) : Prop :=
  ∃ catalog draft evaluation id now, catalog.Shows rows workspaceId ∧
    wanted.proposal profiler catalog = .ok (draft, evaluation) ∧ draft.complete id now = .ok r

/-- Each single write that the request can lead to keeps the property of the rows. -/
structure HttpRequest.Keeps (profiler : Option Profiler) (tableId : String → String → String)
    (request : HttpRequest) (p : RegistryRows → Prop) : Prop where
  addModel : ∀ workspace rows changed now, request.workspace = .ok workspace → p rows →
    rows.addDefaultModel (defaultModelId workspace) workspace defaultModelName now = .ok changed →
    p changed
  putTable : ∀ workspace earlier rows changed modelId found now,
    request.workspace = .ok workspace → p earlier → found ∈ earlier.registered workspace → p rows →
    rows.OwnsModel workspace modelId →
    rows.putModelTable (found.record (tableId modelId found.synced.id) modelId now) =
      .ok changed → p changed
  putRelationship : ∀ workspace rows changed body wanted r, request.workspace = .ok workspace →
    request.canEdit = true → RelationshipRequest.read body = .ok wanted → p rows →
    wanted.Proposes profiler rows workspace r →
    rows.putRelationship { r with storedKey := r.key } = .ok changed → p changed
  removeRelationship : ∀ workspace rows id, request.workspace = .ok workspace →
    request.canEdit = true → p rows → p (rows.removeRelationship workspace id)

namespace HttpRequest.Keeps

variable {profiler : Option Profiler} {request : HttpRequest} {registry : Registry}
  {p : RegistryRows → Prop} {workspace : String}

theorem loadCatalog (h : request.Keeps profiler registry.tableId p)
    (hworkspace : request.workspace = .ok workspace) (now : String) (modelId : Option String)
    (hrows : p registry.rows) :
    (∃ catalog rows, registry.loadCatalog workspace modelId now =
        (.ok catalog, { registry with rows }) ∧ p rows ∧ catalog.Shows rows workspace) ∨
      ∃ fault, registry.loadCatalog workspace modelId now = (.error fault, registry) := by
  unfold Registry.loadCatalog
  rcases (readCatalog_ensures (h.addModel workspace · · now hworkspace)
    (h.putTable workspace · · · · · now hworkspace)).commit hrows with
    ⟨catalog, rows, hcommit, hafter⟩ | ⟨fault, hcommit⟩
  · rw [hcommit]
    exact .inl ⟨catalog, rows, rfl, hafter⟩
  · rw [hcommit]
    exact .inr ⟨_, rfl⟩

end HttpRequest.Keeps

/-- Apart from the rows and from the identifiers that have been given out, a request changes nothing
of the registry; and it keeps what each of its writes keeps. -/
theorem HttpRequest.Changes.keeps {profiler : Option Profiler} {request : HttpRequest}
    {now : String} {registry after : Registry} {p : RegistryRows → Prop}
    (h : request.Changes profiler now registry after)
    (hkeeps : request.Keeps profiler registry.tableId p) (hrows : p registry.rows) :
    ∃ rows issued, after = { registry with rows, issued } ∧ p rows := by
  cases h with
  | nothing => exact ⟨_, _, rfl, hrows⟩
  | model hworkspace =>
    unfold Registry.ensureDefaultModel
    rcases (ensureDefault_ensures (hkeeps.addModel _ · · now hworkspace)).commit hrows with
      ⟨model, rows, hcommit, hafter⟩ | ⟨fault, hcommit⟩
    · rw [hcommit]
      exact ⟨rows, registry.issued, rfl, hafter.1⟩
    · rw [hcommit]
      exact ⟨_, _, rfl, hrows⟩
  | load hworkspace modelId =>
    rcases hkeeps.loadCatalog hworkspace now modelId hrows with
      ⟨catalog, rows, hload, hafter, -⟩ | ⟨fault, hload⟩
    · rw [hload]
      exact ⟨rows, registry.issued, rfl, hafter⟩
    · rw [hload]
      exact ⟨_, _, rfl, hrows⟩
  | store hworkspace hedit hread hload hproposal =>
    rcases hkeeps.loadCatalog hworkspace now _ hrows with
      ⟨catalog, rows, hloaded, hafter, hshows⟩ | ⟨fault, hloaded⟩
    · obtain ⟨hcatalog, rfl⟩ := Prod.mk.inj (hload.symm.trans hloaded)
      obtain rfl := Except.ok.inj hcatalog
      refine Registry.saveRelationship_keeps hafter fun changed r id hr hchange => ?_
      exact hkeeps.putRelationship _ rows changed _ _ r hworkspace hedit hread hafter
        ⟨_, _, _, id, now, hshows, hproposal, hr⟩ hchange
    · cases hload.symm.trans hloaded
  | remove hworkspace hedit id =>
    obtain ⟨rows, hdelete, hafter⟩ := Registry.deleteRelationship_keeps hrows
      (hkeeps.removeRelationship _ registry.rows id hworkspace hedit hrows)
    exact ⟨rows, registry.issued, hdelete, hafter⟩

/-- What the writes of all of the requests keep is kept by the requests, one after another. -/
theorem Service.run_keeps {δ σ : Type} [Duration δ] (service : Service δ σ)
    {p : RegistryRows → Prop} {requests : List (HttpRequest × String)} {state : ServiceState σ}
    (hkeeps : ∀ sent ∈ requests, sent.1.Keeps service.profiler state.registry.tableId p)
    (hrows : p state.registry.rows) :
    ∃ rows issued, (service.run (requests.map fun sent => .request sent.1 sent.2) state).registry =
      { state.registry with rows, issued } ∧ p rows := by
  induction requests generalizing state with
  | nil => exact ⟨_, _, rfl, hrows⟩
  | cons sent rest ih =>
    obtain ⟨rows, issued, hafter, hkept⟩ := (service.handle_changes sent.1 sent.2 state).keeps
      (hkeeps sent (by simp)) hrows
    have hrest : ∀ other ∈ rest, other.1.Keeps service.profiler
        (service.handle sent.1 sent.2 state).2.registry.tableId p := by
      intro other hother
      rw [hafter]
      exact hkeeps other (by simp [hother])
    obtain ⟨last, given, hlast, hp⟩ := ih hrest (hafter ▸ hkept)
    rw [hafter] at hlast
    exact ⟨last, given, hlast, hp⟩

end SemanticLayer
