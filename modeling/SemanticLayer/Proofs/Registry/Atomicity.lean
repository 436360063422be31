import SemanticLayer.Proofs.Registry.Loading
import SemanticLayer.Proofs.Registry.Relationship

/-!
Operations that do all of their work or none of it. An operation runs several statements, and the
store may refuse any of them: because a row breaks a constraint, or because the statement cannot be
run. Whatever was written before is then undone, and the refusal is reported.
-/

namespace SemanticLayer

open Transaction RegistryFault

/-- A statement is refused if it breaks a constraint or cannot be run. -/
def RegistryFault.IsRefusal (fault : RegistryFault) : Prop :=
  fault = .constraint ∨ fault = .unavailable

theorem RegistryFault.isRefusal_constraint : RegistryFault.constraint.IsRefusal := .inl rfl

theorem RegistryFault.isRefusal_unavailable : RegistryFault.unavailable.IsRefusal := .inr rfl

/-- The operation runs a transaction as a whole or not at all. If all statements go through, the
operation gives the result and keeps what they did. Whatever it fails with, which is either a
refusal or one of the other faults, all rows are as they were before. A refused statement makes it
fail, and whichever statement it is that the store cannot run, if that is one of those that are run,
the operation gets no further. -/
structure Registry.AllOrNothing {ε α : Type} (registry : Registry) (work : Transaction α)
    (operation : Registry → Except ε α × Registry) (refusal : RegistryFault → ε)
    (other : ε → Prop) : Prop where
  completed : ∀ result rows, registry.commit work = (.ok result, { registry with rows }) →
    ∃ after, operation registry = (.ok result, after) ∧ after.rows = rows
  unchanged : ∀ fault after, operation registry = (.error fault, after) →
    after.rows = registry.rows ∧
      ((∃ cause : RegistryFault, cause.IsRefusal ∧ fault = refusal cause) ∨ other fault)
  refused : ∀ cause : RegistryFault, cause.IsRefusal → (registry.commit work).1 = .error cause →
    (operation registry).1 = .error (refusal cause)
  stopped : ∀ count, count < registry.statements work →
    ∃ after, operation (registry.failingAt count) = (.error (refusal .unavailable), after) ∧
      after.rows = registry.rows

/-- The operation takes an identifier, or none, and runs the transaction. -/
def Registry.Runs {ε α : Type} (registry : Registry) (work : Transaction α)
    (operation : Registry → Except ε α × Registry) (fails : RegistryFault → ε) : Prop :=
  ∃ issued, work { registry with issued } = work registry ∧
    operation registry = (({ registry with issued }.commit work).1.mapError fails,
      ({ registry with issued }.commit work).2)

section

variable {ε α : Type} {registry : Registry} {work : Transaction α}
  {operation : Registry → Except ε α × Registry} {fails refusal : RegistryFault → ε}
  {faults : RegistryFault → Prop} {other : ε → Prop}

theorem Registry.runs_commit : registry.Runs work (fun registry =>
    let (result, registry) := registry.commit work
    (result.mapError fails, registry)) fails :=
  ⟨registry.issued, rfl, rfl⟩

theorem Registry.commit_issued {issued : IssuedIds}
    (h : work { registry with issued } = work registry) :
    ({ registry with issued }.commit work).1 = (registry.commit work).1 ∧
      ({ registry with issued }.commit work).2.rows = (registry.commit work).2.rows := by
  unfold Registry.commit
  rw [h]
  cases work registry ⟨registry.rows, 0⟩ with
  | mk outcome later => cases outcome <;> exact ⟨rfl, rfl⟩

theorem Registry.commit_snd {cause : RegistryFault} (h : (registry.commit work).1 = .error cause) :
    (registry.commit work).2 = registry := by
  unfold Registry.commit at h ⊢
  cases hrun : work registry ⟨registry.rows, 0⟩ with
  | mk outcome later =>
    rw [hrun] at h
    cases outcome with
    | error fault => rfl
    | ok result => cases h

/-- It is enough to know with which faults the transaction fails and that it goes no further than
the store lets it. -/
theorem Registry.AllOrNothing.of_runs (hruns : registry.Runs work operation fails)
    (hfailing : ∀ count, (registry.failingAt count).Runs work operation fails)
    (hfaults : Faults registry (· = registry.rows) faults work)
    (hrefusal : ∀ cause : RegistryFault, cause.IsRefusal → fails cause = refusal cause)
    (hother : ∀ cause : RegistryFault, faults cause → cause.IsRefusal ∨ other (fails cause))
    (hstops : ∀ count, Stops registry count work) :
    registry.AllOrNothing work operation refusal other := by
  constructor
  · intro result rows hcommit
    obtain ⟨issued, hsame, hrun⟩ := hruns
    obtain ⟨houtcome, hrows⟩ := commit_issued hsame
    rw [hcommit] at houtcome hrows
    refine ⟨_, hrun.trans ?_, hrows⟩
    rw [houtcome]
    rfl
  · intro fault after hoperation
    obtain ⟨issued, hsame, hrun⟩ := hruns
    obtain ⟨hfault, rfl⟩ := Prod.mk.inj (hoperation.symm.trans hrun)
    cases houtcome : ({ registry with issued }.commit work).1 with
    | ok result =>
      rw [houtcome] at hfault
      cases hfault
    | error cause =>
      rw [houtcome] at hfault
      obtain rfl := Except.error.inj hfault
      refine ⟨by rw [commit_snd houtcome], ?_⟩
      have hcause : faults cause :=
        (hfaults.commit rfl (Prod.ext ((commit_issued hsame).1.symm.trans houtcome) rfl)).2
      rcases hother cause hcause with hrefused | hother
      · exact .inl ⟨cause, hrefused, hrefusal cause hrefused⟩
      · exact .inr hother
  · intro cause hrefused hcommit
    obtain ⟨issued, hsame, hrun⟩ := hruns
    rw [hrun, (commit_issued hsame).1, hcommit]
    exact congrArg _ (hrefusal cause hrefused)
  · intro count hcount
    obtain ⟨issued, hsame, hrun⟩ := hfailing count
    have hcommit : ({ registry.failingAt count with issued }.commit work).1 =
        .error .unavailable := by
      rw [(commit_issued hsame).1, (hstops count).commit hcount]
    refine ⟨({ registry.failingAt count with issued }.commit work).2, ?_, ?_⟩
    · rw [hrun, hcommit, ← hrefusal _ isRefusal_unavailable]
      rfl
    · rw [commit_snd hcommit]
      rfl

end

/-! ### How the transactions fail -/

section

open RegistryRows

variable {registry : Registry} {start : RegistryRows} {workspaceId now : String}

/-- The key of the workspace's default model is held by a model that is not a default model of the
workspace. -/
def RegistryRows.LosesDefault (rows : RegistryRows) (workspaceId : String) : Prop :=
  rows.defaultModel? workspaceId = none ∧
    ∃ record ∈ rows.models, record.defaultKey = some workspaceId

theorem RegistryRows.addModel_failsOnly (rows : RegistryRows) (record : ModelRecord) :
    FailsOnly RegistryFault.IsRefusal (rows.addModel record) := by
  unfold addModel
  split_ifs
  · exact .ok
  · exact .error isRefusal_constraint
  · exact .ok

theorem RegistryRows.putModelTable_failsOnly (rows : RegistryRows) (record : ModelTableRecord) :
    FailsOnly RegistryFault.IsRefusal (rows.putModelTable record) := by
  unfold putModelTable
  split_ifs
  · exact .ok
  · exact .error isRefusal_constraint
  · exact .ok

theorem RegistryRows.putRelationship_failsOnly (rows : RegistryRows) (record : RelationshipRecord) :
    FailsOnly RegistryFault.IsRefusal (rows.putRelationship record) := by
  unfold putRelationship
  split_ifs
  · exact .ok
  · exact .error isRefusal_constraint
  · exact .ok

theorem RegistryRows.addConnection_failsOnly (rows : RegistryRows) (record : ConnectionRecord) :
    FailsOnly RegistryFault.IsRefusal (rows.addConnection record) := by
  unfold addConnection
  split_ifs
  · exact .error isRefusal_constraint
  · exact .ok

theorem RegistryRows.addSyncedTable_failsOnly (rows : RegistryRows) (record : SyncedTableRecord) :
    FailsOnly RegistryFault.IsRefusal (rows.addSyncedTable record) := by
  unfold addSyncedTable
  split_ifs
  · exact .error isRefusal_constraint
  · exact .ok

theorem Transaction.needed_failsOnly {α : Type} (value : Option α) :
    FailsOnly RegistryFault.IsRefusal (needed value) := by
  cases value with
  | none => exact .error isRefusal_constraint
  | some value => exact .ok

/-- A draft that cannot be stored lacks a value that its row needs. -/
theorem RelationshipDraft.complete_failsOnly (draft : RelationshipDraft) (id now : String) :
    FailsOnly RegistryFault.IsRefusal (draft.complete id now) := by
  unfold complete
  refine (needed_failsOnly _).bind fun _ _ => (needed_failsOnly _).bind fun _ _ =>
    (needed_failsOnly _).bind fun _ _ => (needed_failsOnly _).bind fun _ _ =>
    (needed_failsOnly _).bind fun _ _ => (needed_failsOnly _).bind fun _ _ =>
    (needed_failsOnly _).bind fun _ _ => (needed_failsOnly _).bind fun _ _ => ?_
  exact .pure

/-- After the attempt to add a default model there is one, or the key is held by another model. -/
theorem RegistryRows.addDefaultModel_finds {rows changed : RegistryRows} {id name : String}
    (hnone : rows.defaultModel? workspaceId = none)
    (h : rows.addDefaultModel id workspaceId name now = .ok changed) :
    (changed.defaultModel? workspaceId).isSome = true ∨ rows.LosesDefault workspaceId := by
  unfold addDefaultModel addModel at h
  split_ifs at h with hkey hid
  · refine .inr ⟨hnone, ?_⟩
    simpa using hkey
  · refine .inl ?_
    rw [← Except.ok.inj h, defaultModel?, Option.isSome_map]
    apply oldest_isSome
    simp [List.filter_append]

theorem ensureDefault_faults {name : String} :
    Faults registry (· = start)
      (fun fault => fault.IsRefusal ∨ fault = .lostModel ∧ start.LosesDefault workspaceId)
      (ensureDefault workspaceId name now) := by
  refine (Faults.select (.inl isRefusal_unavailable)).bind
    (.select (q := fun found rows => rows = start ∧ start.defaultModel? workspaceId = found)
      fun rows hrows => ⟨hrows, hrows ▸ rfl⟩) fun found => ?_
  cases found with
  | some model => exact .pure
  | none =>
    refine (Faults.change (.inl isRefusal_unavailable) fun rows _ =>
      (rows.addModel_failsOnly _).mono fun _ hrefused => .inl hrefused).bind
      (.change (q := fun rows => (rows.defaultModel? workspaceId).isSome = true ∨
        start.LosesDefault workspaceId) fun rows changed hrows hadd => ?_) fun _ => ?_
    · obtain ⟨rfl, hnone⟩ := hrows
      exact addDefaultModel_finds hnone hadd
    · refine (Faults.select (.inl isRefusal_unavailable)).bind
        (.select (q := fun found _ => found.isSome = true ∨ start.LosesDefault workspaceId)
          fun _ hrows => hrows) fun found => ?_
      cases found with
      | some model => exact .pure
      | none => exact .throw fun _ hlost => .inr ⟨rfl, hlost.resolve_left (by simp)⟩

/-- What can be wrong with a catalog apart from refused statements: there is no model with the given
identifier; the default model is lost; or a synced table has a schema with a number that is too
long. -/
inductive RegistryRows.LoadFault (rows : RegistryRows) (workspaceId : String)
    (modelId : Option String) : Fault → Prop
  | unknown {id : String} (hid : presentText modelId = some id)
      (hnone : rows.model? workspaceId id = none) :
      LoadFault rows workspaceId modelId (.reported (.make .modelNotFound "Data model not found"))
  | lost (hid : presentText modelId = none) (hlost : rows.LosesDefault workspaceId) :
      LoadFault rows workspaceId modelId .lostModel
  | number {synced : SyncedTableRecord} {digits : Nat} (hsynced : synced ∈ rows.syncedTables)
      (hdigits : schemaDigits? synced.schema = some digits) :
      LoadFault rows workspaceId modelId (.unreadableInteger (.tooLong digits) "")

variable {modelId : Option String} {message : String}

theorem resolveModel_faults :
    Faults registry (· = start)
      (fun cause =>
        cause.IsRefusal ∨ start.LoadFault workspaceId modelId (cause.modelFault message))
      (resolveModel workspaceId modelId now) := by
  unfold resolveModel
  cases hid : presentText modelId with
  | none =>
    intro state cause later hbefore hrun
    rcases ensureDefault_faults state cause later hbefore hrun with hrefused | ⟨rfl, hlost⟩
    · exact .inl hrefused
    · exact .inr (.lost hid hlost)
  | some id =>
    refine (Faults.select (.inl isRefusal_unavailable)).bind
      (.select (q := fun found _ => start.model? workspaceId id = found)
        fun rows hrows => hrows ▸ rfl) fun found => ?_
    cases found with
    | some model => exact .pure
    | none => exact .throw fun _ hnone => .inr (.unknown hid hnone)

theorem syncModelTables_faults {p : RegistryRows → Prop} {modelId : String}
    (hput : ∀ rows changed record, p rows → rows.putModelTable record = .ok changed → p changed) :
    Faults registry p RegistryFault.IsRefusal (syncModelTables workspaceId modelId now) := by
  unfold syncModelTables
  refine Faults.read.bind (.mono .read fun _ _ h => h.2) fun other => ?_
  refine (Faults.select isRefusal_unavailable).bind (.select (q := fun _ => p) fun _ hrows => hrows)
    fun found => ?_
  apply Faults.forM
  · intro table _
    exact Faults.change isRefusal_unavailable fun rows _ => rows.putModelTable_failsOnly _
  · intro table _
    apply Ensures.change
    intro rows changed hrows hchange
    exact hput rows changed _ hrows hchange

theorem RegistryRows.readTables_eq_error {rows : RegistryRows} {modelId : String}
    {cause : RegistryFault} (h : rows.readTables workspaceId modelId = .error cause) :
    ∃ digits, cause = .longNumber digits ∧
      ∃ synced ∈ rows.syncedTables, schemaDigits? synced.schema = some digits := by
  unfold readTables at h
  split at h
  · rename_i digits hdigits
    obtain ⟨table, -, htable⟩ := List.exists_of_findSome?_eq_some hdigits
    obtain ⟨synced, hsynced, hschema⟩ := Option.bind_eq_some_iff.1 htable
    exact ⟨digits, (Except.error.inj h).symm, synced, List.mem_of_find?_eq_some hsynced, hschema⟩
  · cases h

theorem readCatalog_faults :
    Faults registry (· = start)
      (fun cause =>
        cause.IsRefusal ∨ start.LoadFault workspaceId modelId (cause.modelFault message))
      (readCatalog workspaceId modelId now) := by
  -- The schemas stay as they were, whatever is written before they are read.
  have hput (rows changed : RegistryRows) (record : ModelTableRecord)
      (hrows : rows.syncedTables = start.syncedTables)
      (hchange : rows.putModelTable record = .ok changed) :
      changed.syncedTables = start.syncedTables := by
    rcases putModelTable_eq_ok hchange with rfl | rfl <;> exact hrows
  have hresolve : Ensures registry (· = start)
      (fun _ rows => rows.syncedTables = start.syncedTables)
      (resolveModel workspaceId modelId now) := by
    have hkeeps : Ensures registry (fun rows => rows.syncedTables = start.syncedTables)
        (fun model rows => rows.syncedTables = start.syncedTables ∧
          rows.Resolves workspaceId modelId model) (resolveModel workspaceId modelId now) := by
      apply resolveModel_resolves
      intro rows changed hrows _ _ hadd
      rcases addModel_eq_ok hadd with rfl | ⟨-, rfl⟩ <;> exact hrows
    exact (hkeeps.mono fun _ _ h => h.1).weaken fun rows hrows => hrows ▸ rfl
  unfold readCatalog
  refine resolveModel_faults.bind hresolve fun model => ?_
  refine Faults.bind (q := fun _ rows => rows.syncedTables = start.syncedTables) ?_ ?_ fun _ => ?_
  · intro state cause later hbefore hrun
    exact .inl (syncModelTables_faults hput state cause later hbefore hrun)
  · apply syncModelTables_ensures
    intro earlier rows changed found _ _ hrows hchange
    exact hput rows changed _ hrows hchange
  refine Faults.bind (q := fun _ _ => True)
    (.statement (.inl isRefusal_unavailable) fun rows hrows => ?_)
    (.statement fun _ _ _ _ _ => trivial) fun tables => ?_
  · apply FailsOnly.map
    intro cause hread
    obtain ⟨digits, rfl, synced, hsynced, hdigits⟩ := readTables_eq_error hread
    exact .inr (.number (hrows ▸ hsynced) hdigits)
  exact (Faults.select (.inl isRefusal_unavailable)).bind
    (.select (q := fun _ _ => True) fun _ _ => trivial) fun relationships => .pure

/-- A relationship that has just been stored is found. -/
theorem RegistryRows.relationship_of_putRelationship {rows changed : RegistryRows}
    {record : RelationshipRecord} (h : rows.putRelationship record = .ok changed) :
    (changed.relationship? record.dataModelId record.storedKey).isSome = true := by
  have hfound {other : RelationshipRecord} (hother : other ∈ changed.relationships)
      (hsame : isSameRelationship record other = true) :
      (changed.relationship? record.dataModelId record.storedKey).isSome = true := by
    obtain ⟨hmodel, hkey⟩ := Prod.mk.inj (isSameRelationship_iff.1 hsame)
    rw [relationship?, List.find?_isSome]
    exact ⟨other, hother, by simp [hmodel, hkey]⟩
  unfold putRelationship at h
  split_ifs at h with hany hid
  · obtain ⟨other, hother, hsame⟩ := List.any_eq_true.1 hany
    obtain rfl := Except.ok.inj h
    apply hfound (List.mem_map_of_mem hother)
    rw [if_pos hsame]
    simp [isSameRelationship]
  · obtain rfl := Except.ok.inj h
    exact hfound (List.mem_append_right _ (List.mem_singleton_self record))
      (by simp [isSameRelationship])

theorem storeRelationship_faults {draft : RelationshipDraft} {id : String}
    {p : RegistryRows → Prop} :
    Faults registry p RegistryFault.IsRefusal (storeRelationship draft id now) := by
  unfold storeRelationship
  refine Faults.bind (q := fun key rows => (rows.relationship? key.1 key.2).isSome = true)
    (.statement isRefusal_unavailable ?_) (.statement ?_) fun key => ?_
  · intro rows _
    apply (draft.complete_failsOnly id now).bind
    intro r _
    exact (rows.putRelationship_failsOnly _).bind fun _ _ => .pure
  · intro rows key changed _ hbody
    obtain ⟨r, -, hbody⟩ := bind_eq_ok.1 hbody
    obtain ⟨stored, hstored, hpure⟩ := bind_eq_ok.1 hbody
    cases hpure
    exact relationship_of_putRelationship hstored
  · refine (Faults.select isRefusal_unavailable).bind
      (.select (q := fun found _ => found.isSome = true) fun _ hrows => hrows) fun found => ?_
    cases found with
    | some record => exact .pure
    | none => exact .throw fun _ hnone => absurd hnone (by simp)

theorem dropRelationship_faults {id : String} {p : RegistryRows → Prop} :
    Faults registry p RegistryFault.IsRefusal (dropRelationship workspaceId id) :=
  Faults.statement isRefusal_unavailable fun _ _ => .ok

theorem enterConnection_faults {entry : NewConnection} {id : String} {p : RegistryRows → Prop} :
    Faults registry p RegistryFault.IsRefusal (enterConnection entry id) := by
  refine Faults.bind (q := fun _ _ => True) (.change isRefusal_unavailable fun rows _ => ?_)
    (.change fun _ _ _ _ => trivial) fun _ => .pure
  apply (needed_failsOnly _).bind
  intro workspaceId _
  apply (needed_failsOnly _).bind
  intro type _
  exact rows.addConnection_failsOnly _

theorem enterSyncedTable_faults {entry : NewSyncedTable} {id : String} {p : RegistryRows → Prop} :
    Faults registry p RegistryFault.IsRefusal (enterSyncedTable entry id) := by
  refine Faults.bind (q := fun _ _ => True) (.change isRefusal_unavailable fun rows _ => ?_)
    (.change fun _ _ _ _ => trivial) fun _ => .pure
  apply (needed_failsOnly _).bind
  intro connectionId _
  apply (needed_failsOnly _).bind
  intro name _
  exact rows.addSyncedTable_failsOnly _

theorem enterRuntimeTable_faults {entry : NewRuntimeTable} {p : RegistryRows → Prop} :
    Faults registry p RegistryFault.IsRefusal (enterRuntimeTable entry) := by
  refine Faults.change isRefusal_unavailable fun rows _ => ?_
  apply (needed_failsOnly _).bind
  intro syncedTableId _
  apply (needed_failsOnly _).bind
  intro executable _
  exact .pure

end

/-! ### How far the transactions get -/

section

variable {registry : Registry} {count : Nat} {workspaceId now : String}

theorem ensureDefault_stops {name : String} :
    Stops registry count (ensureDefault workspaceId name now) := by
  apply Stops.select.bind
  intro found
  cases found with
  | some model => exact .pure
  | none =>
    apply Stops.change.bind
    intro _
    apply Stops.select.bind
    intro found
    cases found with
    | some model => exact .pure
    | none => exact .throw

theorem resolveModel_stops {modelId : Option String} :
    Stops registry count (resolveModel workspaceId modelId now) := by
  unfold resolveModel
  cases presentText modelId with
  | none => exact ensureDefault_stops
  | some id =>
    apply Stops.select.bind
    intro found
    cases found with
    | some model => exact .pure
    | none => exact .throw

theorem syncModelTables_stops {modelId : String} :
    Stops registry count (syncModelTables workspaceId modelId now) := by
  apply Stops.read rfl
  apply Stops.select.bind
  intro found
  apply Stops.forM
  intro table _
  exact .change

theorem readCatalog_stops {modelId : Option String} :
    Stops registry count (readCatalog workspaceId modelId now) := by
  apply resolveModel_stops.bind
  intro model
  apply syncModelTables_stops.bind
  intro _
  apply Stops.statement.bind
  intro tables
  apply Stops.select.bind
  intro relationships
  exact .pure

theorem storeRelationship_stops {draft : RelationshipDraft} {id : String} :
    Stops registry count (storeRelationship draft id now) := by
  apply Stops.statement.bind
  intro key
  apply Stops.select.bind
  intro found
  cases found with
  | some record => exact .pure
  | none => exact .throw

theorem dropRelationship_stops {id : String} :
    Stops registry count (dropRelationship workspaceId id) := .statement

theorem enterConnection_stops {entry : NewConnection} {id : String} :
    Stops registry count (enterConnection entry id) :=
  Stops.change.bind fun _ => .pure

theorem enterSyncedTable_stops {entry : NewSyncedTable} {id : String} :
    Stops registry count (enterSyncedTable entry id) :=
  Stops.change.bind fun _ => .pure

theorem enterRuntimeTable_stops {entry : NewRuntimeTable} :
    Stops registry count (enterRuntimeTable entry) := .change

end

/-! ### What the operations run -/

section

variable (registry : Registry)

@[simp]
theorem Registry.relationshipId_failingAt (count : Nat) (given : Option String) :
    ((registry.failingAt count).relationshipId given).1 = (registry.relationshipId given).1 := by
  unfold relationshipId
  cases presentText given <;> rfl

@[simp]
theorem Registry.connectionId_failingAt (count : Nat) (given : Option String) :
    ((registry.failingAt count).connectionId given).1 = (registry.connectionId given).1 := by
  unfold connectionId
  cases presentText given <;> rfl

@[simp]
theorem Registry.syncedTableId_failingAt (count : Nat) (given : Option String) :
    ((registry.failingAt count).syncedTableId given).1 = (registry.syncedTableId given).1 := by
  unfold syncedTableId
  cases presentText given <;> rfl

theorem storeRelationship_issued (issued : IssuedIds) (draft : RelationshipDraft)
    (id now : String) :
    storeRelationship draft id now { registry with issued } =
      storeRelationship draft id now registry := by
  refine bind_eq rfl fun key => bind_eq rfl fun found => ?_
  cases found <;> rfl

theorem Registry.runs_saveRelationship (draft : RelationshipDraft) (now : String) :
    registry.Runs (storeRelationship draft (registry.relationshipId draft.id).1 now)
      (·.saveRelationship draft now) (·.report "Failed to save relationship") := by
  obtain ⟨id, issued, hid⟩ : ∃ id issued, registry.relationshipId draft.id =
      (id, { registry with issued }) := registry.exists_issued draft.id _ _
  refine ⟨issued, storeRelationship_issued registry issued draft _ now, ?_⟩
  unfold saveRelationship
  dsimp only
  rw [hid]

/-- An operation may report what the transaction fails with as it is. -/
theorem Registry.runs_of_commit {α : Type} {work : Transaction α}
    {operation : Registry → Except RegistryFault α × Registry} (issued : IssuedIds)
    (hsame : work { registry with issued } = work registry)
    (hrun : operation registry = { registry with issued }.commit work) :
    registry.Runs work operation id := by
  refine ⟨issued, hsame, hrun.trans ?_⟩
  cases { registry with issued }.commit work with
  | mk outcome after => cases outcome <;> rfl

/-- Something is registered under an identifier that it brings along or else gets. -/
theorem Registry.runs_enter (take : Registry → String × Registry)
    (enter : String → Transaction String)
    (htake : ∃ id issued, take registry = (id, { registry with issued }))
    (hsame : ∀ id issued, enter id { registry with issued } = enter id registry) :
    registry.Runs (enter (take registry).1)
      (fun registry =>
        let (id, registry) := take registry
        registry.commit (enter id)) id := by
  obtain ⟨id, issued, htake⟩ := htake
  apply registry.runs_of_commit issued (hsame _ issued)
  dsimp only
  rw [htake]

theorem Registry.runs_registerConnection (entry : NewConnection) :
    registry.Runs (enterConnection entry (registry.connectionId entry.id).1)
      (·.registerConnection entry) id :=
  registry.runs_enter (·.connectionId entry.id) (enterConnection entry)
    (registry.exists_issued entry.id _ _) fun _ _ => rfl

theorem Registry.runs_registerSyncedTable (entry : NewSyncedTable) :
    registry.Runs (enterSyncedTable entry (registry.syncedTableId entry.id).1)
      (·.registerSyncedTable entry) id :=
  registry.runs_enter (·.syncedTableId entry.id) (enterSyncedTable entry)
    (registry.exists_issued entry.id _ _) fun _ _ => rfl

end

/-! ### All or nothing -/

/-- If a relationship is saved, what is given out is stored, and it is stored once. -/
theorem Registry.saveRelationship_stored {registry after : Registry} {draft : RelationshipDraft}
    {now : String} {r : Relationship}
    (honce : (registry.rows.relationships.map RelationshipRecord.identity).Nodup)
    (h : registry.saveRelationship draft now = (.ok r, after)) :
    ∃ record, r = record.shown ∧
      registry.rows.Stored after.rows draft (registry.relationshipId draft.id).1 now record := by
  obtain ⟨issued, -, hrun⟩ := registry.runs_saveRelationship draft now
  obtain ⟨hshown, rfl⟩ := Prod.mk.inj (h.symm.trans hrun)
  cases hcommit : { registry with issued }.commit
      (storeRelationship draft (registry.relationshipId draft.id).1 now) with
  | mk outcome after =>
    rw [hcommit] at hshown
    cases outcome with
    | error fault => cases hshown
    | ok shown =>
      obtain rfl := Except.ok.inj hshown
      obtain ⟨rows, rfl, made, record, hmade, hput, hfound, rfl⟩ :=
        storeRelationship_stores.of_commit hcommit rfl
      exact ⟨record, rfl, RegistryRows.stored_of_putRelationship honce hmade hput hfound⟩

/-- Each operation runs its statements as a whole or not at all. The four that deal with data models
report every refusal as a catalog that cannot be loaded; apart from refusals, they fail only if a
model is unknown or lost or a number too long. The three that register sources pass a refusal on as
it is. And if a relationship is saved, it is the only one between its ends, and nothing else has
changed. -/
structure Registry.OperationsAtomic (registry : Registry) : Prop where
  ensureDefaultModel : ∀ workspaceId name now, registry.AllOrNothing
    (ensureDefault workspaceId name now) (·.ensureDefaultModel workspaceId name now)
    (fun _ => .reported (.make .catalogLoad "Failed to load default model"))
    (fun fault => fault = .lostModel ∧ registry.rows.LosesDefault workspaceId)
  loadCatalog : ∀ workspaceId modelId now, registry.AllOrNothing
    (readCatalog workspaceId modelId now) (·.loadCatalog workspaceId modelId now)
    (fun _ => .reported (.make .catalogLoad "Failed to load model catalog"))
    (registry.rows.LoadFault workspaceId modelId)
  saveRelationship : ∀ draft now, registry.AllOrNothing
    (storeRelationship draft (registry.relationshipId draft.id).1 now)
    (·.saveRelationship draft now)
    (fun _ => .make .catalogLoad "Failed to save relationship") (fun _ => False)
  deleteRelationship : ∀ workspaceId id, registry.AllOrNothing
    (dropRelationship workspaceId id) (·.deleteRelationship workspaceId id)
    (fun _ => .make .catalogLoad "Failed to delete relationship") (fun _ => False)
  registerConnection : ∀ entry, registry.AllOrNothing
    (enterConnection entry (registry.connectionId entry.id).1) (·.registerConnection entry)
    id (fun _ => False)
  registerSyncedTable : ∀ entry, registry.AllOrNothing
    (enterSyncedTable entry (registry.syncedTableId entry.id).1) (·.registerSyncedTable entry)
    id (fun _ => False)
  registerRuntimeTable : ∀ entry, registry.AllOrNothing
    (enterRuntimeTable entry) (·.registerRuntimeTable entry) id (fun _ => False)
  saved : (registry.rows.relationships.map RelationshipRecord.identity).Nodup →
    ∀ draft now r after, registry.saveRelationship draft now = (.ok r, after) →
      ∃ record, r = record.shown ∧
        registry.rows.Stored after.rows draft (registry.relationshipId draft.id).1 now record

theorem Registry.operations_atomic (registry : Registry) : registry.OperationsAtomic := by
  constructor
  · intro workspaceId name now
    refine .of_runs registry.runs_commit (fun count => (registry.failingAt count).runs_commit)
      ensureDefault_faults ?_ ?_ fun count => ensureDefault_stops
    · rintro cause (rfl | rfl) <;> rfl
    · rintro cause (hrefused | ⟨rfl, hlost⟩)
      · exact .inl hrefused
      · exact .inr ⟨rfl, hlost⟩
  · intro workspaceId modelId now
    refine .of_runs registry.runs_commit (fun count => (registry.failingAt count).runs_commit)
      readCatalog_faults ?_ (fun cause h => h) fun count => readCatalog_stops
    rintro cause (rfl | rfl) <;> rfl
  · intro draft now
    refine .of_runs (registry.runs_saveRelationship draft now) (fun count => ?_)
      storeRelationship_faults ?_ (fun cause => .inl) fun count => storeRelationship_stops
    · simpa using (registry.failingAt count).runs_saveRelationship draft now
    · rintro cause (rfl | rfl) <;> rfl
  · intro workspaceId id
    refine .of_runs registry.runs_commit (fun count => (registry.failingAt count).runs_commit)
      dropRelationship_faults ?_ (fun cause => .inl) fun count => dropRelationship_stops
    rintro cause (rfl | rfl) <;> rfl
  · intro entry
    refine .of_runs (registry.runs_registerConnection entry) (fun count => ?_)
      enterConnection_faults (fun _ _ => rfl) (fun cause => .inl) fun count => enterConnection_stops
    simpa using (registry.failingAt count).runs_registerConnection entry
  · intro entry
    refine .of_runs (registry.runs_registerSyncedTable entry) (fun count => ?_)
      enterSyncedTable_faults (fun _ _ => rfl) (fun cause => .inl)
      fun count => enterSyncedTable_stops
    simpa using (registry.failingAt count).runs_registerSyncedTable entry
  · intro entry
    exact .of_runs (registry.runs_of_commit registry.issued rfl rfl)
      (fun count => (registry.failingAt count).runs_of_commit registry.issued rfl rfl)
      enterRuntimeTable_faults (fun _ _ => rfl) (fun cause => .inl)
      fun count => enterRuntimeTable_stops
  · intro honce draft now r after hsaved
    exact saveRelationship_stored honce hsaved

/-- Orders and the customers who made them, by a relationship from long ago. -/
def linkedOrders : Registry :=
  { Registry.empty with
    rows := { RegistryRows.empty with
      relationships := [⟨⟨"r1", "dm-1", "orders", "customer", "customers", "id", .manyToOne,
        "single", validStatus, none, none, none, some "2020-01-01", some "2020-01-01"⟩,
        "customers:id|orders:customer"⟩] } }

/-- The same relationship the other way round. -/
def ordersDraft : RelationshipDraft :=
  ⟨some "r2", some "dm-1", some "customers", some "ID", some "orders", some "customer",
    some .oneToMany, some "both", some validStatus, none, none, none⟩

theorem Registry.operations_atomic_orders :
    (linkedOrders.rows.relationships.map RelationshipRecord.identity).Nodup ∧
      (∃ after, (linkedOrders.failingAt 1).saveRelationship ordersDraft "2026-01-01" =
        (.error (.make .catalogLoad "Failed to save relationship"), after) ∧
        after.rows = linkedOrders.rows) ∧
      ∃ r after record, linkedOrders.saveRelationship ordersDraft "2026-01-01" = (.ok r, after) ∧
        r = record.shown ∧ r.id = "r1" ∧
        linkedOrders.rows.Stored after.rows ordersDraft "r2" "2026-01-01" record := by
  have honce : (linkedOrders.rows.relationships.map RelationshipRecord.identity).Nodup := by decide
  refine ⟨honce, ?_, ?_⟩
  · exact (operations_atomic linkedOrders).saveRelationship _ _ |>.stopped 1 (by decide)
  · obtain ⟨record, hshown, hstored⟩ :=
      (operations_atomic linkedOrders).saved honce ordersDraft "2026-01-01" _ _ rfl
    exact ⟨_, _, record, rfl, hshown, rfl, hstored⟩

end SemanticLayer
