import SemanticLayer.Proofs.Outcome
import SemanticLayer.Proofs.Registry.Transaction
import SemanticLayer.Registry.Catalog
import SemanticLayer.Registry.Source

/-!
The writes of the registry. What holds of the rows is kept by a transaction if it is kept by the few
writes that the transaction can consist of.
-/

namespace SemanticLayer

open Transaction

namespace RegistryRows

/-- A data model with the identifier belongs to the workspace. -/
def OwnsModel (rows : RegistryRows) (workspaceId modelId : String) : Prop :=
  ∃ record ∈ rows.models, record.id = modelId ∧ record.workspaceId = workspaceId

/-- The model is the one of the workspace that is asked for; without an identifier, the default
one. -/
def Resolves (rows : RegistryRows) (workspaceId : String) (id : Option String) (model : DataModel) :
    Prop :=
  match presentText id with
  | none => rows.defaultModel? workspaceId = some model
  | some id => rows.model? workspaceId id = some model

/-- The data model has a table under the identifier. -/
def HasTable (rows : RegistryRows) (modelId id : String) : Prop :=
  ∃ record ∈ rows.modelTables, record.id = id ∧ record.modelId = modelId

/-! ### Sources -/

/-- The rows hold the same about what is registered. -/
structure SameSources (rows later : RegistryRows) : Prop where
  connections : later.connections = rows.connections
  syncedTables : later.syncedTables = rows.syncedTables
  runtimeTables : later.runtimeTables = rows.runtimeTables

namespace SameSources

variable {rows later : RegistryRows} {workspaceId : String}

theorem refl (rows : RegistryRows) : rows.SameSources rows := ⟨rfl, rfl, rfl⟩

theorem registered? (h : rows.SameSources later) (id : String) :
    later.registered? workspaceId id = rows.registered? workspaceId id := by
  unfold RegistryRows.registered? syncedTable? connection? runtimeTable?
  rw [h.connections, h.syncedTables, h.runtimeTables]

theorem registered (h : rows.SameSources later) :
    later.registered workspaceId = rows.registered workspaceId := by
  unfold RegistryRows.registered
  rw [h.syncedTables]
  exact congrArg (List.filterMap · rows.syncedTables) (funext fun synced => h.registered? synced.id)

end SameSources

/-! ### Single writes -/

theorem addModel_eq_ok {rows changed : RegistryRows} {record : ModelRecord}
    (h : rows.addModel record = .ok changed) :
    changed = rows ∨
      rows.hasModel record.id = false ∧
        changed = { rows with models := rows.models ++ [record] } := by
  unfold addModel at h
  split_ifs at h with hkey hid
  · exact .inl (Except.ok.inj h).symm
  · exact .inr ⟨by simpa using hid, (Except.ok.inj h).symm⟩

theorem addConnection_eq_ok {rows changed : RegistryRows} {record : ConnectionRecord}
    (h : rows.addConnection record = .ok changed) :
    rows.connection? record.id = none ∧
      changed = { rows with connections := rows.connections ++ [record] } := by
  unfold addConnection at h
  split_ifs at h with hid
  exact ⟨by simpa using hid, (Except.ok.inj h).symm⟩

theorem addSyncedTable_eq_ok {rows changed : RegistryRows} {record : SyncedTableRecord}
    (h : rows.addSyncedTable record = .ok changed) :
    rows.syncedTable? record.id = none ∧
      changed = { rows with syncedTables := rows.syncedTables ++ [record] } := by
  unfold addSyncedTable at h
  split_ifs at h with hid
  exact ⟨by simpa using hid, (Except.ok.inj h).symm⟩

/-- A row with the record's facts in place of a row for the same table. -/
def updateTable (record other : ModelTableRecord) : ModelTableRecord :=
  if isSameTable record other then { record with id := other.id, createdAt := other.createdAt }
  else other

@[simp]
theorem id_updateTable (record other : ModelTableRecord) :
    (updateTable record other).id = other.id := by
  unfold updateTable
  split <;> rfl

/-- A row that takes the place of another one has its key. -/
theorem key_updateTable (record other : ModelTableRecord) :
    (updateTable record other).modelId = other.modelId ∧
      (updateTable record other).syncedTableId = other.syncedTableId := by
  unfold updateTable
  split
  · rename_i hsame
    simpa only [isSameTable, Bool.and_eq_true, beq_iff_eq] using hsame
  · exact ⟨rfl, rfl⟩

@[simp]
theorem modelId_updateTable (record other : ModelTableRecord) :
    (updateTable record other).modelId = other.modelId :=
  (key_updateTable record other).1

@[simp]
theorem syncedTableId_updateTable (record other : ModelTableRecord) :
    (updateTable record other).syncedTableId = other.syncedTableId :=
  (key_updateTable record other).2

theorem putModelTable_eq (rows : RegistryRows) (record : ModelTableRecord) :
    rows.putModelTable record =
      if rows.modelTables.any (isSameTable record) then
        .ok { rows with modelTables := rows.modelTables.map (updateTable record) }
      else if rows.modelTables.any (·.id == record.id) then .error .constraint
      else .ok { rows with modelTables := rows.modelTables ++ [record] } := rfl

/-- A table is updated, or added if the data model does not have it. -/
theorem putModelTable_updated_or_added {rows changed : RegistryRows} {record : ModelTableRecord}
    (h : rows.putModelTable record = .ok changed) :
    changed = { rows with modelTables := rows.modelTables.map (updateTable record) } ∨
      (∀ other ∈ rows.modelTables, isSameTable record other = false) ∧
        changed = { rows with modelTables := rows.modelTables ++ [record] } := by
  rw [putModelTable_eq] at h
  split_ifs at h with hsame hid
  · exact .inl (Except.ok.inj h).symm
  · refine .inr ⟨?_, (Except.ok.inj h).symm⟩
    simpa using hsame

theorem putModelTable_eq_ok {rows changed : RegistryRows} {record : ModelTableRecord}
    (h : rows.putModelTable record = .ok changed) :
    changed = { rows with modelTables := rows.modelTables.map (updateTable record) } ∨
      changed = { rows with modelTables := rows.modelTables ++ [record] } :=
  (putModelTable_updated_or_added h).imp_right And.right

/-- A row with the record's facts in place of a row between the same columns. -/
def updateRelationship (record other : RelationshipRecord) : RelationshipRecord :=
  if isSameRelationship record other then
    { record with id := other.id, createdAt := other.createdAt }
  else other

theorem putRelationship_eq_ok {rows changed : RegistryRows} {record : RelationshipRecord}
    (h : rows.putRelationship record = .ok changed) :
    changed = { rows with relationships := rows.relationships.map (updateRelationship record) } ∨
      (∀ other ∈ rows.relationships, isSameRelationship record other = false) ∧
        changed = { rows with relationships := rows.relationships ++ [record] } := by
  unfold putRelationship at h
  split_ifs at h with hsame hid
  · exact .inl (Except.ok.inj h).symm
  · refine .inr ⟨?_, (Except.ok.inj h).symm⟩
    simpa using hsame

theorem mem_registered {rows : RegistryRows} {workspaceId : String} {found : RegisteredTable}
    (h : found ∈ rows.registered workspaceId) : found.synced ∈ rows.syncedTables := by
  obtain ⟨synced, -, hfound⟩ := List.mem_filterMap.1 h
  unfold registered? at hfound
  simp only [Option.bind_eq_bind, Option.bind_eq_some_iff, Option.pure_def, Option.some.injEq,
    Option.filter_eq_some_iff] at hfound
  obtain ⟨other, ⟨hother, -⟩, connection, -, rfl⟩ := hfound
  exact List.mem_of_find?_eq_some hother

theorem readTables_eq_ok {rows : RegistryRows} {workspaceId modelId : String} {tables : List Table}
    (h : rows.readTables workspaceId modelId = .ok tables) :
    rows.longNumber? workspaceId modelId = none ∧ tables = rows.tables workspaceId modelId := by
  unfold readTables at h
  split at h
  · cases h
  · rename_i hnone
    exact ⟨hnone, (Except.ok.inj h).symm⟩

/-- A table that is listed comes from a row of the data model about a table that is registered. -/
theorem exists_row_of_mem_tables {rows : RegistryRows} {workspaceId modelId : String}
    {table : Table} (h : table ∈ rows.tables workspaceId modelId) :
    ∃ row ∈ rows.modelTables, row.modelId = modelId ∧
      ∃ found, rows.registered? workspaceId row.syncedTableId = some found ∧
        table = found.table row := by
  rw [tables, List.mem_mergeSort] at h
  obtain ⟨row, hrow, htable⟩ := List.mem_filterMap.1 h
  obtain ⟨hmem, hmodel⟩ := List.mem_filter.1 hrow
  obtain ⟨found, hfound, rfl⟩ := Option.map_eq_some_iff.1 htable
  exact ⟨row, hmem, beq_iff_eq.1 hmodel, found, hfound, rfl⟩

/-- The tables of a catalog are tables of its data model. -/
theorem hasTable_of_mem_tables {rows : RegistryRows} {workspaceId modelId : String} {table : Table}
    (h : table ∈ rows.tables workspaceId modelId) : rows.HasTable modelId table.id := by
  obtain ⟨row, hrow, hmodel, found, -, rfl⟩ := exists_row_of_mem_tables h
  exact ⟨row, hrow, rfl, hmodel⟩

theorem mem_of_oldest {records : List ModelRecord} {record : ModelRecord}
    (h : oldest? records = some record) : record ∈ records := by
  induction records generalizing record with
  | nil => simp [oldest?] at h
  | cons head rest ih =>
    unfold oldest? at h
    split at h
    · simp_all
    · rename_i other hother
      split at h
      · exact List.mem_cons_of_mem _ (ih (Option.some.inj h ▸ hother))
      · simp_all

theorem exists_record_of_defaultModel {rows : RegistryRows} {workspaceId : String}
    {model : DataModel} (h : rows.defaultModel? workspaceId = some model) :
    ∃ record ∈ rows.models, record.toDataModel = model ∧ record.workspaceId = workspaceId := by
  obtain ⟨record, hrecord, rfl⟩ := Option.map_eq_some_iff.1 h
  obtain ⟨hmodels, hworkspace⟩ := List.mem_filter.1 (mem_of_oldest hrecord)
  simp only [Bool.and_eq_true, beq_iff_eq] at hworkspace
  exact ⟨record, hmodels, rfl, hworkspace.1⟩

theorem exists_record_of_model {rows : RegistryRows} {workspaceId id : String} {model : DataModel}
    (h : rows.model? workspaceId id = some model) :
    ∃ record ∈ rows.models, record.toDataModel = model ∧ record.workspaceId = workspaceId := by
  obtain ⟨record, hrecord, rfl⟩ := Option.map_eq_some_iff.1 h
  have hfits := List.find?_some hrecord
  simp only [Bool.and_eq_true, beq_iff_eq] at hfits
  exact ⟨record, List.mem_of_find?_eq_some hrecord, rfl, hfits.2⟩

/-- The model that is found is stored for the workspace. -/
theorem Resolves.exists_record {rows : RegistryRows} {workspaceId : String} {id : Option String}
    {model : DataModel} (h : rows.Resolves workspaceId id model) :
    ∃ record ∈ rows.models, record.toDataModel = model ∧ record.workspaceId = workspaceId := by
  unfold Resolves at h
  split at h
  · exact exists_record_of_defaultModel h
  · exact exists_record_of_model h

theorem ownsModel_of_defaultModel {rows : RegistryRows} {workspaceId : String} {model : DataModel}
    (h : rows.defaultModel? workspaceId = some model) : rows.OwnsModel workspaceId model.id := by
  obtain ⟨record, hrecord, rfl, hworkspace⟩ := exists_record_of_defaultModel h
  exact ⟨record, hrecord, rfl, hworkspace⟩

theorem ownsModel_of_model {rows : RegistryRows} {workspaceId id : String} {model : DataModel}
    (h : rows.model? workspaceId id = some model) : rows.OwnsModel workspaceId model.id := by
  obtain ⟨record, hrecord, rfl, hworkspace⟩ := exists_record_of_model h
  exact ⟨record, hrecord, rfl, hworkspace⟩

theorem Resolves.ownsModel {rows : RegistryRows} {workspaceId : String} {id : Option String}
    {model : DataModel} (h : rows.Resolves workspaceId id model) :
    rows.OwnsModel workspaceId model.id := by
  obtain ⟨record, hrecord, rfl, hworkspace⟩ := h.exists_record
  exact ⟨record, hrecord, rfl, hworkspace⟩

end RegistryRows

/-- An identifier that is given is taken, or else one is issued. Nothing but their count changes. -/
theorem Registry.exists_issued (registry : Registry) (given : Option String) (name : String)
    (next : IssuedIds) :
    ∃ id issued, (match presentText given with
      | some id => (id, registry)
      | none => (name, { registry with issued := next })) = (id, { registry with issued }) := by
  split
  · exact ⟨_, registry.issued, rfl⟩
  · exact ⟨name, next, rfl⟩

/-- Spelled identifiers of synced tables whose own identifiers are equally long tell data models and
synced tables apart. -/
theorem Registry.spelledTableId_inj {modelId other one two : String}
    (hlength : one.length = two.length)
    (h : spelledTableId modelId one = spelledTableId other two) : modelId = other ∧ one = two := by
  have hchars := congrArg String.toList h
  simp only [spelledTableId, String.toList_append] at hchars
  obtain ⟨hrest, hsynced⟩ :=
    List.append_inj' hchars (by rwa [String.length_toList, String.length_toList])
  have hmodel := (List.append_inj' hrest rfl).1
  exact ⟨String.toList_inj.1 (List.append_cancel_left hmodel), String.toList_inj.1 hsynced⟩

/-! ### Transactions -/

section

variable {p : RegistryRows → Prop} {registry : Registry} {workspaceId now : String}

theorem ensures_defaultModel? : Ensures registry p
    (fun found rows => p rows ∧ rows.defaultModel? workspaceId = found)
    (select [.models] fun rows => rows.defaultModel? workspaceId) :=
  .select fun _ hrows => ⟨hrows, rfl⟩

theorem ensureDefault_finds {name : String}
    (hadd : ∀ rows changed, p rows → rows.defaultModel? workspaceId = none →
      rows.addDefaultModel (defaultModelId workspaceId) workspaceId name now = .ok changed →
      p changed) :
    Ensures registry p (fun model rows => p rows ∧ rows.defaultModel? workspaceId = some model)
      (ensureDefault workspaceId name now) := by
  refine ensures_defaultModel?.bind fun found => ?_
  cases found with
  | some model => exact .pure fun rows hrows => hrows
  | none =>
    refine .bind (.change (q := p) fun rows changed hrows => hadd rows changed hrows.1 hrows.2)
      fun _ => ?_
    refine ensures_defaultModel?.bind fun found => ?_
    cases found with
    | some model => exact .pure fun rows hrows => hrows
    | none => exact .throw

theorem ensureDefault_ensures {name : String}
    (hadd : ∀ rows changed, p rows →
      rows.addDefaultModel (defaultModelId workspaceId) workspaceId name now = .ok changed →
      p changed) :
    Ensures registry p (fun model rows => p rows ∧ rows.OwnsModel workspaceId model.id)
      (ensureDefault workspaceId name now) :=
  (ensureDefault_finds fun rows changed hrows _ => hadd rows changed hrows).mono
    fun _ _ h => ⟨h.1, RegistryRows.ownsModel_of_defaultModel h.2⟩

theorem resolveModel_resolves {id : Option String}
    (hadd : ∀ rows changed, p rows → presentText id = none → rows.defaultModel? workspaceId = none →
      rows.addDefaultModel (defaultModelId workspaceId) workspaceId defaultModelName now =
        .ok changed → p changed) :
    Ensures registry p (fun model rows => p rows ∧ rows.Resolves workspaceId id model)
      (resolveModel workspaceId id now) := by
  unfold resolveModel RegistryRows.Resolves
  cases hid : presentText id with
  | none => exact ensureDefault_finds fun rows changed hrows => hadd rows changed hrows hid
  | some id =>
    refine .bind (.select (q := fun found rows => p rows ∧ rows.model? workspaceId id = found)
      fun rows hrows => ⟨hrows, rfl⟩) fun found => ?_
    cases found with
    | some model => exact .pure fun rows hrows => hrows
    | none => exact .throw

theorem syncModelTables_ensures {modelId : String}
    (hput : ∀ earlier rows changed found, p earlier → found ∈ earlier.registered workspaceId →
      p rows → rows.putModelTable
        (found.record (registry.tableId modelId found.synced.id) modelId now) = .ok changed →
      p changed) :
    Ensures registry p (fun _ => p) (syncModelTables workspaceId modelId now) := by
  refine Ensures.read.bind fun other => ?_
  refine .bind (.select (q := fun found rows => (other = registry ∧ p rows) ∧
    ∃ earlier, p earlier ∧ found = earlier.registered workspaceId) fun rows hrows =>
      ⟨hrows, rows, hrows.2, rfl⟩) fun found => ?_
  -- What was found, and where the identifiers come from, stays known while tables are written.
  intro state result later hbefore hrun
  obtain ⟨⟨rfl, hrows⟩, earlier, hearlier, rfl⟩ := hbefore
  refine Ensures.forM (fun table htable => ?_) state result later hrows hrun
  exact .change fun rows changed hrows hchange =>
    hput earlier rows changed table hearlier htable hrows hchange

/-- What a catalog shows is what the rows hold when it has been loaded. -/
structure Catalog.Shows (catalog : Catalog) (rows : RegistryRows) (workspaceId : String) : Prop where
  owns : rows.OwnsModel workspaceId catalog.model.id
  tables : catalog.tables = rows.tables workspaceId catalog.model.id
  relationships : catalog.relationships = rows.relationshipsOf catalog.model.id

/-- A catalog shows what is left when its model has been found and its tables have been brought in
line. -/
theorem readCatalog_leaves {modelId : Option String} {found synced : DataModel → RegistryRows → Prop}
    (hresolve : Ensures registry p found (resolveModel workspaceId modelId now))
    (hsync : ∀ model, Ensures registry (found model) (fun _ => synced model)
      (syncModelTables workspaceId model.id now)) :
    Ensures registry p (fun catalog rows => synced catalog.model rows ∧
        rows.readTables workspaceId catalog.model.id = .ok catalog.tables ∧
        catalog.relationships = rows.relationshipsOf catalog.model.id)
      (readCatalog workspaceId modelId now) := by
  refine hresolve.bind fun model => (hsync model).bind fun _ => ?_
  refine .bind (.statement (q := fun tables rows => synced model rows ∧
    rows.readTables workspaceId model.id = .ok tables) fun rows tables changed hrows hread => ?_)
    fun tables => ?_
  · obtain ⟨listed, hlisted, heq⟩ := map_eq_ok.1 hread
    obtain ⟨rfl, rfl⟩ := Prod.mk.inj heq
    exact ⟨hrows, hlisted⟩
  refine .bind (.select (q := fun relationships rows => (synced model rows ∧
    rows.readTables workspaceId model.id = .ok tables) ∧
    relationships = rows.relationshipsOf model.id) fun rows hrows => ⟨hrows, rfl⟩)
    fun relationships => ?_
  exact .pure fun rows hrows => ⟨hrows.1.1, hrows.1.2, hrows.2⟩

theorem readCatalog_ensures {modelId : Option String}
    (hadd : ∀ rows changed, p rows →
      rows.addDefaultModel (defaultModelId workspaceId) workspaceId defaultModelName now =
        .ok changed → p changed)
    (hput : ∀ earlier rows changed modelId found, p earlier →
      found ∈ earlier.registered workspaceId → p rows → rows.OwnsModel workspaceId modelId →
      rows.putModelTable (found.record (registry.tableId modelId found.synced.id) modelId now) =
        .ok changed → p changed) :
    Ensures registry p (fun catalog rows => p rows ∧ catalog.Shows rows workspaceId)
      (readCatalog workspaceId modelId now) := by
  have hsync : ∀ model : DataModel,
      Ensures registry (fun rows => p rows ∧ rows.OwnsModel workspaceId model.id)
        (fun _ rows => p rows ∧ rows.OwnsModel workspaceId model.id)
        (syncModelTables workspaceId model.id now) := by
    refine fun model => syncModelTables_ensures fun earlier rows changed found hearlier hfound hrows
      hchange => ?_
    refine ⟨hput earlier rows changed model.id found hearlier.1 hfound hrows.1 hrows.2 hchange, ?_⟩
    rcases RegistryRows.putModelTable_eq_ok hchange with rfl | rfl <;> exact hrows.2
  have hresolve : Ensures registry p
      (fun model rows => p rows ∧ rows.OwnsModel workspaceId model.id)
      (resolveModel workspaceId modelId now) :=
    (resolveModel_resolves fun rows changed hrows _ _ => hadd rows changed hrows).mono
      fun _ _ h => ⟨h.1, h.2.ownsModel⟩
  refine (readCatalog_leaves hresolve hsync).mono fun catalog rows h => ?_
  exact ⟨h.1.1, h.1.2, (RegistryRows.readTables_eq_ok h.2.1).2, h.2.2⟩

theorem storeRelationship_ensures {q : RegistryRows → Prop} {draft : RelationshipDraft} {id : String}
    (hput : ∀ rows changed r, q rows → draft.complete id now = .ok r →
      rows.putRelationship { r with storedKey := r.key } = .ok changed → p changed) :
    Ensures registry q (fun _ => p) (storeRelationship draft id now) := by
  refine .bind (.statement (q := fun _ => p) fun rows key changed hrows hbody => ?_) fun key => ?_
  · obtain ⟨r, hr, hbody⟩ := bind_eq_ok.1 hbody
    obtain ⟨changed, hchange, hbody⟩ := bind_eq_ok.1 hbody
    cases hbody
    exact hput rows changed r hrows hr hchange
  · refine .bind (.select (q := fun _ => p) fun rows hrows => hrows) fun found => ?_
    cases found with
    | some record => exact .pure fun rows hrows => hrows
    | none => exact .throw

theorem Registry.saveRelationship_keeps {draft : RelationshipDraft} (hrows : p registry.rows)
    (hput : ∀ changed r id, draft.complete id now = .ok r →
      registry.rows.putRelationship { r with storedKey := r.key } = .ok changed → p changed) :
    ∃ rows issued, (registry.saveRelationship draft now).2 = { registry with rows, issued } ∧
      p rows := by
  obtain ⟨id, issued, hid⟩ : ∃ id issued, registry.relationshipId draft.id =
      (id, { registry with issued }) := registry.exists_issued draft.id _ _
  unfold Registry.saveRelationship
  rw [hid]
  dsimp only
  have hstore : Ensures { registry with issued } (· = registry.rows) (fun _ => p)
      (storeRelationship draft id now) :=
    storeRelationship_ensures fun rows changed r heq hr hchange =>
      hput changed r id hr (heq ▸ hchange)
  rcases hstore.commit rfl with ⟨r, rows, hcommit, hafter⟩ | ⟨fault, hcommit⟩
  · rw [hcommit]
    exact ⟨rows, issued, rfl, hafter⟩
  · rw [hcommit]
    exact ⟨registry.rows, issued, rfl, hrows⟩

theorem Registry.deleteRelationship_keeps {id : String} (hrows : p registry.rows)
    (hremove : p (registry.rows.removeRelationship workspaceId id)) :
    ∃ rows, (registry.deleteRelationship workspaceId id).2 = { registry with rows } ∧ p rows := by
  unfold Registry.deleteRelationship
  have hdelete : Ensures registry (· = registry.rows) (fun _ => p)
      (dropRelationship workspaceId id) := by
    refine .statement fun rows found changed heq hbody => ?_
    cases hbody
    exact heq ▸ hremove
  rcases hdelete.commit rfl with ⟨found, rows, hcommit, hafter⟩ | ⟨fault, hcommit⟩
  · rw [hcommit]
    exact ⟨rows, rfl, hafter⟩
  · rw [hcommit]
    exact ⟨_, rfl, hrows⟩

/-! ### Registration -/

theorem commit_keeps {α : Type} {work : Transaction α} (h : Ensures registry p (fun _ => p) work)
    (hrows : p registry.rows) : p (registry.commit work).2.rows := by
  rcases h.commit hrows with ⟨result, rows, hcommit, hafter⟩ | ⟨fault, hcommit⟩
  · rw [hcommit]
    exact hafter
  · rw [hcommit]
    exact hrows

theorem Registry.registerConnection_writes (hrows : p registry.rows)
    (hadd : ∀ rows changed record, p rows → rows.addConnection record = .ok changed → p changed)
    (entry : NewConnection) : p (registry.registerConnection entry).2.rows := by
  obtain ⟨id, issued, hid⟩ : ∃ id issued, registry.connectionId entry.id =
      (id, { registry with issued }) := registry.exists_issued entry.id _ _
  unfold Registry.registerConnection
  rw [hid]
  refine commit_keeps ?_ hrows
  refine .bind (.change (q := p) fun rows changed hrows hchange => ?_) fun _ => .pure fun _ h => h
  obtain ⟨workspaceId, -, hchange⟩ := bind_eq_ok.1 hchange
  obtain ⟨type, -, hchange⟩ := bind_eq_ok.1 hchange
  exact hadd rows changed _ hrows hchange

theorem Registry.registerConnection_keeps (hrows : p registry.rows)
    (hadd : ∀ rows connections, p rows → p { rows with connections }) (entry : NewConnection) :
    p (registry.registerConnection entry).2.rows := by
  refine registerConnection_writes hrows (fun rows changed record hrows hchange => ?_) entry
  obtain ⟨-, rfl⟩ := RegistryRows.addConnection_eq_ok hchange
  exact hadd rows _ hrows

theorem Registry.registerSyncedTable_writes (hrows : p registry.rows)
    (hadd : ∀ rows changed record, p rows → rows.addSyncedTable record = .ok changed → p changed)
    (entry : NewSyncedTable) : p (registry.registerSyncedTable entry).2.rows := by
  obtain ⟨id, issued, hid⟩ : ∃ id issued, registry.syncedTableId entry.id =
      (id, { registry with issued }) := registry.exists_issued entry.id _ _
  unfold Registry.registerSyncedTable
  rw [hid]
  refine commit_keeps ?_ hrows
  refine .bind (.change (q := p) fun rows changed hrows hchange => ?_) fun _ => .pure fun _ h => h
  obtain ⟨connectionId, -, hchange⟩ := bind_eq_ok.1 hchange
  obtain ⟨name, -, hchange⟩ := bind_eq_ok.1 hchange
  exact hadd rows changed _ hrows hchange

theorem Registry.registerSyncedTable_keeps (hrows : p registry.rows)
    (hadd : ∀ rows syncedTables, p rows → p { rows with syncedTables }) (entry : NewSyncedTable) :
    p (registry.registerSyncedTable entry).2.rows := by
  refine registerSyncedTable_writes hrows (fun rows changed record hrows hchange => ?_) entry
  obtain ⟨-, rfl⟩ := RegistryRows.addSyncedTable_eq_ok hchange
  exact hadd rows _ hrows

theorem Registry.registerRuntimeTable_writes (hrows : p registry.rows)
    (hput : ∀ rows record, p rows → p (rows.putRuntimeTable record)) (entry : NewRuntimeTable) :
    p (registry.registerRuntimeTable entry).2.rows := by
  refine commit_keeps (.change fun rows changed hrows hchange => ?_) hrows
  obtain ⟨syncedTableId, -, hchange⟩ := bind_eq_ok.1 hchange
  obtain ⟨executable, -, hchange⟩ := bind_eq_ok.1 hchange
  obtain rfl := pure_eq_ok.1 hchange
  exact hput rows _ hrows

theorem Registry.registerRuntimeTable_keeps (hrows : p registry.rows)
    (hput : ∀ rows runtimeTables, p rows → p { rows with runtimeTables })
    (entry : NewRuntimeTable) : p (registry.registerRuntimeTable entry).2.rows := by
  refine registerRuntimeTable_writes hrows (fun rows record hrows => ?_) entry
  unfold RegistryRows.putRuntimeTable
  split <;> exact hput rows _ hrows

end

end SemanticLayer
