import Mathlib.Data.List.Nodup
import SemanticLayer.Proofs.Registry.Write

/-!
What happens to a registry over time. Each operation is a transaction of a few writes, so what each
write keeps is kept by every run of operations: the keys of the rows, and the identifiers that data
models have given to their tables.
-/

namespace SemanticLayer

/-- What can be done with a registry. -/
inductive RegistryOperation where
  | registerConnection (entry : NewConnection)
  | registerSyncedTable (entry : NewSyncedTable)
  | registerRuntimeTable (entry : NewRuntimeTable)
  | markDeleted (table : RegistryTable) (id : String)
  | setSchema (id : String) (schema : Json)
  | insertModel (id workspaceId name : Option String) (isDefault : Bool)
  | ensureDefaultModel (workspaceId name now : String)
  | loadCatalog (workspaceId : String) (modelId : Option String) (now : String)
  | saveRelationship (draft : RelationshipDraft) (now : String)
  | deleteRelationship (workspaceId id : String)

namespace Registry

/-- The registry that an operation leaves, whether it succeeds or not. -/
def apply (registry : Registry) : RegistryOperation → Registry
  | .registerConnection entry => (registry.registerConnection entry).2
  | .registerSyncedTable entry => (registry.registerSyncedTable entry).2
  | .registerRuntimeTable entry => (registry.registerRuntimeTable entry).2
  | .markDeleted table id => (registry.markDeleted table id).2
  | .setSchema id schema => (registry.setSchema id schema).2
  | .insertModel id workspaceId name isDefault =>
    (registry.insertModel id workspaceId name isDefault).2
  | .ensureDefaultModel workspaceId name now => (registry.ensureDefaultModel workspaceId name now).2
  | .loadCatalog workspaceId modelId now => (registry.loadCatalog workspaceId modelId now).2
  | .saveRelationship draft now => (registry.saveRelationship draft now).2
  | .deleteRelationship workspaceId id => (registry.deleteRelationship workspaceId id).2

/-- The registry that operations leave, one after another. -/
def run (registry : Registry) (operations : List RegistryOperation) : Registry :=
  operations.foldl apply registry

end Registry

open Transaction

namespace RegistryRows

/-- One write on the rows; setting a schema is a write of its own. -/
inductive Write (rows : RegistryRows) : RegistryRows → Prop
  | connection {record : ConnectionRecord} {changed : RegistryRows}
      (h : rows.addConnection record = .ok changed) : Write rows changed
  | syncedTable {record : SyncedTableRecord} {changed : RegistryRows}
      (h : rows.addSyncedTable record = .ok changed) : Write rows changed
  | runtimeTable (record : RuntimeTableRecord) : Write rows (rows.putRuntimeTable record)
  | deletion {table : RegistryTable} {id : String} {changed : RegistryRows}
      (h : rows.markDeleted table id = .ok changed) : Write rows changed
  | model {record : ModelRecord} {changed : RegistryRows}
      (h : rows.addModel record = .ok changed) : Write rows changed
  | modelTable {record : ModelTableRecord} {changed : RegistryRows}
      (h : rows.putModelTable record = .ok changed) : Write rows changed
  | relationship {record : RelationshipRecord} {changed : RegistryRows}
      (h : rows.putRelationship record = .ok changed) : Write rows changed
  | removal (workspaceId id : String) : Write rows (rows.removeRelationship workspaceId id)

end RegistryRows

section

open RegistryRows

variable {p : RegistryRows → Prop} {registry : Registry}

/-- What the writes keep is kept by every operation. -/
theorem Registry.apply_keeps (hwrite : ∀ rows changed, p rows → rows.Write changed → p changed)
    (operation : RegistryOperation)
    (hschema : ∀ id schema, operation = .setSchema id schema → ∀ rows, p rows →
      p (rows.setSchema id schema))
    (hrows : p registry.rows) : p (registry.apply operation).rows := by
  cases operation with
  | registerConnection entry =>
    exact registerConnection_writes hrows
      (fun rows changed _ h hadd => hwrite rows changed h (.connection hadd)) entry
  | registerSyncedTable entry =>
    exact registerSyncedTable_writes hrows
      (fun rows changed _ h hadd => hwrite rows changed h (.syncedTable hadd)) entry
  | registerRuntimeTable entry =>
    exact registerRuntimeTable_writes hrows
      (fun rows record h => hwrite rows _ h (.runtimeTable record)) entry
  | markDeleted table id =>
    exact commit_keeps
      (.change fun rows changed h hmark => hwrite rows changed h (.deletion hmark)) hrows
  | setSchema id schema =>
    refine commit_keeps (.change fun rows changed h hset => ?_) hrows
    exact Except.ok.inj hset ▸ hschema id schema rfl rows h
  | insertModel id workspaceId name isDefault =>
    refine commit_keeps (.change fun rows changed h hinsert => ?_) hrows
    obtain ⟨id, -, hinsert⟩ := bind_eq_ok.1 hinsert
    obtain ⟨workspaceId, -, hinsert⟩ := bind_eq_ok.1 hinsert
    obtain ⟨name, -, hinsert⟩ := bind_eq_ok.1 hinsert
    exact hwrite rows changed h (.model hinsert)
  | ensureDefaultModel workspaceId name now =>
    exact commit_keeps ((ensureDefault_ensures fun rows changed h hadd =>
      hwrite rows changed h (.model hadd)).mono fun _ _ h => h.1) hrows
  | loadCatalog workspaceId modelId now =>
    exact commit_keeps ((readCatalog_ensures
      (fun rows changed h hadd => hwrite rows changed h (.model hadd))
      (fun _ rows changed _ _ _ _ h _ hput => hwrite rows changed h (.modelTable hput))).mono
        fun _ _ h => h.1) hrows
  | saveRelationship draft now =>
    obtain ⟨rows, issued, hafter, h⟩ := saveRelationship_keeps hrows fun changed r id _ hput =>
      hwrite registry.rows changed hrows (.relationship hput)
    rw [apply, hafter]
    exact h
  | deleteRelationship workspaceId id =>
    obtain ⟨rows, hafter, h⟩ := deleteRelationship_keeps hrows
      (hwrite registry.rows _ hrows (.removal workspaceId id))
    rw [apply, hafter]
    exact h

theorem Registry.run_keeps (hwrite : ∀ rows changed, p rows → rows.Write changed → p changed)
    (operations : List RegistryOperation)
    (hschema : ∀ id schema, .setSchema id schema ∈ operations → ∀ rows, p rows →
      p (rows.setSchema id schema))
    (hrows : p registry.rows) : p (registry.run operations).rows := by
  induction operations generalizing registry with
  | nil => exact hrows
  | cons operation rest ih =>
    refine ih (fun id schema hmem => hschema id schema (List.mem_cons_of_mem _ hmem)) ?_
    refine apply_keeps hwrite operation (fun id schema heq => ?_) hrows
    exact hschema id schema (heq ▸ List.mem_cons_self)

end

/-! ### Keys -/

namespace RegistryRows

/-- No two rows have the same key. A data model has one table for a synced table. -/
structure Keyed (rows : RegistryRows) : Prop where
  connections : (rows.connections.map (·.id)).Nodup
  syncedTables : (rows.syncedTables.map (·.id)).Nodup
  runtimeTables : (rows.runtimeTables.map (·.syncedTableId)).Nodup
  modelTables : (rows.modelTables.map fun record => (record.modelId, record.syncedTableId)).Nodup

theorem Keyed.empty : RegistryRows.empty.Keyed := by
  constructor <;> exact List.nodup_nil

variable {rows changed : RegistryRows}

/-- The key of a row is new if no row is found under it. -/
theorem nodup_append_of_find_none {α : Type} {key : α → String} {items : List α} {item : α}
    (h : (items.map key).Nodup) (hnew : items.find? (key · == key item) = none) :
    ((items ++ [item]).map key).Nodup := by
  rw [List.map_append, List.nodup_append]
  refine ⟨h, List.nodup_singleton _, ?_⟩
  simpa using hnew

theorem markDeleted_eq_ok {table : RegistryTable} {id : String}
    (h : rows.markDeleted table id = .ok changed) :
    (∃ mark : ConnectionRecord → ConnectionRecord, (∀ record, (mark record).id = record.id) ∧
      changed = { rows with connections := rows.connections.map mark }) ∨
    ∃ mark : SyncedTableRecord → SyncedTableRecord,
      (∀ record, (mark record).id = record.id ∧ (mark record).schema = record.schema) ∧
      changed = { rows with syncedTables := rows.syncedTables.map mark } := by
  unfold markDeleted at h
  split at h
  · refine .inl ⟨_, fun record => ?_, (Except.ok.inj h).symm⟩
    split <;> rfl
  · refine .inr ⟨_, fun record => ?_, (Except.ok.inj h).symm⟩
    split <;> exact ⟨rfl, rfl⟩
  · cases h

/-- Changes that leave the keys leave them distinct. -/
theorem nodup_map_of_key_eq {α κ : Type} {key : α → κ} {change : α → α} {items : List α}
    (h : (items.map key).Nodup) (hkey : ∀ item, key (change item) = key item) :
    ((items.map change).map key).Nodup := by
  rw [List.map_map]
  have hkeys : key ∘ change = key := funext hkey
  rwa [hkeys]

theorem putRuntimeTable_keys (record : RuntimeTableRecord)
    (h : (rows.runtimeTables.map (·.syncedTableId)).Nodup) :
    ((rows.putRuntimeTable record).runtimeTables.map (·.syncedTableId)).Nodup := by
  unfold putRuntimeTable
  split
  · refine nodup_map_of_key_eq h fun other => ?_
    split
    · rename_i hkey
      exact (beq_iff_eq.1 hkey).symm
    · rfl
  · rename_i hnew
    exact nodup_append_of_find_none h (Option.not_isSome_iff_eq_none.1 hnew)

/-- Every write keeps the keys distinct. -/
theorem Write.keyed (h : rows.Keyed) (hwrite : rows.Write changed) : changed.Keyed := by
  cases hwrite with
  | connection hadd =>
    obtain ⟨hnew, rfl⟩ := addConnection_eq_ok hadd
    exact { h with connections := nodup_append_of_find_none h.connections hnew }
  | syncedTable hadd =>
    obtain ⟨hnew, rfl⟩ := addSyncedTable_eq_ok hadd
    exact { h with syncedTables := nodup_append_of_find_none h.syncedTables hnew }
  | runtimeTable record =>
    have hkeys := putRuntimeTable_keys record h.runtimeTables
    unfold putRuntimeTable at hkeys ⊢
    split at hkeys
    · rename_i hfound
      rw [if_pos hfound]
      exact { h with runtimeTables := hkeys }
    · rename_i hnew
      rw [if_neg hnew]
      exact { h with runtimeTables := hkeys }
  | deletion hmark =>
    rcases markDeleted_eq_ok hmark with ⟨mark, hid, rfl⟩ | ⟨mark, hid, rfl⟩
    · exact { h with connections := nodup_map_of_key_eq h.connections hid }
    · exact { h with syncedTables := nodup_map_of_key_eq h.syncedTables fun record => (hid record).1 }
  | model hadd => rcases addModel_eq_ok hadd with rfl | ⟨-, rfl⟩ <;> exact { h with }
  | modelTable hput =>
    rcases putModelTable_updated_or_added hput with rfl | ⟨hnew, rfl⟩
    · refine { h with modelTables := nodup_map_of_key_eq h.modelTables fun other => ?_ }
      rw [modelId_updateTable, syncedTableId_updateTable]
    · refine { h with modelTables := ?_ }
      rw [List.map_append, List.nodup_append]
      refine ⟨h.modelTables, List.nodup_singleton _, fun key hkey new hsame heq => ?_⟩
      obtain ⟨other, hother, rfl⟩ := List.mem_map.1 hkey
      obtain rfl := List.mem_singleton.1 hsame
      obtain ⟨hmodel, hsynced⟩ := Prod.mk.inj heq
      have hnone := hnew other hother
      simp [isSameTable, hmodel, hsynced] at hnone
  | relationship hput => rcases putRelationship_eq_ok hput with rfl | ⟨-, rfl⟩ <;> exact { h with }
  | removal workspaceId id => exact { h with }

theorem Keyed.setSchema (h : rows.Keyed) (id : String) (schema : Json) :
    (rows.setSchema id schema).Keyed := by
  refine { h with syncedTables := nodup_map_of_key_eq h.syncedTables fun record => ?_ }
  split <;> rfl

/-! ### Identifiers of tables -/

/-- The data model has the synced table under the identifier. -/
def Assigns (rows : RegistryRows) (modelId syncedTableId id : String) : Prop :=
  ∃ record ∈ rows.modelTables,
    record.modelId = modelId ∧ record.syncedTableId = syncedTableId ∧ record.id = id

variable {modelId syncedTableId id : String}

theorem Keyed.eq_of_assigns {other : String} (h : rows.Keyed)
    (hone : rows.Assigns modelId syncedTableId id) (htwo : rows.Assigns modelId syncedTableId other) :
    id = other := by
  obtain ⟨one, hone, rfl, rfl, rfl⟩ := hone
  obtain ⟨two, htwo, hmodel, hsynced, rfl⟩ := htwo
  have hsame : two = one :=
    List.inj_on_of_nodup_map h.modelTables htwo hone (Prod.ext hmodel hsynced)
  rw [hsame]

/-- An identifier that is given to a table is not taken back. -/
theorem Write.assigns (h : rows.Assigns modelId syncedTableId id) (hwrite : rows.Write changed) :
    changed.Assigns modelId syncedTableId id := by
  obtain ⟨record, hrecord, hfacts⟩ := h
  cases hwrite with
  | connection hadd =>
    obtain ⟨-, rfl⟩ := addConnection_eq_ok hadd
    exact ⟨record, hrecord, hfacts⟩
  | syncedTable hadd =>
    obtain ⟨-, rfl⟩ := addSyncedTable_eq_ok hadd
    exact ⟨record, hrecord, hfacts⟩
  | runtimeTable place =>
    unfold putRuntimeTable
    split <;> exact ⟨record, hrecord, hfacts⟩
  | deletion hmark =>
    rcases markDeleted_eq_ok hmark with ⟨mark, -, rfl⟩ | ⟨mark, -, rfl⟩ <;>
      exact ⟨record, hrecord, hfacts⟩
  | model hadd => rcases addModel_eq_ok hadd with rfl | ⟨-, rfl⟩ <;> exact ⟨record, hrecord, hfacts⟩
  | modelTable hput =>
    rcases putModelTable_eq_ok hput with rfl | rfl
    · refine ⟨updateTable _ record, List.mem_map_of_mem hrecord, ?_⟩
      rwa [modelId_updateTable, syncedTableId_updateTable, id_updateTable]
    · exact ⟨record, List.mem_append_left _ hrecord, hfacts⟩
  | relationship hput =>
    rcases putRelationship_eq_ok hput with rfl | ⟨-, rfl⟩ <;> exact ⟨record, hrecord, hfacts⟩
  | removal workspaceId id => exact ⟨record, hrecord, hfacts⟩

/-! ### Schemas -/

/-- The synced table is registered with the schema. -/
def HasSchema (rows : RegistryRows) (id : String) (schema : Json) : Prop :=
  ∃ record ∈ rows.syncedTables, record.id = id ∧ record.schema = schema

theorem Write.hasSchema {schema : Json} (h : rows.HasSchema id schema) (hwrite : rows.Write changed) :
    changed.HasSchema id schema := by
  obtain ⟨record, hrecord, hid, hschema⟩ := h
  cases hwrite with
  | connection hadd =>
    obtain ⟨-, rfl⟩ := addConnection_eq_ok hadd
    exact ⟨record, hrecord, hid, hschema⟩
  | syncedTable hadd =>
    obtain ⟨-, rfl⟩ := addSyncedTable_eq_ok hadd
    exact ⟨record, List.mem_append_left _ hrecord, hid, hschema⟩
  | runtimeTable place =>
    unfold putRuntimeTable
    split <;> exact ⟨record, hrecord, hid, hschema⟩
  | deletion hmark =>
    rcases markDeleted_eq_ok hmark with ⟨mark, -, rfl⟩ | ⟨mark, hsame, rfl⟩
    · exact ⟨record, hrecord, hid, hschema⟩
    · exact ⟨mark record, List.mem_map_of_mem hrecord, (hsame record).1.trans hid,
        (hsame record).2.trans hschema⟩
  | model hadd =>
    rcases addModel_eq_ok hadd with rfl | ⟨-, rfl⟩ <;> exact ⟨record, hrecord, hid, hschema⟩
  | modelTable hput =>
    rcases putModelTable_eq_ok hput with rfl | rfl <;> exact ⟨record, hrecord, hid, hschema⟩
  | relationship hput =>
    rcases putRelationship_eq_ok hput with rfl | ⟨-, rfl⟩ <;> exact ⟨record, hrecord, hid, hschema⟩
  | removal workspaceId id => exact ⟨record, hrecord, hid, hschema⟩

/-- The schema of another synced table is set. -/
theorem HasSchema.setSchema {other : String} {schema : Json} (h : rows.HasSchema id schema)
    (hother : other ≠ id) (value : Json) : (rows.setSchema other value).HasSchema id schema := by
  obtain ⟨record, hrecord, hid, hschema⟩ := h
  refine ⟨record, List.mem_map.2 ⟨record, hrecord, if_neg ?_⟩, hid, hschema⟩
  simpa [hid] using hother.symm

end RegistryRows

namespace Registry

variable {registry : Registry}

theorem run_keyed (operations : List RegistryOperation) (h : registry.rows.Keyed) :
    (registry.run operations).rows.Keyed :=
  run_keeps (fun _ _ hrows hwrite => hwrite.keyed hrows) operations
    (fun id schema _ _ hrows => hrows.setSchema id schema) h

/-- Whatever is done with an empty registry, its rows have keys. -/
theorem run_empty_keyed (operations : List RegistryOperation) :
    (empty.run operations).rows.Keyed :=
  run_keyed operations .empty

theorem run_assigns {modelId syncedTableId id : String} (operations : List RegistryOperation)
    (h : registry.rows.Assigns modelId syncedTableId id) :
    (registry.run operations).rows.Assigns modelId syncedTableId id :=
  run_keeps (fun _ _ hrows hwrite => hwrite.assigns hrows) operations (fun _ _ _ _ hrows => hrows) h

theorem run_hasSchema {id : String} {schema : Json} {operations : List RegistryOperation}
    (hother : ∀ value, RegistryOperation.setSchema id value ∉ operations)
    (h : registry.rows.HasSchema id schema) : (registry.run operations).rows.HasSchema id schema := by
  refine run_keeps (fun _ _ hrows hwrite => hwrite.hasSchema hrows) operations
    (fun other value hmem rows hrows => hrows.setSchema ?_ value) h
  rintro rfl
  exact hother value hmem

end Registry

end SemanticLayer
