import SemanticLayer.Proofs.Registry.Loading
import SemanticLayer.Proofs.Registry.Relationship

/-!
What stays in a registry while no relationship is stored or removed. Default models may be made and
catalogs of any workspace may be loaded: what is registered stays, and so do the relationships; data
models are found as before, and tables that are in line with what is registered stay in line. Such
tables are listed as they are.
-/

namespace SemanticLayer

open Transaction

namespace RegistryRows

variable {rows changed later : RegistryRows} {workspaceId modelId : String}

/-! ### Distinct identifiers -/

/-- The rows have keys, and no two data models, tables of data models or relationships have the same
identifier. -/
structure Constrained (rows : RegistryRows) : Prop extends rows.Keyed where
  modelIds : (rows.models.map (·.id)).Nodup
  tableIds : (rows.modelTables.map (·.id)).Nodup
  relationshipIds : (rows.relationships.map (·.id)).Nodup

theorem Constrained.empty : RegistryRows.empty.Constrained :=
  ⟨.empty, List.nodup_nil, List.nodup_nil, List.nodup_nil⟩

theorem nodup_append_of_any_eq_false {α : Type} {key : α → String} {items : List α} {item : α}
    (h : (items.map key).Nodup) (hnew : items.any (key · == key item) = false) :
    ((items ++ [item]).map key).Nodup :=
  nodup_append_of_find_none h (by simpa using hnew)

/-- Every write keeps the identifiers distinct. -/
theorem Write.constrained (h : rows.Constrained) (hwrite : rows.Write changed) :
    changed.Constrained := by
  have hkeyed := hwrite.keyed h.toKeyed
  cases hwrite with
  | connection hadd =>
    obtain ⟨-, rfl⟩ := addConnection_eq_ok hadd
    exact ⟨hkeyed, h.modelIds, h.tableIds, h.relationshipIds⟩
  | syncedTable hadd =>
    obtain ⟨-, rfl⟩ := addSyncedTable_eq_ok hadd
    exact ⟨hkeyed, h.modelIds, h.tableIds, h.relationshipIds⟩
  | runtimeTable record =>
    refine ⟨hkeyed, ?_, ?_, ?_⟩ <;> unfold putRuntimeTable <;> split
    exacts [h.modelIds, h.modelIds, h.tableIds, h.tableIds, h.relationshipIds, h.relationshipIds]
  | deletion hmark =>
    rcases markDeleted_eq_ok hmark with ⟨mark, -, rfl⟩ | ⟨mark, -, rfl⟩ <;>
      exact ⟨hkeyed, h.modelIds, h.tableIds, h.relationshipIds⟩
  | model hadd =>
    rcases addModel_eq_ok hadd with rfl | ⟨hnew, rfl⟩
    · exact h
    · exact ⟨hkeyed, nodup_append_of_any_eq_false h.modelIds hnew, h.tableIds, h.relationshipIds⟩
  | modelTable hput =>
    rw [putModelTable_eq] at hput
    split_ifs at hput with hsame hid
    · obtain rfl := Except.ok.inj hput
      exact ⟨hkeyed, h.modelIds, nodup_map_of_key_eq h.tableIds (id_updateTable _),
        h.relationshipIds⟩
    · obtain rfl := Except.ok.inj hput
      exact ⟨hkeyed, h.modelIds, nodup_append_of_any_eq_false h.tableIds (by simpa using hid),
        h.relationshipIds⟩
  | relationship hput =>
    unfold putRelationship at hput
    split_ifs at hput with hsame hid
    · obtain rfl := Except.ok.inj hput
      refine ⟨hkeyed, h.modelIds, h.tableIds, nodup_map_of_key_eq h.relationshipIds fun other => ?_⟩
      split <;> rfl
    · obtain rfl := Except.ok.inj hput
      exact ⟨hkeyed, h.modelIds, h.tableIds,
        nodup_append_of_any_eq_false h.relationshipIds (by simpa using hid)⟩
  | removal workspaceId id =>
    exact ⟨hkeyed, h.modelIds, h.tableIds, h.relationshipIds.sublist (List.filter_sublist.map _)⟩

theorem Constrained.setSchema (h : rows.Constrained) (id : String) (schema : Json) :
    (rows.setSchema id schema).Constrained :=
  ⟨h.toKeyed.setSchema id schema, h.modelIds, h.tableIds, h.relationshipIds⟩

/-- The model that is found is the one with its identifier. -/
theorem Constrained.model_eq (h : rows.Constrained) {id : Option String} {model : DataModel}
    (hmodel : rows.Resolves workspaceId id model) :
    rows.model? workspaceId model.id = some model := by
  obtain ⟨record, hrecord, rfl, rfl⟩ := hmodel.exists_record
  have hfits : (rows.models.find? fun other =>
      other.id == record.id && other.workspaceId == record.workspaceId).isSome := by
    rw [List.find?_isSome]
    exact ⟨record, hrecord, by simp⟩
  obtain ⟨other, hother⟩ := Option.isSome_iff_exists.1 hfits
  have hsame := List.find?_some hother
  simp only [Bool.and_eq_true, beq_iff_eq] at hsame
  have hrecords : other = record :=
    List.inj_on_of_nodup_map h.modelIds (List.mem_of_find?_eq_some hother) hrecord hsame.1
  rw [model?, hother, hrecords]
  rfl

/-- A data model belongs to one workspace. -/
theorem Constrained.workspace_eq (h : rows.Constrained) {other : String}
    (hone : rows.OwnsModel workspaceId modelId) (htwo : rows.OwnsModel other modelId) :
    workspaceId = other := by
  obtain ⟨one, hone, rfl, rfl⟩ := hone
  obtain ⟨two, htwo, hid, rfl⟩ := htwo
  rw [List.inj_on_of_nodup_map h.modelIds htwo hone hid]

/-- A model that is added is found by none of those who found another one before. -/
theorem Resolves.append {record : ModelRecord} {id : Option String} {model : DataModel}
    (hnone : rows.defaultModel? record.workspaceId = none)
    (h : rows.Resolves workspaceId id model) :
    Resolves { rows with models := rows.models ++ [record] } workspaceId id model := by
  unfold Resolves at h ⊢
  cases hid : presentText id with
  | some id =>
    simp only [hid] at h
    obtain ⟨found, hfound, rfl⟩ := Option.map_eq_some_iff.1 h
    simp only [model?, List.find?_append, hfound, Option.some_or, Option.map_some]
  | none =>
    simp only [hid] at h
    have hworkspace : record.workspaceId ≠ workspaceId := by
      rintro rfl
      cases hnone.symm.trans h
    have hother : (record.workspaceId == workspaceId && record.isDefault) = false := by
      simp [hworkspace]
    simpa only [defaultModel?, List.filter_append, List.filter_cons, hother, Bool.false_eq_true,
      if_false, List.filter_nil, List.append_nil] using h

/-- What is written for another data model leaves a row as it is. -/
theorem exists_isRecordedBy_of_otherModel {found : RegisteredTable} {record : ModelTableRecord}
    (hne : record.modelId ≠ modelId)
    (hrow : ∃ row ∈ rows.modelTables, found.IsRecordedBy modelId row)
    (h : rows.putModelTable record = .ok changed) :
    ∃ row ∈ changed.modelTables, found.IsRecordedBy modelId row := by
  obtain ⟨row, hrow, hrecorded⟩ := hrow
  rcases putModelTable_eq_ok h with rfl | rfl
  · refine ⟨updateTable record row, List.mem_map_of_mem hrow, ?_⟩
    have hkept : updateTable record row = row := by
      unfold updateTable
      rw [if_neg]
      simp [isSameTable, hrecorded.key.1, hne]
    rwa [hkept]
  · exact ⟨row, List.mem_append_left _ hrow, hrecorded⟩

/-- A live table that the data model has under an identifier is listed under it. -/
theorem InLine.mem_tables (hline : rows.InLine workspaceId modelId) (hkeyed : rows.Keyed)
    {found : RegisteredTable} {id : String} (hlive : rows.IsLive workspaceId found)
    (hid : rows.Assigns modelId found.synced.id id) :
    found.listed id ∈ rows.tables workspaceId modelId := by
  obtain ⟨other, hother⟩ := (hline.isListing hkeyed).each found hlive
  have hmem : found.listed other ∈ rows.tables workspaceId modelId :=
    List.mem_of_mem_filter (hother ▸ List.mem_singleton_self _)
  rwa [hkeyed.eq_of_assigns hid (assigns_of_mem_tables hmem)]

/-! ### What continues -/

/-- The later rows are about the same sources and have the same relationships; nothing that a data
model is found by or known by is lost. -/
structure Continues (rows later : RegistryRows) : Prop where
  constrained : later.Constrained
  sources : rows.SameSources later
  relationships : later.relationships = rows.relationships
  models : ∀ record ∈ rows.models, record ∈ later.models
  resolves : ∀ workspaceId id model, rows.Resolves workspaceId id model →
    later.Resolves workspaceId id model
  assigns : ∀ modelId syncedTableId id, rows.Assigns modelId syncedTableId id →
    later.Assigns modelId syncedTableId id
  inLine : ∀ workspaceId modelId, rows.OwnsModel workspaceId modelId →
    rows.InLine workspaceId modelId → later.InLine workspaceId modelId

namespace Continues

theorem refl (h : rows.Constrained) : rows.Continues rows where
  constrained := h
  sources := .refl rows
  relationships := rfl
  models _ hrecord := hrecord
  resolves _ _ _ hmodel := hmodel
  assigns _ _ _ hid := hid
  inLine _ _ _ hline := hline

theorem ownsModel (h : rows.Continues later) (howns : rows.OwnsModel workspaceId modelId) :
    later.OwnsModel workspaceId modelId := by
  obtain ⟨record, hrecord, hfits⟩ := howns
  exact ⟨record, h.models record hrecord, hfits⟩

theorem trans (h : rows.Continues later) (hnext : later.Continues changed) :
    rows.Continues changed where
  constrained := hnext.constrained
  sources := ⟨hnext.sources.connections.trans h.sources.connections,
    hnext.sources.syncedTables.trans h.sources.syncedTables,
    hnext.sources.runtimeTables.trans h.sources.runtimeTables⟩
  relationships := hnext.relationships.trans h.relationships
  models record hrecord := hnext.models record (h.models record hrecord)
  resolves workspaceId id model hmodel :=
    hnext.resolves workspaceId id model (h.resolves workspaceId id model hmodel)
  assigns modelId syncedTableId id hid :=
    hnext.assigns modelId syncedTableId id (h.assigns modelId syncedTableId id hid)
  inLine workspaceId modelId howns hline :=
    hnext.inLine workspaceId modelId (h.ownsModel howns) (h.inLine workspaceId modelId howns hline)

/-- A workspace without a default model is given one. -/
theorem addDefaultModel {id name now : String} (h : rows.Constrained)
    (hnone : rows.defaultModel? workspaceId = none)
    (hadd : rows.addDefaultModel id workspaceId name now = .ok changed) :
    rows.Continues changed := by
  have hafter := Write.constrained h (.model hadd)
  rcases addModel_eq_ok hadd with rfl | ⟨-, rfl⟩
  · exact .refl h
  · exact {
      constrained := hafter
      sources := ⟨rfl, rfl, rfl⟩
      relationships := rfl
      models := fun _ hrecord => List.mem_append_left _ hrecord
      resolves := fun _ _ _ hmodel => hmodel.append hnone
      assigns := fun _ _ _ hid => hid
      inLine := fun _ _ _ hline => hline }

/-- A live table is written for a data model of its workspace. -/
theorem putModelTable {found : RegisteredTable} {id now : String} (h : rows.Constrained)
    (howns : rows.OwnsModel workspaceId modelId)
    (hfound : rows.registered? workspaceId found.synced.id = some found)
    (hput : rows.putModelTable (found.record id modelId now) = .ok changed) :
    rows.Continues changed where
  constrained := Write.constrained h (.modelTable hput)
  sources := (SameSources.refl rows).of_putModelTable hput
  relationships := (putModelTable_models hput).2
  models record hrecord := (putModelTable_models hput).1 ▸ hrecord
  resolves _ _ _ hmodel := hmodel.of_models (putModelTable_models hput).1
  assigns _ _ _ hid := Write.assigns hid (.modelTable hput)
  inLine other modelOther howner hline := by
    have hsources := (SameSources.refl rows).of_putModelTable hput
    intro live hlive
    rw [hsources.registered] at hlive
    by_cases hmodel : modelId = modelOther
    · -- The same data model belongs to the same workspace, whose tables are told apart.
      subst hmodel
      obtain rfl := h.workspace_eq howns howner
      exact exists_isRecordedBy_of_other hfound
        (((mem_registered_iff h.toKeyed).1 hlive).registered_eq h.toKeyed) (hline live hlive) hput
    · exact exists_isRecordedBy_of_otherModel hmodel (hline live hlive) hput

end Continues

end RegistryRows

/-! ### Transactions -/

section

open RegistryRows

variable {registry : Registry} {start rows : RegistryRows} {workspaceId now : String}
  {modelId : Option String}

/-- The catalog of a data model as it is stored for a workspace. -/
def RegistryRows.stored (rows : RegistryRows) (workspaceId : String) (model : DataModel) :
    Catalog :=
  ⟨model, rows.tables workspaceId model.id, rows.relationshipsOf model.id⟩

/-- Where the tables of a data model are in line, its catalog is what is stored. -/
theorem RegistryRows.stored_loadedFrom {model : DataModel} (hkeyed : rows.Keyed)
    (hmodel : rows.Resolves workspaceId modelId model) (hline : rows.InLine workspaceId model.id)
    (hschemas : ∀ found, rows.IsLive workspaceId found → schemaDigits? found.synced.schema = none) :
    (rows.stored workspaceId model).LoadedFrom rows rows workspaceId modelId where
  sources := .refl rows
  keyed := hkeyed
  resolves := hmodel
  known _ hother := hmodel.unique hother
  inLine := hline
  tables := by
    rw [stored, readTables, (hline.longNumber_eq_none_iff hkeyed).2 hschemas]
  relationships := rfl

end

namespace Registry

variable {registry : Registry} {workspaceId : String} {modelId : Option String}

theorem run_constrained (operations : List RegistryOperation) (h : registry.rows.Constrained) :
    (registry.run operations).rows.Constrained :=
  run_keeps (fun _ _ hrows hwrite => hwrite.constrained hrows) operations
    (fun id schema _ _ hrows => hrows.setSchema id schema) h

/-- Whatever is done with an empty registry, identifiers are distinct. -/
theorem run_empty_constrained (operations : List RegistryOperation) :
    (empty.run operations).rows.Constrained :=
  run_constrained operations .empty

end Registry

end SemanticLayer
