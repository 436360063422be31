import Mathlib.Data.List.Nodup
import SemanticLayer.Proofs.Registry.Write

/-!
What a workspace depends on. Its catalogs are loaded from its own part of the rows, and what is
written for the data models of another workspace leaves this part as it is.
-/

namespace SemanticLayer

open Transaction

theorem defaultModelId_injective : Function.Injective defaultModelId := by
  intro one two h
  exact String.append_right_inj _ |>.1 h

namespace RegistryRows

/-- Whether the workspace has the data model, or gets it when it needs a default one. -/
def isModelOf (rows : RegistryRows) (workspaceId modelId : String) : Bool :=
  (rows.models.filter (·.workspaceId == workspaceId)).any (·.id == modelId) ||
    (modelId == defaultModelId workspaceId && !rows.hasModel (defaultModelId workspaceId))

/-- The relationships of the data models that a workspace has. -/
def relationshipsIn (rows : RegistryRows) (workspaceId : String) : List RelationshipRecord :=
  rows.relationships.filter fun record => rows.models.any fun model =>
    model.id == record.dataModelId && model.workspaceId == workspaceId

/-- The rows look the same from a workspace: what is registered is the same, and so is all that
belongs to its data models. An identifier that one of them is about to give to a table is taken in
both or in neither. -/
structure SameFor (tableId : String → String → String) (workspaceId : String)
    (one two : RegistryRows) : Prop where
  connections : one.connections = two.connections
  syncedTables : one.syncedTables = two.syncedTables
  runtimeTables : one.runtimeTables = two.runtimeTables
  models : one.models.filter (·.workspaceId == workspaceId) =
    two.models.filter (·.workspaceId == workspaceId)
  defaultKey : one.models.any (·.defaultKey == some workspaceId) =
    two.models.any (·.defaultKey == some workspaceId)
  defaultId : one.hasModel (defaultModelId workspaceId) = two.hasModel (defaultModelId workspaceId)
  modelTables : one.modelTables.filter (one.isModelOf workspaceId ·.modelId) =
    two.modelTables.filter (two.isModelOf workspaceId ·.modelId)
  relationships : one.relationships.filter (one.isModelOf workspaceId ·.dataModelId) =
    two.relationships.filter (two.isModelOf workspaceId ·.dataModelId)
  tableIds : ∀ modelId, one.isModelOf workspaceId modelId = true → ∀ synced ∈ one.syncedTables,
    one.modelTables.any (·.id == tableId modelId synced.id) =
      two.modelTables.any (·.id == tableId modelId synced.id)

variable {rows changed one two three : RegistryRows} {tableId : String → String → String}
  {workspaceId other modelId name now : String}

/-! ### Data models of a workspace -/

theorem isModelOf_of_ownsModel (h : rows.OwnsModel workspaceId modelId) :
    rows.isModelOf workspaceId modelId = true := by
  obtain ⟨record, hrecord, rfl, rfl⟩ := h
  have hmem : record ∈ rows.models.filter (·.workspaceId == record.workspaceId) := by
    simpa using hrecord
  have hany : (rows.models.filter (·.workspaceId == record.workspaceId)).any (·.id == record.id) =
      true := List.any_eq_true.2 ⟨record, hmem, beq_self_eq_true _⟩
  rw [isModelOf, hany, Bool.true_or]

/-- A data model of one workspace is none of another. -/
theorem isModelOf_eq_false (hids : (rows.models.map (·.id)).Nodup)
    (h : rows.OwnsModel other modelId) (hother : other ≠ workspaceId) :
    rows.isModelOf workspaceId modelId = false := by
  obtain ⟨record, hrecord, rfl, rfl⟩ := h
  have hnone : (rows.models.filter (·.workspaceId == workspaceId)).any (·.id == record.id) =
      false := by
    rw [List.any_eq_false]
    intro found hfound hid
    obtain ⟨hmem, hworkspace⟩ := List.mem_filter.1 hfound
    have hsame : found = record :=
      List.inj_on_of_nodup_map hids hmem hrecord (beq_iff_eq.1 hid)
    exact hother (hsame ▸ beq_iff_eq.1 hworkspace)
  rw [isModelOf, hnone, Bool.false_or, Bool.and_eq_false_iff]
  by_cases hid : record.id = defaultModelId workspaceId
  · refine .inr ?_
    rw [Bool.not_eq_false', hasModel, List.any_eq_true]
    exact ⟨record, hrecord, beq_iff_eq.2 hid⟩
  · exact .inl (beq_eq_false_iff_ne.2 hid)

/-- The default model was a data model of the workspace before it is made. -/
theorem isModelOf_addDefault {record : ModelRecord} (hid : record.id = defaultModelId workspaceId)
    (hworkspace : record.workspaceId = workspaceId)
    (hnew : rows.hasModel (defaultModelId workspaceId) = false) :
    isModelOf { rows with models := rows.models ++ [record] } workspaceId =
      rows.isModelOf workspaceId := by
  funext modelId
  have hhas : hasModel { rows with models := rows.models ++ [record] }
      (defaultModelId workspaceId) = true := by
    simp [hasModel, hid]
  unfold isModelOf
  rw [hhas, hnew]
  simp [hworkspace, hid, List.filter_append, Bool.beq_comm]

/-- What belongs to one data model of the workspace is among what belongs to all of them. -/
theorem filter_eq_of_isModelOf {α : Type} {isModel : String → Bool} (modelOf : α → String)
    {left right : List α}
    (h : left.filter (isModel <| modelOf ·) = right.filter (isModel <| modelOf ·))
    (hmodel : isModel modelId = true) :
    left.filter (modelOf · == modelId) = right.filter (modelOf · == modelId) := by
  have hamong : ∀ items : List α, items.filter (modelOf · == modelId) =
      (items.filter (isModel <| modelOf ·)).filter (modelOf · == modelId) := by
    intro items
    rw [List.filter_filter]
    refine List.filter_congr fun item _ => ?_
    by_cases hitem : modelOf item = modelId
    · simp [hitem, hmodel]
    · simp [hitem]
  rw [hamong left, hamong right, h]

namespace SameFor

theorem refl (tableId : String → String → String) (workspaceId : String) (rows : RegistryRows) :
    SameFor tableId workspaceId rows rows :=
  ⟨rfl, rfl, rfl, rfl, rfl, rfl, rfl, rfl, fun _ _ _ _ => rfl⟩

theorem isModelOf (h : SameFor tableId workspaceId one two) :
    one.isModelOf workspaceId = two.isModelOf workspaceId := by
  funext modelId
  unfold RegistryRows.isModelOf
  rw [h.models, h.defaultId]

theorem trans (h : SameFor tableId workspaceId one two)
    (hlast : SameFor tableId workspaceId two three) : SameFor tableId workspaceId one three where
  connections := h.connections.trans hlast.connections
  syncedTables := h.syncedTables.trans hlast.syncedTables
  runtimeTables := h.runtimeTables.trans hlast.runtimeTables
  models := h.models.trans hlast.models
  defaultKey := h.defaultKey.trans hlast.defaultKey
  defaultId := h.defaultId.trans hlast.defaultId
  modelTables := h.modelTables.trans hlast.modelTables
  relationships := h.relationships.trans hlast.relationships
  tableIds modelId hmodel synced hsynced :=
    (h.tableIds modelId hmodel synced hsynced).trans
      (hlast.tableIds modelId (h.isModelOf ▸ hmodel) synced (h.syncedTables ▸ hsynced))

/-! ### What is read -/

theorem defaultModel (h : SameFor tableId workspaceId one two) :
    one.defaultModel? workspaceId = two.defaultModel? workspaceId := by
  have hdefaults : ∀ rows : RegistryRows,
      (rows.models.filter fun record => record.workspaceId == workspaceId && record.isDefault) =
        (rows.models.filter (·.workspaceId == workspaceId)).filter (·.isDefault) := by
    intro rows
    rw [List.filter_filter]
    exact List.filter_congr fun record _ => Bool.and_comm _ _
  unfold defaultModel?
  rw [hdefaults, hdefaults, h.models]

theorem model (h : SameFor tableId workspaceId one two) (id : String) :
    one.model? workspaceId id = two.model? workspaceId id := by
  have hmodels : ∀ rows : RegistryRows,
      (rows.models.find? fun record => record.id == id && record.workspaceId == workspaceId) =
        (rows.models.filter (·.workspaceId == workspaceId)).find? (·.id == id) := by
    intro rows
    rw [List.find?_filter]
    refine congrArg (List.find? · rows.models) (funext fun record => ?_)
    rw [Bool.decide_and, Bool.decide_eq_true, Bool.decide_eq_true, Bool.and_comm]
  unfold model?
  rw [hmodels, hmodels, h.models]

theorem sources (h : SameFor tableId workspaceId one two) : SameSources two one :=
  ⟨h.connections, h.syncedTables, h.runtimeTables⟩

theorem registered (h : SameFor tableId workspaceId one two) :
    one.registered workspaceId = two.registered workspaceId :=
  h.sources.registered

theorem tables (h : SameFor tableId workspaceId one two)
    (hmodel : one.isModelOf workspaceId modelId = true) :
    one.tables workspaceId modelId = two.tables workspaceId modelId := by
  have hrecords : one.modelTables.filter (·.modelId == modelId) =
      two.modelTables.filter (·.modelId == modelId) :=
    filter_eq_of_isModelOf _ (h.isModelOf ▸ h.modelTables) hmodel
  unfold RegistryRows.tables
  rw [hrecords]
  simp only [h.sources.registered?]

theorem readTables (h : SameFor tableId workspaceId one two)
    (hmodel : one.isModelOf workspaceId modelId = true) :
    one.readTables workspaceId modelId = two.readTables workspaceId modelId := by
  unfold RegistryRows.readTables RegistryRows.longNumber? syncedTable?
  rw [h.tables hmodel, h.syncedTables]

theorem relationshipsOf (h : SameFor tableId workspaceId one two)
    (hmodel : one.isModelOf workspaceId modelId = true) :
    one.relationshipsOf modelId = two.relationshipsOf modelId := by
  have hrecords : one.relationships.filter (·.dataModelId == modelId) =
      two.relationships.filter (·.dataModelId == modelId) :=
    filter_eq_of_isModelOf _ (h.isModelOf ▸ h.relationships) hmodel
  unfold RegistryRows.relationshipsOf
  rw [hrecords]

theorem relationshipsIn (h : SameFor tableId workspaceId one two) :
    one.relationshipsIn workspaceId = two.relationshipsIn workspaceId := by
  have hin : ∀ rows : RegistryRows, rows.relationshipsIn workspaceId =
      (rows.relationships.filter (rows.isModelOf workspaceId ·.dataModelId)).filter fun record =>
        (rows.models.filter (·.workspaceId == workspaceId)).any (·.id == record.dataModelId) := by
    intro rows
    rw [List.filter_filter]
    refine List.filter_congr fun record _ => ?_
    simp only [List.any_filter, RegistryRows.isModelOf]
    cases hmodel : rows.models.any fun model =>
        model.workspaceId == workspaceId && model.id == record.dataModelId with
    | true => simpa [Bool.and_comm] using hmodel
    | false => simpa [Bool.and_comm] using hmodel
  rw [hin, hin, h.relationships, h.models]

/-! ### Writes for the workspace -/

/-- A write fares alike on both, and leaves them the same for the workspace. -/
def WritesAlike (tableId : String → String → String) (workspaceId : String)
    (left right : Except RegistryFault RegistryRows) : Prop :=
  (∃ one two, left = .ok one ∧ right = .ok two ∧ SameFor tableId workspaceId one two) ∨
    ∃ fault, left = .error fault ∧ right = .error fault

theorem addModel {record : ModelRecord} (h : SameFor tableId workspaceId one two)
    (hid : record.id = defaultModelId workspaceId) (hworkspace : record.workspaceId = workspaceId)
    (hkey : record.defaultKey = some workspaceId) :
    WritesAlike tableId workspaceId (one.addModel record) (two.addModel record) := by
  unfold RegistryRows.addModel
  rw [hkey, hid, h.defaultKey, h.defaultId]
  split_ifs with htaken hhas
  · exact .inl ⟨one, two, rfl, rfl, h⟩
  · exact .inr ⟨.constraint, rfl, rfl⟩
  · have hone := isModelOf_addDefault hid hworkspace (h.defaultId ▸ Bool.not_eq_true _ ▸ hhas)
    have htwo := isModelOf_addDefault hid hworkspace (Bool.not_eq_true _ ▸ hhas)
    refine .inl ⟨_, _, rfl, rfl, ?_⟩
    exact {
      connections := h.connections
      syncedTables := h.syncedTables
      runtimeTables := h.runtimeTables
      models := by simp only [List.filter_append, h.models]
      defaultKey := by simp only [List.any_append, h.defaultKey]
      defaultId := by simpa only [hasModel, List.any_append] using congrArg (· || _) h.defaultId
      modelTables := by
        rw [hone, htwo]
        exact h.modelTables
      relationships := by
        rw [hone, htwo]
        exact h.relationships
      tableIds := by
        rw [hone]
        exact h.tableIds }

/-- A table is the same one only within its data model. -/
theorem any_isSameTable {record : ModelTableRecord}
    (hmodel : rows.isModelOf workspaceId record.modelId = true) :
    rows.modelTables.any (isSameTable record) =
      (rows.modelTables.filter (rows.isModelOf workspaceId ·.modelId)).any (isSameTable record) := by
  rw [List.any_filter]
  refine congrArg (List.any rows.modelTables) (funext fun other => ?_)
  cases hsame : isSameTable record other with
  | false => rw [Bool.and_false]
  | true =>
    simp only [isSameTable, Bool.and_eq_true, beq_iff_eq] at hsame
    rw [← hsame.1, hmodel, Bool.true_and]

theorem filter_updateTable (record : ModelTableRecord) (isModel : String → Bool)
    (records : List ModelTableRecord) :
    (records.map (updateTable record)).filter (isModel ·.modelId) =
      (records.filter (isModel ·.modelId)).map (updateTable record) := by
  rw [List.filter_map]
  congr 2
  funext other
  rw [Function.comp_apply, modelId_updateTable]

theorem any_id_updateTable (record : ModelTableRecord) (id : String)
    (records : List ModelTableRecord) :
    (records.map (updateTable record)).any (·.id == id) = records.any (·.id == id) := by
  rw [List.any_map]
  congr 1
  funext other
  rw [Function.comp_apply, id_updateTable]

theorem putModelTable {record : ModelTableRecord} {synced : SyncedTableRecord}
    (h : SameFor tableId workspaceId one two)
    (hmodel : one.isModelOf workspaceId record.modelId = true)
    (hsynced : synced ∈ one.syncedTables) (hid : record.id = tableId record.modelId synced.id) :
    WritesAlike tableId workspaceId (one.putModelTable record) (two.putModelTable record) := by
  have hsame : one.modelTables.any (isSameTable record) =
      two.modelTables.any (isSameTable record) := by
    rw [any_isSameTable hmodel, any_isSameTable (h.isModelOf ▸ hmodel), h.modelTables]
  have htaken : one.modelTables.any (·.id == record.id) =
      two.modelTables.any (·.id == record.id) := by
    rw [hid]
    exact h.tableIds _ hmodel synced hsynced
  rw [putModelTable_eq, putModelTable_eq, hsame, htaken]
  split_ifs with hthere hused
  · refine .inl ⟨_, _, rfl, rfl, ?_⟩
    exact { h with
      modelTables := by
        have hone := filter_updateTable record (one.isModelOf workspaceId) one.modelTables
        have htwo := filter_updateTable record (two.isModelOf workspaceId) two.modelTables
        exact hone.trans (h.modelTables ▸ htwo.symm)
      tableIds := by
        intro modelId hother found hfound
        rw [any_id_updateTable, any_id_updateTable]
        exact h.tableIds modelId hother found hfound }
  · exact .inr ⟨.constraint, rfl, rfl⟩
  · refine .inl ⟨_, _, rfl, rfl, ?_⟩
    exact { h with
      modelTables := by
        change (one.modelTables ++ [record]).filter (one.isModelOf workspaceId ·.modelId) =
          (two.modelTables ++ [record]).filter (two.isModelOf workspaceId ·.modelId)
        rw [List.filter_append, List.filter_append, h.modelTables, h.isModelOf]
      tableIds := by
        intro modelId hother found hfound
        rw [List.any_append, List.any_append, h.tableIds modelId hother found hfound] }

/-! ### Writes for another workspace -/

theorem of_addModel {record : ModelRecord} (hid : record.id ≠ defaultModelId workspaceId)
    (hworkspace : record.workspaceId ≠ workspaceId) (hkey : record.defaultKey ≠ some workspaceId)
    (hchange : rows.addModel record = .ok changed) : SameFor tableId workspaceId rows changed := by
  rcases addModel_eq_ok hchange with rfl | ⟨-, rfl⟩
  · exact refl tableId workspaceId changed
  · have hmodels : (rows.models ++ [record]).filter (·.workspaceId == workspaceId) =
        rows.models.filter (·.workspaceId == workspaceId) := by
      simp [List.filter_append, hworkspace]
    have hdefault : hasModel { rows with models := rows.models ++ [record] }
        (defaultModelId workspaceId) = rows.hasModel (defaultModelId workspaceId) := by
      simp [hasModel, hid]
    have hmodel : RegistryRows.isModelOf { rows with models := rows.models ++ [record] }
        workspaceId = rows.isModelOf workspaceId := by
      funext modelId
      unfold RegistryRows.isModelOf
      rw [hmodels, hdefault]
    exact { refl tableId workspaceId rows with
      models := hmodels.symm
      defaultKey := by simp [List.any_append, hkey]
      defaultId := hdefault.symm
      modelTables := by rw [hmodel]
      relationships := by rw [hmodel] }

/-- Changes of what the test does not pick cannot be seen through it. -/
theorem filter_map_of_unpicked {α : Type} {pick : α → Bool} {change : α → α} {items : List α}
    (h : ∀ item ∈ items, change item = item ∨ pick item = false ∧ pick (change item) = false) :
    (items.map change).filter pick = items.filter pick := by
  induction items with
  | nil => rfl
  | cons item rest ih =>
    rw [List.map_cons, List.filter_cons, List.filter_cons,
      ih fun other hother => h other (by simp [hother])]
    rcases h item (by simp) with hsame | ⟨hitem, hchanged⟩
    · rw [hsame]
    · simp [hitem, hchanged]

theorem of_putModelTable {record : ModelTableRecord}
    (hmodel : rows.isModelOf workspaceId record.modelId = false)
    (hids : ∀ modelId, rows.isModelOf workspaceId modelId = true → ∀ synced ∈ rows.syncedTables,
      record.id ≠ tableId modelId synced.id)
    (hchange : rows.putModelTable record = .ok changed) :
    SameFor tableId workspaceId rows changed := by
  rcases putModelTable_eq_ok hchange with rfl | rfl
  · exact { refl tableId workspaceId rows with
      modelTables := by
        refine (filter_map_of_unpicked fun other _ => ?_).symm
        unfold updateTable
        split
        · rename_i hsame
          simp only [isSameTable, Bool.and_eq_true, beq_iff_eq] at hsame
          exact .inr ⟨hsame.1 ▸ hmodel, hmodel⟩
        · exact .inl rfl
      tableIds := by
        intro modelId _ synced _
        exact (any_id_updateTable record _ rows.modelTables).symm }
  · exact { refl tableId workspaceId rows with
      modelTables := by
        change _ = (rows.modelTables ++ [record]).filter (rows.isModelOf workspaceId ·.modelId)
        simp [List.filter_append, hmodel]
      tableIds := by
        intro modelId hother synced hsynced
        simp [List.any_append, hids modelId hother synced hsynced] }

theorem of_putRelationship {record : RelationshipRecord}
    (hmodel : rows.isModelOf workspaceId record.dataModelId = false)
    (hchange : rows.putRelationship record = .ok changed) :
    SameFor tableId workspaceId rows changed := by
  rcases putRelationship_eq_ok hchange with rfl | ⟨-, rfl⟩
  · exact { refl tableId workspaceId rows with
      relationships := by
        refine (filter_map_of_unpicked fun other _ => ?_).symm
        unfold updateRelationship
        split
        · rename_i hsame
          simp only [isSameRelationship, Bool.and_eq_true, beq_iff_eq] at hsame
          exact .inr ⟨hsame.1 ▸ hmodel, hmodel⟩
        · exact .inl rfl }
  · exact { refl tableId workspaceId rows with
      relationships := by
        change _ = (rows.relationships ++ [record]).filter
          (rows.isModelOf workspaceId ·.dataModelId)
        simp [List.filter_append, hmodel] }

theorem of_removeRelationship (id : String)
    (hmodel : ∀ modelId, rows.OwnsModel other modelId →
      rows.isModelOf workspaceId modelId = false) :
    SameFor tableId workspaceId rows (rows.removeRelationship other id) :=
  { refl tableId workspaceId rows with
    relationships := by
      change _ = (rows.relationships.filter fun record => !rows.owns other id record).filter
        (rows.isModelOf workspaceId ·.dataModelId)
      rw [List.filter_filter]
      refine List.filter_congr fun record _ => ?_
      cases howns : rows.owns other id record with
      | false => rw [Bool.not_false, Bool.and_true]
      | true =>
        simp only [owns, Bool.and_eq_true, List.any_eq_true, beq_iff_eq] at howns
        rw [hmodel _ howns.2, Bool.false_and] }

end SameFor

end RegistryRows

/-! ### Catalogs -/

section

open RegistryRows

variable {registryOne registryTwo : Registry} {tableId : String → String → String}
  {workspaceId now : String}

theorem ensureDefault_alike {name : String} (hstore : SameStore registryOne registryTwo) :
    Alike registryOne registryTwo (SameFor tableId workspaceId)
      (fun model one two => SameFor tableId workspaceId one two ∧
        one.isModelOf workspaceId model.id = true)
      (ensureDefault workspaceId name now) := by
  have hselect : Alike registryOne registryTwo (SameFor tableId workspaceId)
      (fun found one two => SameFor tableId workspaceId one two ∧ ∀ model, found = some model →
        one.isModelOf workspaceId model.id = true)
      (select [.models] fun rows => rows.defaultModel? workspaceId) := by
    refine .select hstore fun one two h => ⟨h.defaultModel, h, fun model hmodel => ?_⟩
    exact isModelOf_of_ownsModel (ownsModel_of_defaultModel hmodel)
  refine hselect.bind fun found => ?_
  cases found with
  | some model => exact .pure fun one two h => ⟨h.1, h.2 model rfl⟩
  | none =>
    refine .bind (.change (q := SameFor tableId workspaceId) hstore fun one two h =>
      h.1.addModel rfl rfl rfl) fun _ => ?_
    refine hselect.bind fun found => ?_
    cases found with
    | some model => exact .pure fun one two h => ⟨h.1, h.2 model rfl⟩
    | none => exact .throw

theorem resolveModel_alike {id : Option String} (hstore : SameStore registryOne registryTwo) :
    Alike registryOne registryTwo (SameFor tableId workspaceId)
      (fun model one two => SameFor tableId workspaceId one two ∧
        one.isModelOf workspaceId model.id = true)
      (resolveModel workspaceId id now) := by
  unfold resolveModel
  split
  · exact ensureDefault_alike hstore
  · rename_i id _
    refine .bind (.select (q := fun found one two => SameFor tableId workspaceId one two ∧
      ∀ model, found = some model → one.isModelOf workspaceId model.id = true) hstore
      fun one two h => ⟨h.model id, h, fun model hmodel => ?_⟩) fun found => ?_
    · exact isModelOf_of_ownsModel (ownsModel_of_model hmodel)
    · cases found with
      | some model => exact .pure fun one two h => ⟨h.1, h.2 model rfl⟩
      | none => exact .throw

theorem syncModelTables_alike {modelId : String} (hstore : SameStore registryOne registryTwo) :
    Alike registryOne registryTwo
      (fun one two => SameFor registryOne.tableId workspaceId one two ∧
        one.isModelOf workspaceId modelId = true)
      (fun _ one two => SameFor registryOne.tableId workspaceId one two ∧
        one.isModelOf workspaceId modelId = true)
      (syncModelTables workspaceId modelId now) := by
  refine .read ?_ ?_
  · simp only [hstore.tableId]
  · refine .bind (.select (q := fun found one two =>
      SameFor registryOne.tableId workspaceId one two ∧ one.isModelOf workspaceId modelId = true ∧
        ∀ table ∈ found, table.synced ∈ one.syncedTables) hstore fun one two h => ?_) fun found => ?_
    · exact ⟨h.1.registered, h.1, h.2, fun table htable => mem_registered htable⟩
    · refine Alike.mono (.forM fun table htable => ?_) fun _ one two h => ⟨h.1, h.2.1⟩
      refine .change hstore fun one two h => ?_
      have hmodel : one.isModelOf workspaceId
          (table.record (registryOne.tableId modelId table.synced.id) modelId now).modelId = true :=
        h.2.1
      rcases h.1.putModelTable hmodel (h.2.2 table htable) rfl with
        ⟨left, right, hone, htwo, hafter⟩ | hfault
      · refine .inl ⟨left, right, hone, htwo, hafter, ?_⟩
        rcases putModelTable_eq_ok hone with rfl | rfl <;> exact h.2
      · exact .inr hfault

theorem readCatalog_alike {modelId : Option String} (hstore : SameStore registryOne registryTwo) :
    Alike registryOne registryTwo (SameFor registryOne.tableId workspaceId)
      (fun _ => SameFor registryOne.tableId workspaceId) (readCatalog workspaceId modelId now) := by
  refine (resolveModel_alike hstore).bind fun model => ?_
  refine (syncModelTables_alike hstore).bind fun _ => ?_
  refine .bind (.statement (q := fun _ one two => SameFor registryOne.tableId workspaceId one two ∧
    one.isModelOf workspaceId model.id = true) hstore fun one two h => ?_) fun tables => ?_
  · rw [h.1.readTables h.2]
    cases two.readTables workspaceId model.id with
    | error fault => exact .inr ⟨fault, rfl, rfl⟩
    | ok tables => exact .inl ⟨tables, one, two, rfl, rfl, h⟩
  refine .bind (.select (q := fun _ => SameFor registryOne.tableId workspaceId) hstore
    fun one two h => ⟨h.1.relationshipsOf h.2, h.1⟩) fun relationships => ?_
  exact .pure fun one two h => h

/-- A workspace loads the same catalogs from rows that look the same from it. -/
theorem loadCatalog_eq_of_sameFor (hstore : SameStore registryOne registryTwo)
    (h : SameFor registryOne.tableId workspaceId registryOne.rows registryTwo.rows)
    (modelId : Option String) :
    (registryOne.loadCatalog workspaceId modelId now).1 =
      (registryTwo.loadCatalog workspaceId modelId now).1 := by
  unfold Registry.loadCatalog
  exact congrArg (Except.mapError _) ((readCatalog_alike hstore).commit h)

end

end SemanticLayer
