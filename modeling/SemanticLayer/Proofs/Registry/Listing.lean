import SemanticLayer.Proofs.Registry.Operation

/-!
What the catalogs of a workspace list. The live tables of a workspace are told from what is
registered alone, and so are all facts about them but their identifiers. Once the rows of a data
model are in line with what is registered, its tables are the live tables, each of them once.
-/

namespace SemanticLayer

open Text

/-! ### Facts about a table -/

/-- The name of a table among those of all projects, if all of its parts are known. -/
def qualifiedName (project dataset name : Option String) : Option String := do
  let project ← presentText project
  let dataset ← presentText dataset
  let name ← presentText name
  return "\x60" ++ project ++ "." ++ dataset ++ "." ++ name ++ "\x60"

namespace RegisteredTable

/-- The engine in which the table is queried: the registered one, or that of the connection. -/
def engine (found : RegisteredTable) : String :=
  match presentText (found.runtime.bind (·.engine)) with
  | some engine => lower engine
  | none => if found.connection.type = "BigQuery" then bigQueryEngine else postgresEngine

/-- The name under which the table is queried: the registered one, or its own one in BigQuery. -/
def reference (found : RegisteredTable) : Option String :=
  (presentText (found.runtime.bind (·.reference))).or
    (if found.engine = bigQueryEngine then
      qualifiedName found.connection.projectId found.synced.dataset (some found.synced.name)
    else none)

/-- Whether the table can be queried: nothing is registered against it, and it has a name for
that. -/
def isExecutable (found : RegisteredTable) : Bool :=
  (found.runtime.map (·.executable)).getD true && found.reference.isSome

/-- What is said about a table that has no name to be queried under. -/
def missingReference (found : RegisteredTable) : String :=
  "No runtime reference available for " ++
    ((presentText found.synced.dataset).getD "dataset" ++ "." ++ found.synced.name)

/-- Why the table cannot be queried. -/
def reason (found : RegisteredTable) : Option String :=
  if found.isExecutable then none
  else
    (presentText (found.runtime.bind (·.reason))).or
      (if found.reference.isSome then none else some found.missingReference)

/-- The table as a catalog lists it under an identifier. -/
def listed (found : RegisteredTable) (id : String) : Table :=
  { id, syncedTableId := found.synced.id, name := found.synced.name, dataset := found.synced.dataset,
    sourceId := some found.connection.id, sourceType := some found.connection.type,
    engine := found.engine, runtimeRef := found.reference, executable := found.isExecutable,
    reason := found.reason, runtimeSchema := found.runtime.bind (·.schema),
    runtimeTable := found.runtime.bind (·.table), projectId := found.connection.projectId,
    columns := columnsOfSchema found.synced.schema }

/-- The row says what is registered about the table; its identifier and its times are its own. -/
def IsRecordedBy (found : RegisteredTable) (modelId : String) (row : ModelTableRecord) : Prop :=
  ∃ created updated, row = { found.record row.id modelId updated with createdAt := created }

end RegisteredTable

/-! ### Cells -/

theorem presentText_eq_some {text : Option String} {s : String} :
    presentText text = some s ↔ text = some s ∧ s ≠ "" := by
  unfold presentText
  rw [Option.filter_eq_some_iff]
  simp

@[simp]
theorem presentText_presentText (text : Option String) :
    presentText (presentText text) = presentText text := by
  cases h : presentText text with
  | none => rfl
  | some s => exact presentText_eq_some.2 ⟨rfl, (presentText_eq_some.1 h).2⟩

namespace Json

@[simp]
theorem cell_ofText (text : Option String) : (ofText? text).cell? = text := by
  cases text <;> rfl

@[simp]
theorem isTruthy_ofText (text : Option String) :
    (ofText? text).isTruthy = (presentText text).isSome := by
  cases text with
  | none => rfl
  | some s => cases hs : s.isEmpty <;> simp [ofText?, isTruthy, presentText, hs]

theorem plain_ofText {text : Option String} {s : String} (h : presentText text = some s) :
    (ofText? text).plain = s := by
  rw [(presentText_eq_some.1 h).1]
  rfl

theorem orElse_ofText (one two : Option String) :
    (ofText? one).orElse (ofText? two) = ofText? ((presentText one).or two) := by
  unfold orElse
  rw [isTruthy_ofText]
  cases h : presentText one with
  | none => rfl
  | some s => rw [(presentText_eq_some.1 h).1]; rfl

end Json

theorem runtimeEngine_ofText (registered stored : Option String) (type : String) :
    runtimeEngine (.ofText? registered) (.ofText? stored) (.text type) =
      match presentText ((presentText registered).or stored) with
      | some engine => lower engine
      | none => if type = "BigQuery" then bigQueryEngine else postgresEngine := by
  unfold runtimeEngine
  dsimp only
  rw [Json.orElse_ofText, Json.isTruthy_ofText]
  cases h : presentText ((presentText registered).or stored) with
  | none =>
    have htype : ((Json.text type).plain == "BigQuery" && (Json.text type).isTruthy) =
        decide (type = "BigQuery") := by
      by_cases hbig : type = "BigQuery"
      · subst hbig
        rfl
      · simp [Json.plain, hbig]
    rw [htype]
    simp
  | some engine =>
    rw [Json.plain_ofText h]
    rfl

theorem runtimeReference_ofText (engine : String)
    (registered stored project dataset name : Option String) :
    runtimeReference engine (.ofText? registered) (.ofText? stored) (.ofText? project)
        (.ofText? dataset) (.ofText? name) =
      .ofText? ((presentText ((presentText registered).or stored)).or
        (if engine = bigQueryEngine then qualifiedName project dataset name else none)) := by
  unfold runtimeReference
  dsimp only
  rw [Json.orElse_ofText, Json.isTruthy_ofText]
  cases h : presentText ((presentText registered).or stored) with
  | some reference =>
    rw [(presentText_eq_some.1 h).1]
    rfl
  | none =>
    simp only [Option.isSome_none, Bool.false_eq_true, if_false, Option.none_or, Json.isTruthy_ofText]
    by_cases hengine : engine = bigQueryEngine
    · unfold qualifiedName
      cases hproject : presentText project with
      | none => simp [Json.ofText?]
      | some project' => cases hdataset : presentText dataset with
        | none => simp [Json.ofText?]
        | some dataset' => cases hname : presentText name with
          | none => simp [Json.ofText?]
          | some name' =>
            rw [Json.plain_ofText hproject, Json.plain_ofText hdataset, Json.plain_ofText hname]
            simp [hengine, Json.ofText?]
    · simp [hengine, Json.ofText?]

namespace RegisteredTable

theorem storedEngine_eq (found : RegisteredTable) : found.storedEngine = found.engine := by
  refine (runtimeEngine_ofText _ none _).trans ?_
  rw [Option.or_none, presentText_presentText]
  rfl

/-- The engine that is stored stands for itself where none is registered. -/
theorem runtimeEngine_stored (found : RegisteredTable) :
    runtimeEngine (.ofText? (found.runtime.bind (·.engine))) (.text found.engine)
      (.text found.connection.type) = found.engine := by
  refine (runtimeEngine_ofText _ (some found.engine) _).trans ?_
  cases h : presentText (found.runtime.bind (·.engine)) with
  | some name =>
    rw [Option.some_or, ← h, presentText_presentText, h]
    simp only [engine, h]
  | none =>
    rw [Option.none_or]
    simp only [engine, h]
    split_ifs <;> rfl

theorem presentText_qualifiedName (project dataset name : Option String) :
    presentText (qualifiedName project dataset name) = qualifiedName project dataset name := by
  cases h : qualifiedName project dataset name with
  | none => rfl
  | some s =>
    refine presentText_eq_some.2 ⟨rfl, ?_⟩
    simp only [qualifiedName, Option.bind_eq_bind, Option.bind_eq_some_iff, Option.pure_def,
      Option.some.injEq] at h
    obtain ⟨_, -, _, -, _, -, rfl⟩ := h
    simp

theorem presentText_reference (found : RegisteredTable) :
    presentText found.reference = found.reference := by
  unfold reference
  cases h : presentText (found.runtime.bind (·.reference)) with
  | some s => rw [Option.some_or, ← h, presentText_presentText]
  | none =>
    rw [Option.none_or]
    split_ifs
    · exact presentText_qualifiedName _ _ _
    · rfl

/-- The name that is stored is one that is registered. -/
theorem runtimeReference_stored (found : RegisteredTable) :
    runtimeReference found.engine (.ofText? (found.runtime.bind (·.reference)))
        (.ofText? found.storedReference) (.ofText? found.connection.projectId)
        (.ofText? found.synced.dataset) (.text found.synced.name) =
      .ofText? found.reference := by
  refine (runtimeReference_ofText _ _ _ _ _ (some found.synced.name)).trans ?_
  have hregistered : presentText ((presentText (found.runtime.bind (·.reference))).or
      found.storedReference) = presentText (found.runtime.bind (·.reference)) := by
    cases h : presentText (found.runtime.bind (·.reference)) with
    | some name => rw [Option.some_or, ← h, presentText_presentText]
    | none => exact h
  rw [hregistered]
  rfl

theorem labelOf_ofText (dataset : Option String) (name : String) :
    TableRow.labelOf (.ofText? dataset) (.text name) =
      (presentText dataset).getD "dataset" ++ "." ++ name := by
  unfold TableRow.labelOf Json.orElse
  rw [Json.isTruthy_ofText]
  cases h : presentText dataset with
  | none => rfl
  | some s => rw [Option.isSome_some, if_pos rfl, Json.plain_ofText h]; rfl

theorem executable_cells (found : RegisteredTable) :
    let flag := ((found.runtime.map (·.executable)).map Json.bool).getD .null
    ((flag.isNull || flag.isTruthy) && (Json.ofText? found.reference).isTruthy) =
      found.isExecutable := by
  rw [Json.isTruthy_ofText, presentText_reference]
  unfold isExecutable
  cases found.runtime <;> rfl

/-- A reason that is registered comes first, and then that no name is known. -/
theorem reason_cells (found : RegisteredTable) :
    (if found.isExecutable then Json.null
      else if (Json.ofText? found.reference).isTruthy then
        (Json.ofText? (found.runtime.bind (·.reason))).orElse .null
      else
        ((Json.ofText? (found.runtime.bind (·.reason))).orElse .null).orElse
          (.text ("No runtime reference available for " ++
            TableRow.labelOf (.ofText? found.synced.dataset) (.text found.synced.name)))).cell? =
      found.reason := by
  have hgiven : (Json.ofText? (found.runtime.bind (·.reason))).orElse .null =
      Json.ofText? (presentText (found.runtime.bind (·.reason))) := by
    refine (Json.orElse_ofText _ none).trans ?_
    rw [Option.or_none]
  have hmissing : ((Json.ofText? (found.runtime.bind (·.reason))).orElse .null).orElse
      (.text found.missingReference) =
        Json.ofText? ((presentText (found.runtime.bind (·.reason))).or
          (some found.missingReference)) := by
    rw [hgiven]
    refine (Json.orElse_ofText _ (some found.missingReference)).trans ?_
    rw [presentText_presentText]
  rw [labelOf_ofText, Json.isTruthy_ofText, presentText_reference]
  unfold reason
  split_ifs
  · rfl
  · rw [hgiven, Json.cell_ofText, Option.or_none]
  · exact (congrArg Json.cell? hmissing).trans (Json.cell_ofText _)

/-- A table of a data model shows what is registered about it, once its row says so. -/
theorem table_of_isRecordedBy {found : RegisteredTable} {modelId : String} {row : ModelTableRecord}
    (h : found.IsRecordedBy modelId row) : found.table row = found.listed row.id := by
  obtain ⟨created, updated, hrow⟩ := h
  rw [hrow]
  unfold table TableRow.ofCells TableRow.table
  simp only [record, storedEngine_eq, runtimeEngine_stored, runtimeReference_stored,
    executable_cells, reason_cells, Json.cell_ofText]
  rfl

end RegisteredTable

/-! ### Live tables -/

/-- The only item with its key. -/
theorem filter_key_eq_singleton {α κ : Type} [BEq κ] [LawfulBEq κ] {key : α → κ} {items : List α}
    {item : α} (h : (items.map key).Nodup) (hitem : item ∈ items) :
    items.filter (key · == key item) = [item] := by
  rw [← List.perm_singleton,
    List.perm_ext_iff_of_nodup (h.of_map.filter _) (List.nodup_singleton item)]
  intro other
  rw [List.mem_filter, List.mem_singleton, beq_iff_eq]
  refine ⟨fun hother => List.inj_on_of_nodup_map h hother.1 hitem hother.2, ?_⟩
  rintro rfl
  exact ⟨hitem, rfl⟩

theorem find_key_eq_some {α κ : Type} [BEq κ] [LawfulBEq κ] {key : α → κ} {items : List α} {item : α}
    (h : (items.map key).Nodup) (hitem : item ∈ items) :
    items.find? (key · == key item) = some item := by
  rw [← List.head?_filter, filter_key_eq_singleton h hitem]
  rfl

namespace RegistryRows

/-- A table that is synced from a connection of the workspace, none of them deleted, with the place
where it can be queried. -/
structure IsLive (rows : RegistryRows) (workspaceId : String) (found : RegisteredTable) : Prop where
  synced : found.synced ∈ rows.syncedTables
  present : found.synced.isDeleted = false
  connection : found.connection ∈ rows.connections
  source : found.connection.id = found.synced.connectionId
  connected : found.connection.isDeleted = false
  workspace : found.connection.workspaceId = workspaceId
  runtime : found.runtime = rows.runtimeTable? found.synced.id

variable {rows : RegistryRows} {workspaceId modelId : String} {found : RegisteredTable}

theorem IsLive.of_registered {id : String} (h : rows.registered? workspaceId id = some found) :
    rows.IsLive workspaceId found ∧ found.synced.id = id := by
  unfold registered? at h
  simp only [Option.bind_eq_bind, Option.bind_eq_some_iff, Option.pure_def, Option.some.injEq,
    Option.filter_eq_some_iff, Bool.and_eq_true, Bool.not_eq_true', beq_iff_eq] at h
  obtain ⟨synced, ⟨hsynced, hpresent⟩, connection, ⟨hconnection, hconnected, hworkspace⟩, rfl⟩ := h
  have hid := List.find?_some hsynced
  have hsource := List.find?_some hconnection
  rw [beq_iff_eq] at hid hsource
  exact ⟨⟨List.mem_of_find?_eq_some hsynced, hpresent, List.mem_of_find?_eq_some hconnection,
    hsource, hconnected, hworkspace, rfl⟩, hid⟩

theorem IsLive.registered_eq (h : rows.IsLive workspaceId found) (hkeyed : rows.Keyed) :
    rows.registered? workspaceId found.synced.id = some found := by
  have hsynced : rows.syncedTable? found.synced.id = some found.synced :=
    find_key_eq_some hkeyed.syncedTables h.synced
  have hconnection : rows.connection? found.synced.connectionId = some found.connection :=
    h.source ▸ find_key_eq_some hkeyed.connections h.connection
  unfold registered?
  simp only [hsynced, Option.filter, h.present, hconnection, h.connected, h.workspace,
    ← h.runtime, Bool.not_false, beq_self_eq_true, Bool.and_self, if_true, Option.bind_eq_bind,
    Option.bind_some, Option.pure_def]

theorem mem_registered_iff (hkeyed : rows.Keyed) :
    found ∈ rows.registered workspaceId ↔ rows.IsLive workspaceId found := by
  refine ⟨fun h => ?_, fun h => ?_⟩
  · obtain ⟨synced, -, hfound⟩ := List.mem_filterMap.1 h
    exact (IsLive.of_registered hfound).1
  · exact List.mem_filterMap.2 ⟨found.synced, h.synced, h.registered_eq hkeyed⟩

/-- The data model has a row for each live table of the workspace that says what is registered. -/
def InLine (rows : RegistryRows) (workspaceId modelId : String) : Prop :=
  ∀ found ∈ rows.registered workspaceId, ∃ row ∈ rows.modelTables, found.IsRecordedBy modelId row

end RegistryRows

namespace RegisteredTable

variable {found other : RegisteredTable} {modelId : String} {row : ModelTableRecord}

theorem IsRecordedBy.key (h : found.IsRecordedBy modelId row) :
    row.modelId = modelId ∧ row.syncedTableId = found.synced.id := by
  obtain ⟨created, updated, hrow⟩ := h
  rw [hrow]
  exact ⟨rfl, rfl⟩

theorem isRecordedBy_record (found : RegisteredTable) (id modelId now : String) :
    found.IsRecordedBy modelId (found.record id modelId now) :=
  ⟨now, now, rfl⟩

/-- A row for the same table is brought in line when it is updated. -/
theorem isRecordedBy_updateTable {id now : String} (h : row.modelId = modelId)
    (hsynced : row.syncedTableId = found.synced.id) :
    found.IsRecordedBy modelId (RegistryRows.updateTable (found.record id modelId now) row) := by
  have hsame : RegistryRows.isSameTable (found.record id modelId now) row = true := by
    simp [RegistryRows.isSameTable, record, h, hsynced]
  refine ⟨row.createdAt, now, ?_⟩
  unfold RegistryRows.updateTable
  rw [if_pos hsame]
  rfl

end RegisteredTable

namespace RegistryRows

variable {rows changed : RegistryRows} {workspaceId modelId : String} {found other : RegisteredTable}

/-- A row that is in line stays so when a live table is written. -/
theorem isRecordedBy_of_registered {id now : String} {row : ModelTableRecord}
    (hfound : rows.registered? workspaceId found.synced.id = some found)
    (hother : rows.registered? workspaceId other.synced.id = some other)
    (h : other.IsRecordedBy modelId row) :
    other.IsRecordedBy modelId (updateTable (found.record id modelId now) row) := by
  by_cases hsame : other.synced.id = found.synced.id
  · have heq : other = found := Option.some.inj (hother.symm.trans (hsame ▸ hfound))
    subst heq
    exact RegisteredTable.isRecordedBy_updateTable h.key.1 h.key.2
  · have hkept : updateTable (found.record id modelId now) row = row := by
      unfold updateTable
      rw [if_neg]
      simp [isSameTable, RegisteredTable.record, h.key.2, Ne.symm hsame]
    rwa [hkept]

/-- The written table has a row that is in line. -/
theorem exists_isRecordedBy_of_put {id now : String}
    (h : rows.putModelTable (found.record id modelId now) = .ok changed) :
    ∃ row ∈ changed.modelTables, found.IsRecordedBy modelId row := by
  rw [putModelTable_eq] at h
  split_ifs at h with hsame hid
  · obtain ⟨row, hrow, hkey⟩ := List.any_eq_true.1 hsame
    simp only [isSameTable, Bool.and_eq_true, beq_iff_eq] at hkey
    cases h
    exact ⟨_, List.mem_map_of_mem hrow,
      RegisteredTable.isRecordedBy_updateTable hkey.1.symm hkey.2.symm⟩
  · cases h
    exact ⟨_, List.mem_append_right _ (List.mem_singleton_self _),
      found.isRecordedBy_record id modelId now⟩

theorem exists_isRecordedBy_of_other {id now : String}
    (hfound : rows.registered? workspaceId found.synced.id = some found)
    (hother : rows.registered? workspaceId other.synced.id = some other)
    (hrow : ∃ row ∈ rows.modelTables, other.IsRecordedBy modelId row)
    (h : rows.putModelTable (found.record id modelId now) = .ok changed) :
    ∃ row ∈ changed.modelTables, other.IsRecordedBy modelId row := by
  obtain ⟨row, hrow, hrecorded⟩ := hrow
  rcases putModelTable_eq_ok h with rfl | rfl
  · exact ⟨_, List.mem_map_of_mem hrow, isRecordedBy_of_registered hfound hother hrecorded⟩
  · exact ⟨row, List.mem_append_left _ hrow, hrecorded⟩

/-- The row of a live table is the one that is in line. -/
theorem InLine.isRecordedBy (h : rows.InLine workspaceId modelId) (hkeyed : rows.Keyed)
    {row : ModelTableRecord} (hrow : row ∈ rows.modelTables) (hmodel : row.modelId = modelId)
    (hfound : rows.registered? workspaceId row.syncedTableId = some found) :
    found.IsRecordedBy modelId row := by
  obtain ⟨hlive, hid⟩ := IsLive.of_registered hfound
  obtain ⟨other, hother, hrecorded⟩ := h found ((mem_registered_iff hkeyed).2 hlive)
  have hsame : other = row := by
    refine List.inj_on_of_nodup_map hkeyed.modelTables hother hrow (Prod.ext ?_ ?_)
    · exact hrecorded.key.1.trans hmodel.symm
    · exact hrecorded.key.2.trans hid
  exact hsame ▸ hrecorded

/-- What the tables of data models are known by. -/
def identities (rows : RegistryRows) : List (String × String × String) :=
  rows.modelTables.map fun row => (row.modelId, row.syncedTableId, row.id)

/-- Rows that are in line are listed by what is registered and by their identifiers. -/
theorem InLine.tables_eq (h : rows.InLine workspaceId modelId) (hkeyed : rows.Keyed) :
    rows.tables workspaceId modelId =
      (rows.identities.filterMap fun key =>
        if key.1 == modelId then
          (rows.registered? workspaceId key.2.1).map fun found => found.listed key.2.2
        else none).mergeSort listedBefore := by
  unfold tables identities
  rw [List.filterMap_filter, List.filterMap_map]
  refine congrArg (List.mergeSort · listedBefore) (List.filterMap_congr fun row hrow => ?_)
  rw [Function.comp_apply]
  split_ifs with hmodel
  · cases hfound : rows.registered? workspaceId row.syncedTableId with
    | none => rfl
    | some found =>
      have hrecorded := h.isRecordedBy hkeyed hrow (beq_iff_eq.1 hmodel) hfound
      exact congrArg some (RegisteredTable.table_of_isRecordedBy hrecorded)
  · rfl

/-- The list shows each live table of the workspace once, with what is registered about it, and
nothing else. -/
structure IsListing (rows : RegistryRows) (workspaceId : String) (tables : List Table) : Prop where
  each : ∀ found, rows.IsLive workspaceId found →
    ∃ id, tables.filter (·.syncedTableId == found.synced.id) = [found.listed id]
  only : ∀ table ∈ tables, ∃ found, rows.IsLive workspaceId found ∧ table = found.listed table.id

/-- The tables that are listed for a synced table come from the rows that the data model has for
it. -/
theorem filter_tables_perm (rows : RegistryRows) (workspaceId modelId syncedTableId : String) :
    ((rows.tables workspaceId modelId).filter (·.syncedTableId == syncedTableId)).Perm
      ((rows.modelTables.filter fun row =>
          (row.modelId, row.syncedTableId) == (modelId, syncedTableId)).filterMap fun row =>
        (rows.registered? workspaceId row.syncedTableId).map fun found => found.table row) := by
  unfold tables
  refine ((List.mergeSort_perm _ _).filter _).trans (List.Perm.of_eq ?_)
  rw [List.filter_filterMap, List.filterMap_filter, List.filterMap_filter]
  refine List.filterMap_congr fun row _ => ?_
  have hid : ∀ found : RegisteredTable, (found.table row).syncedTableId = row.syncedTableId :=
    fun _ => rfl
  by_cases hmodel : row.modelId = modelId <;> by_cases hsynced : row.syncedTableId = syncedTableId <;>
    cases rows.registered? workspaceId row.syncedTableId <;>
    simp_all [Option.filter]

theorem InLine.isListing (hline : rows.InLine workspaceId modelId) (hkeyed : rows.Keyed) :
    rows.IsListing workspaceId (rows.tables workspaceId modelId) where
  each found hlive := by
    have hfound := hlive.registered_eq hkeyed
    obtain ⟨row, hrow, hrecorded⟩ := hline found ((mem_registered_iff hkeyed).2 hlive)
    obtain ⟨hmodel, hsynced⟩ := hrecorded.key
    have honly := filter_key_eq_singleton hkeyed.modelTables hrow
    rw [hmodel, hsynced] at honly
    have hperm := rows.filter_tables_perm workspaceId modelId found.synced.id
    rw [honly, List.filterMap_cons_some (b := found.table row) (by rw [hsynced, hfound]; rfl),
      List.filterMap_nil, RegisteredTable.table_of_isRecordedBy hrecorded] at hperm
    exact ⟨row.id, List.perm_singleton.1 hperm⟩
  only table htable := by
    obtain ⟨row, hrow, hmodel, found, hfound, rfl⟩ := exists_row_of_mem_tables htable
    have hrecorded := hline.isRecordedBy hkeyed hrow hmodel hfound
    exact ⟨found, (IsLive.of_registered hfound).1,
      RegisteredTable.table_of_isRecordedBy hrecorded⟩

/-- A table that is listed has the identifier that its data model has given to it. -/
theorem assigns_of_mem_tables {table : Table} (h : table ∈ rows.tables workspaceId modelId) :
    rows.Assigns modelId table.syncedTableId table.id := by
  obtain ⟨row, hrow, hmodel, found, -, rfl⟩ := exists_row_of_mem_tables h
  exact ⟨row, hrow, hmodel, rfl, rfl⟩

/-- The schemas of the live tables are those that are read. -/
theorem InLine.longNumber_eq_none_iff (hline : rows.InLine workspaceId modelId)
    (hkeyed : rows.Keyed) :
    rows.longNumber? workspaceId modelId = none ↔
      ∀ found, rows.IsLive workspaceId found → schemaDigits? found.synced.schema = none := by
  have hlisting := hline.isListing hkeyed
  have hsynced : ∀ found, rows.IsLive workspaceId found →
      rows.syncedTable? found.synced.id = some found.synced :=
    fun found hlive => find_key_eq_some hkeyed.syncedTables hlive.synced
  rw [longNumber?, List.findSome?_eq_none_iff]
  refine ⟨fun h found hlive => ?_, fun h table htable => ?_⟩
  · obtain ⟨id, hid⟩ := hlisting.each found hlive
    have hmem : found.listed id ∈ rows.tables workspaceId modelId :=
      List.mem_of_mem_filter (hid ▸ List.mem_singleton_self _)
    have hread := h _ hmem
    rwa [show (found.listed id).syncedTableId = found.synced.id from rfl, hsynced found hlive,
      Option.bind_some] at hread
  · obtain ⟨found, hlive, heq⟩ := hlisting.only table htable
    rw [heq, show (found.listed table.id).syncedTableId = found.synced.id from rfl,
      hsynced found hlive, Option.bind_some]
    exact h found hlive

/-! ### The same sources -/

namespace SameSources

variable {later : RegistryRows}

theorem isLive_iff (h : rows.SameSources later) :
    later.IsLive workspaceId found ↔ rows.IsLive workspaceId found := by
  refine ⟨fun hlive => ?_, fun hlive => ?_⟩
  · exact { hlive with
      synced := h.syncedTables ▸ hlive.synced
      connection := h.connections ▸ hlive.connection
      runtime := by rw [hlive.runtime, runtimeTable?, h.runtimeTables]; rfl }
  · exact { hlive with
      synced := h.syncedTables.symm ▸ hlive.synced
      connection := h.connections.symm ▸ hlive.connection
      runtime := by rw [hlive.runtime, runtimeTable?, runtimeTable?, h.runtimeTables] }

theorem isListing (h : rows.SameSources later) {tables : List Table}
    (hlisting : later.IsListing workspaceId tables) : rows.IsListing workspaceId tables where
  each found hlive := hlisting.each found (h.isLive_iff.2 hlive)
  only table htable := by
    obtain ⟨found, hlive, heq⟩ := hlisting.only table htable
    exact ⟨found, h.isLive_iff.1 hlive, heq⟩

theorem of_addModel {record : ModelRecord} (h : rows.SameSources later)
    (hadd : later.addModel record = .ok changed) : rows.SameSources changed := by
  rcases addModel_eq_ok hadd with rfl | ⟨-, rfl⟩ <;> exact { h with }

theorem of_putModelTable {record : ModelTableRecord} (h : rows.SameSources later)
    (hput : later.putModelTable record = .ok changed) : rows.SameSources changed := by
  rcases putModelTable_eq_ok hput with rfl | rfl <;> exact { h with }

/-- Rows that are in line and known by the same identifiers are listed alike. -/
theorem tables_eq (h : rows.SameSources later) (hkeyed : rows.Keyed) (hlater : later.Keyed)
    (hline : rows.InLine workspaceId modelId) (hlaterLine : later.InLine workspaceId modelId)
    (hids : later.identities = rows.identities) :
    later.tables workspaceId modelId = rows.tables workspaceId modelId := by
  rw [hline.tables_eq hkeyed, hlaterLine.tables_eq hlater, hids]
  simp only [h.registered?]

end SameSources

end RegistryRows

end SemanticLayer
