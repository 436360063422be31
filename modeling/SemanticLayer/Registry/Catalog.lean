import SemanticLayer.Catalog.Row
import SemanticLayer.Fault
import SemanticLayer.Registry.Relationship

/-!
Catalogs from the registry. Before a catalog is read, the tables of its model are brought in line
with what is registered for the workspace; they keep their identifiers. Tables that are deleted or
of other workspaces may still be stored, but they are not listed.
-/

namespace SemanticLayer

/-- A synced table of a workspace with its connection, and where it can be queried. -/
structure RegisteredTable where
  synced : SyncedTableRecord
  connection : ConnectionRecord
  runtime : Option RuntimeTableRecord

namespace RegisteredTable

/-- The engine as it is stored with a data model. -/
def storedEngine (table : RegisteredTable) : String :=
  runtimeEngine (.ofText? (table.runtime.bind (·.engine))) .null (.text table.connection.type)

/-- The reference as it is stored with a data model. -/
def storedReference (table : RegisteredTable) : Option String :=
  table.runtime.bind (·.reference)

/-- The row that a data model has for the table, under an identifier. -/
def record (table : RegisteredTable) (id modelId now : String) : ModelTableRecord :=
  { id, modelId, syncedTableId := table.synced.id, name := table.synced.name,
    dataset := table.synced.dataset, sourceId := table.connection.id,
    sourceType := table.connection.type, engine := table.storedEngine,
    reference := table.storedReference, createdAt := now, updatedAt := now }

/-- The facts about a table that a data model has, and that is registered. -/
def table (registered : RegisteredTable) (record : ModelTableRecord) : Table :=
  let runtime := registered.runtime
  (TableRow.ofCells
    { id := .text record.id, syncedTableId := .text record.syncedTableId, name := .text record.name
      dataset := .ofText? record.dataset, sourceId := .text record.sourceId
      sourceType := .text record.sourceType, connectionType := .text registered.connection.type
      registeredEngine := .ofText? (runtime.bind (·.engine)), storedEngine := .text record.engine
      registeredRef := .ofText? (runtime.bind (·.reference))
      storedRef := .ofText? record.reference, projectId := .ofText? registered.connection.projectId
      executable := ((runtime.map (·.executable)).map Json.bool).getD .null
      reason := .ofText? (runtime.bind (·.reason))
      runtimeSchema := .ofText? (runtime.bind (·.schema))
      runtimeTable := .ofText? (runtime.bind (·.table)), schema := registered.synced.schema }).table

end RegisteredTable

namespace RegistryRows

/-- What is registered under the identifier of a synced table, if that and its connection are not
deleted and belong to the workspace. -/
def registered? (rows : RegistryRows) (workspaceId syncedTableId : String) :
    Option RegisteredTable := do
  let synced ← (rows.syncedTable? syncedTableId).filter fun synced => !synced.isDeleted
  let connection ← (rows.connection? synced.connectionId).filter fun connection =>
    !connection.isDeleted && connection.workspaceId == workspaceId
  return ⟨synced, connection, rows.runtimeTable? synced.id⟩

def registered (rows : RegistryRows) (workspaceId : String) : List RegisteredTable :=
  rows.syncedTables.filterMap fun synced => rows.registered? workspaceId synced.id

def isSameTable (one two : ModelTableRecord) : Bool :=
  one.modelId == two.modelId && one.syncedTableId == two.syncedTableId

/-- Sets a table of a data model; one that is there keeps its identifier and the time when it was
made. -/
def putModelTable (rows : RegistryRows) (record : ModelTableRecord) :
    Except RegistryFault RegistryRows :=
  if rows.modelTables.any (isSameTable record) then
    .ok { rows with modelTables := rows.modelTables.map fun other =>
            if isSameTable record other then
              { record with id := other.id, createdAt := other.createdAt }
            else other }
  else if rows.modelTables.any (·.id == record.id) then .error .constraint
  else .ok { rows with modelTables := rows.modelTables ++ [record] }

/-- Whether a table is listed no later than another one: by dataset, a missing one first, then by
name, and last by the identifier of the synced table. -/
def listedBefore (one two : Table) : Bool :=
  let order := (((Ord.compare one.dataset.isSome two.dataset.isSome).then
    (Ord.compare (one.dataset.getD "") (two.dataset.getD ""))).then
    (Ord.compare one.name two.name)).then (Ord.compare one.syncedTableId two.syncedTableId)
  order != .gt

def tables (rows : RegistryRows) (workspaceId modelId : String) : List Table :=
  let listed := (rows.modelTables.filter (·.modelId == modelId)).filterMap fun record =>
    (rows.registered? workspaceId record.syncedTableId).map fun found => found.table record
  listed.mergeSort listedBefore

/-- The digits of the first number in the schemas of the listed tables that is too long to be read. -/
def longNumber? (rows : RegistryRows) (workspaceId modelId : String) : Option Nat :=
  (rows.tables workspaceId modelId).findSome? fun table =>
    (rows.syncedTable? table.syncedTableId).bind fun synced => schemaDigits? synced.schema

/-- The tables of a data model, if all of their schemas can be read. -/
def readTables (rows : RegistryRows) (workspaceId modelId : String) :
    Except RegistryFault (List Table) :=
  match rows.longNumber? workspaceId modelId with
  | some digits => .error (.longNumber digits)
  | none => .ok (rows.tables workspaceId modelId)

end RegistryRows

open Transaction

/-- Brings the tables of a data model in line with what is registered for the workspace. -/
def syncModelTables (workspaceId modelId now : String) : Transaction Unit := do
  let registry ← read
  let found ← select [.syncedTables, .connections, .runtimeTables] fun rows =>
    rows.registered workspaceId
  found.forM fun table =>
    change [.modelTables] fun rows =>
      rows.putModelTable (table.record (registry.tableId modelId table.synced.id) modelId now)

def readCatalog (workspaceId : String) (modelId : Option String) (now : String) :
    Transaction Catalog := do
  let model ← resolveModel workspaceId modelId now
  syncModelTables workspaceId model.id now
  let tables ← statement [.modelTables, .syncedTables, .connections, .runtimeTables] fun rows =>
    (rows.readTables workspaceId model.id).map (·, rows)
  let relationships ← select [.relationships] fun rows => rows.relationshipsOf model.id
  return { model, tables, relationships }

def Registry.loadCatalog (registry : Registry) (workspaceId : String) (modelId : Option String)
    (now : String) : Except Fault Catalog × Registry :=
  let (result, registry) := registry.commit (readCatalog workspaceId modelId now)
  (result.mapError (·.modelFault "Failed to load model catalog"), registry)

end SemanticLayer
