import SemanticLayer.Json.Writer
import SemanticLayer.Registry.Transaction

/-!
What is known about sources of tables: connections, the tables that were synced from them, and where
these can be queried. The columns of a synced table are kept as written text.
-/

namespace SemanticLayer

/-- A connection to be registered; a missing value may be one that a row needs. -/
structure NewConnection where
  id : Option String
  workspaceId : Option String
  type : Option String
  projectId : Option String
  name : Option String
  deriving Repr, DecidableEq

structure NewSyncedTable where
  id : Option String
  connectionId : Option String
  name : Option String
  dataset : Option String
  /-- The columns, as a list of entries. -/
  schema : Json

/-- The place of a synced table to be registered. -/
structure NewRuntimeTable where
  syncedTableId : Option String
  engine : Option String
  reference : Option String
  schema : Option String
  table : Option String
  executable : Option Bool
  reason : Option String
  deriving Repr, DecidableEq

namespace RegistryRows

def addConnection (rows : RegistryRows) (record : ConnectionRecord) :
    Except RegistryFault RegistryRows :=
  if (rows.connection? record.id).isSome then .error .constraint
  else .ok { rows with connections := rows.connections ++ [record] }

def addSyncedTable (rows : RegistryRows) (record : SyncedTableRecord) :
    Except RegistryFault RegistryRows :=
  if (rows.syncedTable? record.id).isSome then .error .constraint
  else .ok { rows with syncedTables := rows.syncedTables ++ [record] }

/-- Sets the place of a synced table, which takes the place of the one before. -/
def putRuntimeTable (rows : RegistryRows) (record : RuntimeTableRecord) : RegistryRows :=
  if (rows.runtimeTable? record.syncedTableId).isSome then
    { rows with runtimeTables := rows.runtimeTables.map fun other =>
        if other.syncedTableId == record.syncedTableId then record else other }
  else
    { rows with runtimeTables := rows.runtimeTables ++ [record] }

/-- Marks a connection or a synced table as deleted. Rows of other tables cannot be marked. -/
def markDeleted (rows : RegistryRows) (table : RegistryTable) (id : String) :
    Except RegistryFault RegistryRows :=
  match table with
  | .connections =>
    .ok { rows with connections := rows.connections.map fun record =>
            if record.id == id then { record with isDeleted := true } else record }
  | .syncedTables =>
    .ok { rows with syncedTables := rows.syncedTables.map fun record =>
            if record.id == id then { record with isDeleted := true } else record }
  | _ => .error .unavailable

def setSchema (rows : RegistryRows) (id : String) (schema : Json) : RegistryRows :=
  { rows with syncedTables := rows.syncedTables.map fun record =>
      if record.id == id then { record with schema } else record }

end RegistryRows

open Transaction

/-- Enters a connection under an identifier, which is given back. -/
def enterConnection (entry : NewConnection) (id : String) : Transaction String := do
  change [.connections] fun rows => do
    let workspaceId ← needed entry.workspaceId
    let type ← needed entry.type
    rows.addConnection
      { id, workspaceId, name := (presentText entry.name).or entry.type, type,
        projectId := entry.projectId, isDeleted := false }
  return id

def enterSyncedTable (entry : NewSyncedTable) (id : String) : Transaction String := do
  change [.syncedTables] fun rows => do
    let connectionId ← needed entry.connectionId
    let name ← needed entry.name
    rows.addSyncedTable
      { id, connectionId, name, dataset := entry.dataset, schema := .text entry.schema.write,
        isDeleted := false }
  return id

def enterRuntimeTable (entry : NewRuntimeTable) : Transaction Unit :=
  change [.runtimeTables] fun rows => do
    let syncedTableId ← needed entry.syncedTableId
    let executable ← needed entry.executable
    return rows.putRuntimeTable
      { syncedTableId, engine := entry.engine, reference := entry.reference,
        schema := entry.schema, table := entry.table, executable, reason := entry.reason }

namespace Registry

/-- Registers a connection and gives its identifier. -/
def registerConnection (registry : Registry) (entry : NewConnection) :
    Except RegistryFault String × Registry :=
  let (id, registry) := registry.connectionId entry.id
  registry.commit (enterConnection entry id)

def registerSyncedTable (registry : Registry) (entry : NewSyncedTable) :
    Except RegistryFault String × Registry :=
  let (id, registry) := registry.syncedTableId entry.id
  registry.commit (enterSyncedTable entry id)

/-- Registers where a synced table can be queried. -/
def registerRuntimeTable (registry : Registry) (entry : NewRuntimeTable) :
    Except RegistryFault Unit × Registry :=
  registry.commit (enterRuntimeTable entry)

def markDeleted (registry : Registry) (table : RegistryTable) (id : String) :
    Except RegistryFault Unit × Registry :=
  registry.commit (change [table] fun rows => rows.markDeleted table id)

def setSchema (registry : Registry) (id : String) (schema : Json) :
    Except RegistryFault Unit × Registry :=
  registry.commit (change [.syncedTables] fun rows => .ok (rows.setSchema id schema))

end Registry

end SemanticLayer
