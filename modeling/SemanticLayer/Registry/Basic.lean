import SemanticLayer.Catalog.Basic

/-!
The registry: the tables that the semantic layer keeps. Three of them say what was synced from which
connection and where it can be queried; the other three hold the data models of workspaces, their
tables and their relationships. Times are texts that sort as times.
-/

namespace SemanticLayer

inductive RegistryTable where
  | connections
  | syncedTables
  | runtimeTables
  | models
  | modelTables
  | relationships
  deriving Repr, DecidableEq

namespace RegistryTable

def name : RegistryTable → String
  | .connections => "connections"
  | .syncedTables => "synced_tables"
  | .runtimeTables => "model_runtime_tables"
  | .models => "data_models"
  | .modelTables => "model_tables"
  | .relationships => "model_relationships"

def all : List RegistryTable :=
  [.connections, .syncedTables, .runtimeTables, .models, .modelTables, .relationships]

def ofName? (name : String) : Option RegistryTable :=
  all.find? fun table => table.name == name

end RegistryTable

/-- A connection of a workspace to a source of tables. -/
structure ConnectionRecord where
  id : String
  workspaceId : String
  name : Option String
  type : String
  projectId : Option String
  isDeleted : Bool
  deriving Repr, DecidableEq

structure SyncedTableRecord where
  id : String
  connectionId : String
  name : String
  dataset : Option String
  /-- The schema: a list of columns, or text that holds one. -/
  schema : Json
  isDeleted : Bool

/-- Where a synced table can be queried. -/
structure RuntimeTableRecord where
  syncedTableId : String
  engine : Option String
  reference : Option String
  schema : Option String
  table : Option String
  executable : Bool
  reason : Option String
  deriving Repr, DecidableEq

/-- A data model of a workspace. The key of a workspace's default model is kept by one model. -/
structure ModelRecord extends DataModel where
  defaultKey : Option String
  deriving Repr, DecidableEq

/-- A synced table as a data model has it. -/
structure ModelTableRecord where
  id : String
  modelId : String
  syncedTableId : String
  name : String
  dataset : Option String
  sourceId : String
  sourceType : String
  engine : String
  reference : Option String
  createdAt : String
  updatedAt : String
  deriving Repr, DecidableEq

/-- A relationship with the key under which it is stored. -/
structure RelationshipRecord extends Relationship where
  storedKey : String
  deriving Repr, DecidableEq

structure RegistryRows where
  connections : List ConnectionRecord
  syncedTables : List SyncedTableRecord
  runtimeTables : List RuntimeTableRecord
  models : List ModelRecord
  modelTables : List ModelTableRecord
  relationships : List RelationshipRecord

/-- How many identifiers of each kind have been given out. -/
structure IssuedIds where
  connections : Nat
  syncedTables : Nat
  relationships : Nat
  deriving Repr, DecidableEq

structure Registry where
  rows : RegistryRows
  issued : IssuedIds
  /-- The tables that are gone: no statement about them succeeds. -/
  dropped : List RegistryTable
  /-- Whether the store fails at a statement of a transaction, counted from zero. -/
  fails : Nat → Bool
  /-- The identifier that a data model gives to a synced table when it first has it. -/
  tableId : (modelId syncedTableId : String) → String

namespace RegistryRows

def empty : RegistryRows := ⟨[], [], [], [], [], []⟩

def connection? (rows : RegistryRows) (id : String) : Option ConnectionRecord :=
  rows.connections.find? (·.id == id)

def syncedTable? (rows : RegistryRows) (id : String) : Option SyncedTableRecord :=
  rows.syncedTables.find? (·.id == id)

def runtimeTable? (rows : RegistryRows) (syncedTableId : String) : Option RuntimeTableRecord :=
  rows.runtimeTables.find? (·.syncedTableId == syncedTableId)

end RegistryRows

namespace Registry

/-- An identifier that says what it stands for. -/
def spelledTableId (modelId syncedTableId : String) : String :=
  "mt:" ++ modelId ++ ":" ++ syncedTableId

/-- A registry without rows whose store does not fail. -/
def empty : Registry := ⟨.empty, ⟨0, 0, 0⟩, [], fun _ => false, spelledTableId⟩

/-- The identifier that is given, or a new one for none. -/
def connectionId (registry : Registry) (given : Option String) : String × Registry :=
  match presentText given with
  | some id => (id, registry)
  | none =>
    let count := registry.issued.connections + 1
    (s!"conn-{count}", { registry with issued.connections := count })

def syncedTableId (registry : Registry) (given : Option String) : String × Registry :=
  match presentText given with
  | some id => (id, registry)
  | none =>
    let count := registry.issued.syncedTables + 1
    (s!"st-{count}", { registry with issued.syncedTables := count })

def relationshipId (registry : Registry) (given : Option String) : String × Registry :=
  match presentText given with
  | some id => (id, registry)
  | none =>
    let count := registry.issued.relationships + 1
    (s!"rel-{count}", { registry with issued.relationships := count })

end Registry

end SemanticLayer
