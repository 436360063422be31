import SemanticLayer.Catalog.Basic
import SemanticLayer.Json.Reader

/-!
Catalog entries read from rows of the registry. A row is an object of cells; a cell that counts as
absent gives way to the next source of the same fact. The engine falls back from the registered one
over the stored one to that of the connection, and so does the name in the engine.
-/

namespace SemanticLayer

open Text

/-- The name and type of a column, where an entry of a schema gives a name. -/
def columnOfEntry? (entry : Json) : Option Column :=
  let name := entry.field "name"
  let type := entry.field "type"
  if name.isTruthy then some ⟨name.plain, if type.isTruthy then type.plain else ""⟩ else none

/-- The columns of a schema: a list of entries, or text that holds one. Text that cannot be read
stands for no columns. -/
def columnsOfSchema (value : Json) : List Column :=
  if !value.isTruthy then []
  else
    let value :=
      match value with
      | .text s => (Json.read s).toOption.getD .null
      | value => value
    match value with
    | .list entries => entries.filterMap columnOfEntry?
    | _ => []

/-- The digits of a whole number that is too long to be read, if one stands in the text of a
schema. Such text is not passed over like other text that cannot be read. -/
def schemaDigits? (value : Json) : Option Nat :=
  match value with
  | .text s =>
    match Json.read s with
    | .error (.tooManyDigits digits) => some digits
    | _ => none
  | _ => none

/-- A cell of a row that the row does not have. -/
structure MissingCell where
  name : String
  deriving Repr, DecidableEq

/-- A cell that has to be there. -/
def requireCell (row : Json) (name : String) : Except MissingCell Json :=
  match row.field? name with
  | some value => .ok value
  | none => .error ⟨name⟩

/-- The engine of a table, in lower case. -/
def runtimeEngine (registered stored connectionType : Json) : String :=
  let engine := registered.orElse stored
  if engine.isTruthy then lower engine.plain
  else if connectionType.plain == "BigQuery" && connectionType.isTruthy then bigQueryEngine
  else postgresEngine

/-- The name of a table in its engine, null where there is none. -/
def runtimeReference (engine : String) (registered stored project dataset name : Json) : Json :=
  let reference := registered.orElse stored
  if reference.isTruthy then reference
  else if engine == bigQueryEngine && project.isTruthy && dataset.isTruthy && name.isTruthy then
    .text ("\x60" ++ project.plain ++ "." ++ dataset.plain ++ "." ++ name.plain ++ "\x60")
  else
    .null

/-- The cells of a row about a table. -/
structure TableCells where
  id : Json
  syncedTableId : Json
  name : Json
  dataset : Json
  sourceId : Json
  sourceType : Json
  connectionType : Json
  registeredEngine : Json
  storedEngine : Json
  registeredRef : Json
  storedRef : Json
  projectId : Json
  executable : Json
  reason : Json
  runtimeSchema : Json
  runtimeTable : Json
  schema : Json

/-- A table with its facts as the row gives them. -/
structure TableRow where
  id : Json
  syncedTableId : Json
  name : Json
  dataset : Json
  sourceId : Json
  sourceType : Json
  engine : String
  runtimeRef : Json
  executable : Bool
  reason : Json
  runtimeSchema : Json
  runtimeTable : Json
  projectId : Json
  columns : List Column

/-- A text for a cell that has one. -/
def Json.cell? : Json → Option String
  | .null => none
  | value => some value.plain

namespace TableRow

/-- The name of a table for messages. -/
def labelOf (dataset name : Json) : String :=
  (dataset.orElse (.text "dataset")).plain ++ "." ++ name.plain

/-- The facts that the cells of a row give. -/
def ofCells (cells : TableCells) : TableRow :=
  let engine := runtimeEngine cells.registeredEngine cells.storedEngine cells.connectionType
  let reference := runtimeReference engine cells.registeredRef cells.storedRef cells.projectId
    cells.dataset cells.name
  let executable := (cells.executable.isNull || cells.executable.isTruthy) && reference.isTruthy
  let missing := "No runtime reference available for " ++ labelOf cells.dataset cells.name
  let given := cells.reason.orElse .null
  let reason := if reference.isTruthy then given else given.orElse (.text missing)
  { id := cells.id, syncedTableId := cells.syncedTableId, name := cells.name,
    dataset := cells.dataset, sourceId := cells.sourceId, sourceType := cells.sourceType, engine,
    runtimeRef := reference, executable, reason := if executable then .null else reason,
    runtimeSchema := cells.runtimeSchema, runtimeTable := cells.runtimeTable,
    projectId := cells.projectId, columns := columnsOfSchema cells.schema }

def read (row : Json) : Except MissingCell TableRow := do
  return ofCells {
    id := ← requireCell row "id"
    syncedTableId := ← requireCell row "synced_table_id"
    name := ← requireCell row "table_name"
    dataset := row.field "dataset_name", sourceId := row.field "source_id"
    sourceType := row.field "source_type", connectionType := row.field "connection_type"
    registeredEngine := row.field "catalog_engine", storedEngine := row.field "runtime_engine"
    registeredRef := row.field "catalog_ref", storedRef := row.field "runtime_ref"
    projectId := row.field "project_id", executable := row.field "is_executable"
    reason := row.field "executable_reason", runtimeSchema := row.field "runtime_schema"
    runtimeTable := row.field "runtime_table", schema := row.field "schema_def" }

def table (row : TableRow) : Table :=
  { id := row.id.plain, syncedTableId := row.syncedTableId.plain, name := row.name.plain,
    dataset := row.dataset.cell?, sourceId := row.sourceId.cell?,
    sourceType := row.sourceType.cell?, engine := row.engine, runtimeRef := row.runtimeRef.cell?,
    executable := row.executable, reason := row.reason.cell?,
    runtimeSchema := row.runtimeSchema.cell?, runtimeTable := row.runtimeTable.cell?,
    projectId := row.projectId.cell?, columns := row.columns }

/-- The facts as they are in the row. -/
def toJson (row : TableRow) : Json :=
  .object
    [("id", row.id), ("syncedTableId", row.syncedTableId), ("tableName", row.name),
      ("datasetName", row.dataset), ("sourceId", row.sourceId), ("sourceType", row.sourceType),
      ("runtimeEngine", .text row.engine), ("runtimeRef", row.runtimeRef),
      ("isExecutable", .bool row.executable), ("executableReason", row.reason),
      ("schema", .list (row.columns.map fun column =>
        .object [("name", .text column.name), ("type", .text column.type)])),
      ("label", .text (labelOf row.dataset row.name)), ("runtimeSchema", row.runtimeSchema),
      ("runtimeTable", row.runtimeTable), ("projectId", row.projectId)]

end TableRow

/-- A relationship with its facts as the row gives them. -/
structure RelationshipRow where
  id : Json
  dataModelId : Json
  fromTableId : Json
  fromColumn : Json
  toTableId : Json
  toColumn : Json
  cardinality : Json
  direction : Json
  status : Json
  invalidReason : Json
  fromTable : Json
  toTable : Json
  createdAt : Json
  updatedAt : Json

namespace RelationshipRow

def read (row : Json) : Except MissingCell RelationshipRow := do
  return {
    id := ← requireCell row "id"
    dataModelId := ← requireCell row "data_model_id"
    fromTableId := ← requireCell row "from_table_id"
    fromColumn := ← requireCell row "from_column"
    toTableId := ← requireCell row "to_table_id"
    toColumn := ← requireCell row "to_column"
    cardinality := ← requireCell row "relationship_type"
    direction := (row.field "cross_filter_direction").orElse (.text "single")
    status := (row.field "validation_status").orElse (.text validStatus)
    invalidReason := row.field "invalid_reason", fromTable := row.field "from_table"
    toTable := row.field "to_table", createdAt := row.field "created_at"
    updatedAt := row.field "updated_at" }

def relationship (row : RelationshipRow) : Relationship :=
  { id := row.id.plain, dataModelId := row.dataModelId.plain,
    fromTableId := row.fromTableId.plain, fromColumn := row.fromColumn.plain,
    toTableId := row.toTableId.plain, toColumn := row.toColumn.plain,
    cardinality := .ofCode row.cardinality.plain, direction := row.direction.plain,
    status := row.status.plain, invalidReason := row.invalidReason.cell?,
    fromTable := row.fromTable.cell?, toTable := row.toTable.cell?,
    createdAt := row.createdAt.cell?, updatedAt := row.updatedAt.cell? }

/-- The facts as they are in the row, with the identity of the relationship. -/
def toJson (row : RelationshipRow) : Json :=
  .object
    [("id", row.id), ("dataModelId", row.dataModelId), ("fromTable", row.fromTable),
      ("fromColumn", row.fromColumn), ("toTable", row.toTable), ("toColumn", row.toColumn),
      ("fromTableId", row.fromTableId), ("toTableId", row.toTableId),
      ("relationshipType", row.cardinality), ("crossFilterDirection", row.direction),
      ("validationStatus", row.status), ("invalidReason", row.invalidReason),
      ("createdAt", .ofText? row.createdAt.cell?), ("updatedAt", .ofText? row.updatedAt.cell?),
      ("canonicalKey", .text row.relationship.key),
      ("isJoinable", .bool row.relationship.isJoinable)]

end RelationshipRow

/-- A data model with its facts as the row gives them. -/
structure ModelRow where
  id : Json
  workspaceId : Json
  name : Json
  isDefault : Bool
  createdAt : Json
  updatedAt : Json

namespace ModelRow

def read (row : Json) : Except MissingCell ModelRow := do
  return {
    id := ← requireCell row "id"
    workspaceId := ← requireCell row "workspace_id"
    name := ← requireCell row "name"
    isDefault := (← requireCell row "is_default").isTruthy
    createdAt := row.field "created_at", updatedAt := row.field "updated_at" }

def model (row : ModelRow) : DataModel :=
  { id := row.id.plain, workspaceId := row.workspaceId.plain, name := row.name.plain,
    isDefault := row.isDefault, createdAt := row.createdAt.cell?, updatedAt := row.updatedAt.cell? }

/-- The facts as they are in the row. -/
def toJson (row : ModelRow) : Json :=
  .object
    [("id", row.id), ("workspaceId", row.workspaceId), ("name", row.name),
      ("isDefault", .bool row.isDefault), ("createdAt", .ofText? row.createdAt.cell?),
      ("updatedAt", .ofText? row.updatedAt.cell?)]

end ModelRow

end SemanticLayer
