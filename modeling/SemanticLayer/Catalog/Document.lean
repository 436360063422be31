import SemanticLayer.Catalog.Basic
import SemanticLayer.Json.Document

/-!
Catalogs as documents. A catalog can be given as one object with its model, tables and
relationships; most fields have defaults.
-/

namespace SemanticLayer

/-- Reads a column, given as a name or as a list of name and type. -/
def Column.ofDocument (value : Json) : Column :=
  match value with
  | .list (name :: rest) => ⟨name.plain, (rest.head?.map Json.plain).getD ""⟩
  | _ => ⟨value.plain, ""⟩

def Table.ofDocument (value : Json) : Table :=
  let id := value.textAt "id"
  { id, syncedTableId := (value.textAt? "syncedTableId").getD ("synced-" ++ id)
    name := value.textAt "tableName", dataset := value.textAt? "datasetName"
    sourceId := value.textAt? "sourceId", sourceType := value.textAt? "sourceType"
    engine := (value.textAt? "engine").getD postgresEngine, runtimeRef := value.textAt? "ref"
    executable := value.truthAt "executable" true, reason := value.textAt? "reason"
    runtimeSchema := value.textAt? "runtimeSchema", runtimeTable := value.textAt? "runtimeTable"
    projectId := value.textAt? "projectId"
    columns := (value.itemsAt "columns").map Column.ofDocument }

def Relationship.ofDocument (modelId : String) (value : Json) : Relationship :=
  { id := value.textAt "id", dataModelId := (value.textAt? "dataModelId").getD modelId
    fromTableId := value.textAt "fromTableId", fromColumn := value.textAt "fromColumn"
    toTableId := value.textAt "toTableId", toColumn := value.textAt "toColumn"
    cardinality := .ofCode ((value.textAt? "type").getD Cardinality.manyToOne.code)
    direction := (value.textAt? "direction").getD "single"
    status := (value.textAt? "status").getD validStatus
    invalidReason := value.textAt? "invalidReason", fromTable := value.textAt? "fromTable"
    toTable := value.textAt? "toTable", createdAt := none, updatedAt := none }

def DataModel.ofDocument (value : Json) : DataModel :=
  { id := (value.textAt? "id").getD "model-1"
    workspaceId := (value.textAt? "workspaceId").getD "ws-1"
    name := (value.textAt? "name").getD "Workspace Default Model"
    isDefault := value.truthAt "isDefault" true, createdAt := none, updatedAt := none }

def Catalog.ofDocument (value : Json) : Catalog :=
  let model := DataModel.ofDocument (value.field "model")
  { model, tables := (value.itemsAt "tables").map Table.ofDocument
    relationships := (value.itemsAt "relationships").map (Relationship.ofDocument model.id) }

end SemanticLayer
