import SemanticLayer.Json.Document
import SemanticLayer.Registry.Relationship
import SemanticLayer.Registry.Source

/-!
What is to be registered, as documents. A field that is left out stands for its usual value, if it
has one; a null is kept as a missing value.
-/

namespace SemanticLayer

/-- The text of a field, or the usual one if the field is left out. -/
def Json.textOrUsual (value : Json) (key usual : String) : Option String :=
  ((value.field? key).getD (.text usual)).text?

def NewConnection.ofDocument (value : Json) : NewConnection :=
  { id := value.textAt? "id", workspaceId := value.textAt? "workspaceId"
    type := value.textAt? "type", projectId := value.textAt? "projectId"
    name := value.textAt? "name" }

/-- Reads an entry of a schema, given as a list of name and type. -/
def schemaEntryOfDocument (value : Json) : Json :=
  let parts := value.items
  .object [("name", parts.headD .null), ("type", (parts.drop 1).headD .null)]

def NewSyncedTable.ofDocument (value : Json) : NewSyncedTable :=
  { id := value.textAt? "id", connectionId := value.textAt? "connectionId"
    name := value.textAt? "tableName", dataset := value.textAt? "datasetName"
    schema := .list ((value.itemsAt "columns").map schemaEntryOfDocument) }

def NewRuntimeTable.ofDocument (value : Json) : NewRuntimeTable :=
  { syncedTableId := value.textAt? "syncedTableId", engine := value.textAt? "engine"
    reference := value.textAt? "ref", schema := value.textAt? "runtimeSchema"
    table := value.textAt? "runtimeTable"
    executable :=
      match (value.field? "executable").getD (.bool true) with
      | .null => none
      | flag => some flag.isTruthy
    reason := value.textAt? "reason" }

def RelationshipDraft.ofDocument (value : Json) : RelationshipDraft :=
  { id := value.textAt? "id", dataModelId := value.textOrUsual "dataModelId" "model-1"
    fromTableId := value.textAt? "fromTableId", fromColumn := value.textAt? "fromColumn"
    toTableId := value.textAt? "toTableId", toColumn := value.textAt? "toColumn"
    cardinality := (value.textOrUsual "type" Cardinality.manyToOne.code).map Cardinality.ofCode
    direction := value.textOrUsual "direction" "single"
    status := value.textOrUsual "status" validStatus
    invalidReason := value.textAt? "invalidReason", fromTable := value.textAt? "fromTable"
    toTable := value.textAt? "toTable" }

end SemanticLayer
