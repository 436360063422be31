import SemanticLayer.Json.Value
import SemanticLayer.Text.Blank
import SemanticLayer.Text.Case

/-!
Tables as the semantic layer sees them: where a table's data live, whether it can be queried, and
its columns. Columns are found without regard to case and to blanks around the name.
-/

namespace SemanticLayer

open Text

structure Column where
  name : String
  type : String
  deriving Repr, DecidableEq

/-- An engine that runs queries, by its name. Two engines are supported. -/
def postgresEngine : String := "postgres"
def bigQueryEngine : String := "bigquery"

def supportedEngines : List String := [postgresEngine, bigQueryEngine]

structure Table where
  id : String
  /-- The identifier of the synced table behind this one. -/
  syncedTableId : String
  name : String
  dataset : Option String
  sourceId : Option String
  sourceType : Option String
  engine : String
  /-- The name of the table in its engine. -/
  runtimeRef : Option String
  executable : Bool
  /-- Why the table cannot be queried. -/
  reason : Option String
  runtimeSchema : Option String
  runtimeTable : Option String
  projectId : Option String
  columns : List Column
  deriving Repr, DecidableEq

/-- A text that counts: one that is there and not empty. -/
def presentText (s : Option String) : Option String :=
  s.filter fun text => !text.isEmpty

namespace Table

/-- The name of a table for messages. -/
def label (table : Table) : String :=
  (presentText table.dataset).getD "dataset" ++ "." ++ table.name

/-- The form in which names of columns are compared. -/
def columnKey (name : String) : String :=
  lower (trim name)

/-- The first column whose name in lower case is the wanted name, trimmed and in lower case. -/
def findColumn? (table : Table) (name : String) : Option Column :=
  table.columns.find? fun column => lower column.name == columnKey name

def hasColumn (table : Table) (name : String) : Bool :=
  (table.findColumn? name).isSome

def toJson (table : Table) : Json :=
  .object
    [("id", .text table.id), ("syncedTableId", .text table.syncedTableId),
      ("tableName", .text table.name), ("datasetName", .ofText? table.dataset),
      ("sourceId", .ofText? table.sourceId), ("sourceType", .ofText? table.sourceType),
      ("runtimeEngine", .text table.engine), ("runtimeRef", .ofText? table.runtimeRef),
      ("isExecutable", .bool table.executable), ("executableReason", .ofText? table.reason),
      ("schema", .list (table.columns.map fun column =>
        .object [("name", .text column.name), ("type", .text column.type)]))]

end Table

end SemanticLayer
