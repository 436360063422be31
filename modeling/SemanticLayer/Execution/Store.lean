import SemanticLayer.Sql.Parameter
import SemanticLayer.Warehouse.Row

/-!
Statements that the store runs. Hand-written statements have no parameters, so their colons are
escaped; a result that is too large is not read to its end.
-/

namespace SemanticLayer

structure StoreStatement where
  text : String
  parameters : List (String × Json)
  /-- The number of rows to read; without one all rows are read. -/
  fetch : Option Int

/-- What the store answers: columns and rows of values. -/
structure ResultSet where
  columns : List String
  rows : List (List Json)

structure QueryAnswer where
  rows : List Row
  columns : List Json

namespace StoreStatement

/-- A statement with parameters, or one whose colons mean nothing. -/
def make (sql : String) (parameters : List (String × Json)) (literalColons : Bool)
    (maxRows : Option Int) : StoreStatement :=
  { text := if literalColons then Sql.escapeColons sql else sql, parameters
    fetch := someLimit maxRows }

end StoreStatement

namespace ResultSet

def answer (result : ResultSet) : QueryAnswer :=
  { rows := result.rows.map fun values => Row.ofValues (result.columns.zip values)
    columns := result.columns.map .text }

end ResultSet

def storeAnswer (outcome : Except String ResultSet) : Except Fault QueryAnswer :=
  match outcome with
  | .ok result => .ok result.answer
  | .error message => .error (.ofKind .queryExecution ("Query execution failed: " ++ message))

end SemanticLayer
