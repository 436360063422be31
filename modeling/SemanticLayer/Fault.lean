import SemanticLayer.Error
import SemanticLayer.Request.Checked
import SemanticLayer.Sql.Grouping

/-!
What stops an operation. Most faults are reported to callers with a code; the others say that a
request does not fit, or that a value is beyond what the computation can hold.
-/

namespace SemanticLayer

inductive Fault where
  | reported (report : Report)
  | invalid (issues : List Issue)
  /-- A whole number that no binary number comes near to. -/
  | hugeInteger
  /-- A text that should have been a whole number. -/
  | unreadableInteger (cause : Decimal.IntFault) (text : String)
  /-- Text that is nested too deeply. -/
  | grouping (cause : Sql.GroupingFault)
  /-- A table that a query needs but that has not been brought in. -/
  | absentTable (id : String)
  /-- A table without an identifier, which no query can name. -/
  | namelessTable
  /-- A default model that was made but is not found, as if another model had its key. -/
  | lostModel
  /-- A value of this shape where an object should have been. -/
  | notObject (shape : Json.Shape)
  /-- A value of this shape where a list should have been. -/
  | notList (shape : Json.Shape)
  /-- A value of this shape where a number should have been. -/
  | notNumber (shape : Json.Shape)
  /-- An infinite number, or no number at all, where a whole number should have been. -/
  | notFinite (isNaN : Bool)
  /-- Steps of no length. -/
  | emptyStep
  deriving Repr, DecidableEq

namespace Fault

instance : Coe Report Fault := ⟨.reported⟩

instance : MonadLift (Except Report) (Except Fault) := ⟨fun result => result.mapError .reported⟩

/-- The value of a field, null where there is none, of what has to be an object. -/
def field (value : Json) (key : String) : Except Fault Json :=
  match value with
  | .object fields => .ok ((Json.object fields).field key)
  | other => .error (.notObject other.shape)

def items (value : Json) : Except Fault (List Json) :=
  match value with
  | .list items => .ok items
  | other => if other.isTruthy then .error (.notList other.shape) else .ok []

/-- The name of a kind of values in messages. -/
def shapeName : Json.Shape → String
  | .null => "NoneType"
  | .bool => "bool"
  | .int => "int"
  | .float => "float"
  | .text => "str"
  | .list => "list"
  | .object => "dict"

/-- The sentence that says what the fault is. -/
def message : Fault → String
  | .reported report => report.message
  | .invalid issues =>
    "; ".intercalate (issues.map fun issue => placed issue.path issue.fault.message)
  | .hugeInteger => "int too large to convert to float"
  | .unreadableInteger cause text => cause.message text
  | .grouping cause => cause.message
  | .absentTable id => Text.quoted id
  | .namelessTable => "'NoneType' object has no attribute 'is_executable'"
  | .lostModel => "'NoneType' object has no attribute 'id'"
  | .notObject shape => "'" ++ shapeName shape ++ "' object has no attribute 'get'"
  | .notList shape => "'" ++ shapeName shape ++ "' object is not iterable"
  | .notNumber shape =>
    "int() argument must be a string, a bytes-like object or a real number, not '" ++
      shapeName shape ++ "'"
  | .notFinite true => "cannot convert float NaN to integer"
  | .notFinite false => "cannot convert float infinity to integer"
  | .emptyStep => "range() arg 3 must not be zero"

/-- The report of a fault; what is not reported by itself is reported as a fault of a kind. -/
def asReport (kind : ErrorKind) (what : String) : Fault → Report
  | .reported report => report
  | fault => .make kind (what ++ ": " ++ fault.message)

def ofKind (kind : ErrorKind) (message : String) : Fault :=
  .reported (.make kind message)

end Fault

end SemanticLayer
