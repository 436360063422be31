import SemanticLayer.Json.Document
import SemanticLayer.Profile.Sample

/-!
Data and their profiles as documents. A data table is an object with the names of its columns and
its rows; a profile is a list of numbers.
-/

namespace SemanticLayer

def Cell.ofDocument : Json → Cell
  | .null => .null
  | .bool b => .int (if b then 1 else 0)
  | .int n => .int n
  | .float x => if x.isNaN then .null else .real x
  | .text s => .text s
  | other => .text other.plain

def DataTable.ofDocument (name : String) (value : Json) : DataTable :=
  { name, columns := value.textsAt "columns"
    rows := (value.itemsAt "rows").map fun row => row.items.map Cell.ofDocument }

/-- Reads tables by their names. -/
def DataTable.allOfDocument (value : Json) : List DataTable :=
  value.entries.map fun (name, table) => .ofDocument name table

namespace ColumnProfile

def ofDocument (value : Json) : ColumnProfile :=
  match value with
  | .list [.int rows, .int filled, .int distinct] => ⟨rows.toNat, filled.toNat, distinct.toNat⟩
  | _ => ⟨0, 0, 0⟩

def toJson (profile : ColumnProfile) : Json :=
  .list [.int profile.rows, .int profile.filled, .int profile.distinct, .bool profile.isUnique]

end ColumnProfile

namespace OverlapProfile

def ofDocument (value : Json) : OverlapProfile :=
  match value with
  | .list [.int left, .int right, .int shared] => ⟨left.toNat, right.toNat, shared.toNat⟩
  | _ => ⟨0, 0, 0⟩

def toJson (overlap : OverlapProfile) : Json :=
  .list [.int overlap.left, .int overlap.right, .int overlap.shared]

end OverlapProfile

end SemanticLayer
