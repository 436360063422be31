import SemanticLayer.Catalog.Cardinality
import SemanticLayer.Json.Value
import SemanticLayer.Text.Blank
import SemanticLayer.Text.Case

/-!
Relationships between tables. Two relationships are the same if they join the same two columns, no
matter which one comes first.
-/

namespace SemanticLayer

open Text

structure Relationship where
  id : String
  dataModelId : String
  fromTableId : String
  fromColumn : String
  toTableId : String
  toColumn : String
  cardinality : Cardinality
  direction : String
  /-- `valid`, or a reason for not joining is to be found in `invalidReason`. -/
  status : String
  invalidReason : Option String
  fromTable : Option String
  toTable : Option String
  createdAt : Option String
  updatedAt : Option String
  deriving Repr, DecidableEq

def validStatus : String := "valid"
def invalidStatus : String := "invalid"

/-- One end of a relationship as text: the table and its column in lower case. -/
def endpointKey (tableId column : String) : String :=
  tableId ++ ":" ++ lower (trim column)

/-- The identity of a relationship: its ends as text, in order. -/
def relationshipKey (fromTableId fromColumn toTableId toColumn : String) : String :=
  let left := endpointKey fromTableId fromColumn
  let right := endpointKey toTableId toColumn
  if right < left then right ++ "|" ++ left else left ++ "|" ++ right

namespace Relationship

/-- The identity of the relationship. -/
def key (r : Relationship) : String :=
  relationshipKey r.fromTableId r.fromColumn r.toTableId r.toColumn

/-- Whether queries may join along the relationship. -/
def isJoinable (r : Relationship) : Bool :=
  r.status == validStatus && r.cardinality != .manyToMany

def toJson (r : Relationship) : Json :=
  .object
    [("id", .text r.id), ("dataModelId", .text r.dataModelId),
      ("fromTable", .ofText? r.fromTable), ("fromColumn", .text r.fromColumn),
      ("toTable", .ofText? r.toTable), ("toColumn", .text r.toColumn),
      ("fromTableId", .text r.fromTableId), ("toTableId", .text r.toTableId),
      ("relationshipType", .text r.cardinality.code),
      ("crossFilterDirection", .text r.direction), ("validationStatus", .text r.status),
      ("invalidReason", .ofText? r.invalidReason), ("createdAt", .ofText? r.createdAt),
      ("updatedAt", .ofText? r.updatedAt)]

end Relationship

end SemanticLayer
