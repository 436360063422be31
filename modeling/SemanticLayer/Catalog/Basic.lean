import SemanticLayer.Catalog.Relationship
import SemanticLayer.Catalog.Table
import SemanticLayer.Error

/-!
A catalog: what one data model of a workspace offers to queries at one moment. Tables are named by
their own identifiers or by those of the synced tables behind them.
-/

namespace SemanticLayer

structure DataModel where
  id : String
  workspaceId : String
  name : String
  isDefault : Bool
  createdAt : Option String
  updatedAt : Option String
  deriving Repr, DecidableEq

def DataModel.toJson (model : DataModel) : Json :=
  .object
    [("id", .text model.id), ("workspaceId", .text model.workspaceId), ("name", .text model.name),
      ("isDefault", .bool model.isDefault), ("createdAt", .ofText? model.createdAt),
      ("updatedAt", .ofText? model.updatedAt)]

structure Catalog where
  model : DataModel
  tables : List Table
  relationships : List Relationship
  deriving Repr, DecidableEq

namespace Catalog

/-- The table with an identifier: first by the tables' own identifiers, then by those of the synced
tables. The empty text names no table. -/
def resolve? (catalog : Catalog) (id : String) : Option Table :=
  if id.isEmpty then none
  else
    (catalog.tables.find? (·.id == id)).or (catalog.tables.find? (·.syncedTableId == id))

/-- The table with an identifier, which has to be there. -/
def require (catalog : Catalog) (id : String) : Except Report Table :=
  match catalog.resolve? id with
  | some table => .ok table
  | none => .error (.make .invalidRequest ("Table not found in data model: " ++ id))

/-- The identities of the stored relationships. -/
def relationshipKeys (catalog : Catalog) : List String :=
  catalog.relationships.map Relationship.key

end Catalog

end SemanticLayer
