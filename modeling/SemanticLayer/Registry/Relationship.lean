import SemanticLayer.Registry.Model

/-!
Relationships in the registry. A data model holds one relationship between two columns: another one
takes its place, under its identifier.
-/

namespace SemanticLayer

/-- A relationship to be stored; a missing value may be one that a row needs. -/
structure RelationshipDraft where
  id : Option String
  dataModelId : Option String
  fromTableId : Option String
  fromColumn : Option String
  toTableId : Option String
  toColumn : Option String
  cardinality : Option Cardinality
  direction : Option String
  status : Option String
  invalidReason : Option String
  fromTable : Option String
  toTable : Option String
  deriving Repr, DecidableEq

/-- The draft of a relationship that lacks nothing. -/
def Relationship.draft (r : Relationship) : RelationshipDraft :=
  { id := some r.id, dataModelId := some r.dataModelId, fromTableId := some r.fromTableId,
    fromColumn := some r.fromColumn, toTableId := some r.toTableId, toColumn := some r.toColumn,
    cardinality := some r.cardinality, direction := some r.direction, status := some r.status,
    invalidReason := r.invalidReason, fromTable := r.fromTable, toTable := r.toTable }

namespace RelationshipDraft

open Transaction

/-- The relationship of a draft as it is stored at a time under an identifier. -/
def complete (draft : RelationshipDraft) (id now : String) :
    Except RegistryFault Relationship := do
  return {
    id
    dataModelId := ← needed draft.dataModelId
    fromTableId := ← needed draft.fromTableId
    fromColumn := ← needed draft.fromColumn
    toTableId := ← needed draft.toTableId
    toColumn := ← needed draft.toColumn
    cardinality := ← needed draft.cardinality
    direction := ← needed draft.direction
    status := ← needed draft.status
    invalidReason := draft.invalidReason, fromTable := draft.fromTable, toTable := draft.toTable
    createdAt := some now, updatedAt := some now }

end RelationshipDraft

/-- A stored relationship as it is given out: an empty direction or status stands for the usual
one. -/
def RelationshipRecord.shown (record : RelationshipRecord) : Relationship :=
  { record.toRelationship with
    direction := (presentText (some record.direction)).getD "single"
    status := (presentText (some record.status)).getD validStatus }

namespace RegistryRows

/-- Whether a stored relationship joins the same columns in the same data model. -/
def isSameRelationship (one two : RelationshipRecord) : Bool :=
  one.dataModelId == two.dataModelId && one.storedKey == two.storedKey

/-- The stored relationship of a data model under a key. -/
def relationship? (rows : RegistryRows) (modelId key : String) : Option RelationshipRecord :=
  rows.relationships.find? fun record =>
    record.dataModelId == modelId && record.storedKey == key

/-- Sets a relationship; one between the same columns keeps its identifier and the time when it was
made. -/
def putRelationship (rows : RegistryRows) (record : RelationshipRecord) :
    Except RegistryFault RegistryRows :=
  if rows.relationships.any (isSameRelationship record) then
    .ok { rows with relationships := rows.relationships.map fun other =>
            if isSameRelationship record other then
              { record with id := other.id, createdAt := other.createdAt }
            else other }
  else if rows.relationships.any (·.id == record.id) then .error .constraint
  else .ok { rows with relationships := rows.relationships ++ [record] }

/-- Whether a relationship is listed no later than another one: by the time when it was made, then
by identifier. -/
def relatedBefore (one two : Relationship) : Bool :=
  !earlier two.createdAt one.createdAt &&
    (earlier one.createdAt two.createdAt || !decide (two.id < one.id))

def relationshipsOf (rows : RegistryRows) (modelId : String) : List Relationship :=
  ((rows.relationships.filter (·.dataModelId == modelId)).map (·.shown)).mergeSort relatedBefore

/-- Whether a relationship with an identifier belongs to a workspace. -/
def owns (rows : RegistryRows) (workspaceId id : String) (record : RelationshipRecord) : Bool :=
  record.id == id && rows.models.any fun model =>
    model.id == record.dataModelId && model.workspaceId == workspaceId

def removeRelationship (rows : RegistryRows) (workspaceId id : String) : RegistryRows :=
  { rows with relationships := rows.relationships.filter fun record =>
      !rows.owns workspaceId id record }

end RegistryRows

open Transaction

/-- Stores a relationship and reads it again. -/
def storeRelationship (draft : RelationshipDraft) (id now : String) :
    Transaction Relationship := do
  let key ← statement [.relationships] fun rows => do
    let r ← draft.complete id now
    let changed ← rows.putRelationship { r with storedKey := r.key }
    return ((r.dataModelId, r.key), changed)
  match ← select [.relationships] fun rows => rows.relationship? key.1 key.2 with
  | some record => return record.shown
  | none => throw .unavailable

/-- Removes a relationship of a workspace, and says whether there was one. -/
def dropRelationship (workspaceId id : String) : Transaction Bool :=
  statement [.relationships, .models] fun rows =>
    .ok (rows.relationships.any (rows.owns workspaceId id), rows.removeRelationship workspaceId id)

namespace Registry

/-- Stores a relationship; one without an identifier gets a new one. -/
def saveRelationship (registry : Registry) (draft : RelationshipDraft) (now : String) :
    Except Report Relationship × Registry :=
  let (id, registry) := registry.relationshipId draft.id
  let (result, registry) := registry.commit (storeRelationship draft id now)
  (result.mapError (·.report "Failed to save relationship"), registry)

/-- Removes a relationship of a workspace. A `false` says that it has none with the identifier. -/
def deleteRelationship (registry : Registry) (workspaceId id : String) :
    Except Report Bool × Registry :=
  let (result, registry) := registry.commit (dropRelationship workspaceId id)
  (result.mapError (·.report "Failed to delete relationship"), registry)

end Registry

end SemanticLayer
