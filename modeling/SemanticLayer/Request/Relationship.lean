import SemanticLayer.Catalog.Cardinality
import SemanticLayer.Request.Query

/-!
Requests about relationships: to create one between two columns, and to look for good ones.
-/

namespace SemanticLayer

structure RelationshipRequest where
  dataModelId : Option String
  fromTableId : String
  fromColumn : String
  toTableId : String
  toColumn : String
  cardinality : Option Cardinality
  direction : String
  deriving Repr, DecidableEq

structure DetectRequest where
  dataModelId : Option String
  tableIds : List String
  deriving Repr, DecidableEq

/-- The directions in which a filter may pass along a relationship. -/
def filterDirections : List String := ["single", "both"]

namespace RelationshipRequest

def readColumn : Json → Checked String :=
  readTrimmed "fromColumn and toColumn are required"

def readCardinality (value : Json) : Checked (Option Cardinality) :=
  (Checked.nullable Checked.text value).bind fun code =>
    match code with
    | none => .ok none
    | some code =>
      if Cardinality.codes.contains code then .ok (some (.ofCode code))
      else
        Checked.fail
          (.rejected ("relationshipType must be one of " ++ ", ".intercalate Cardinality.codes))

def readDirection : Json → Checked String
  | .null => .ok "single"
  | .text s =>
    if filterDirections.contains s then .ok s
    else Checked.fail (.rejected "crossFilterDirection must be single or both")
  | _ => Checked.fail (.rejected "crossFilterDirection must be single or both")

def read : Json → Checked RelationshipRequest :=
  Checked.object "CreateRelationshipRequest" fun value =>
    RelationshipRequest.mk <$> readDataModelId value <*>
      FieldName.required ⟨"fromTableId", "from_table_id"⟩ Checked.someText value <*>
      FieldName.required ⟨"fromColumn", "from_column"⟩ readColumn value <*>
      FieldName.required ⟨"toTableId", "to_table_id"⟩ Checked.someText value <*>
      FieldName.required ⟨"toColumn", "to_column"⟩ readColumn value <*>
      FieldName.withDefault ⟨"relationshipType", "relationship_type"⟩ none readCardinality value <*>
      FieldName.withDefault ⟨"crossFilterDirection", "cross_filter_direction"⟩ "single"
        readDirection value

def toJson (request : RelationshipRequest) : Json :=
  .object
    [("dataModelId", .ofText? request.dataModelId), ("fromTableId", .text request.fromTableId),
      ("fromColumn", .text request.fromColumn), ("toTableId", .text request.toTableId),
      ("toColumn", .text request.toColumn),
      ("relationshipType", .ofText? (request.cardinality.map Cardinality.code)),
      ("crossFilterDirection", .text request.direction)]

end RelationshipRequest

namespace DetectRequest

def read : Json → Checked DetectRequest :=
  Checked.object "AutoDetectRequest" fun value =>
    DetectRequest.mk <$> readDataModelId value <*> readTableIds value

def toJson (request : DetectRequest) : Json :=
  .object [("dataModelId", .ofText? request.dataModelId), ("tableIds", .ofTexts request.tableIds)]

end DetectRequest

end SemanticLayer
