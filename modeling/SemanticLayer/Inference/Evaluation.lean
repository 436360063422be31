import SemanticLayer.Inference.Suggestion

/-!
Relationships that are created on request, and stored ones that are read again. What is stored is
what the evidence shows, not what was asked for, unless many-to-many was asked for.
-/

namespace SemanticLayer

structure Evaluation where
  cardinality : Cardinality
  status : String
  invalidReason : Option String
  confidence : Int
  reasons : List Reason
  deriving Repr, DecidableEq

namespace Evaluation

/-- A relationship that is stored as many-to-many on request. -/
def forced : Evaluation :=
  ⟨.manyToMany, invalidStatus, some manyToManyObstacle, 0, [.forced]⟩

/-- The verdict on an inference; the requested cardinality counts where nothing is inferred, and one
with an empty code asks for nothing. -/
def ofInference (one two : Table) (requested : Option Cardinality) (inference : PairInference) :
    Evaluation :=
  let asked := requested.filter fun cardinality => !cardinality.code.isEmpty
  let cardinality := (inference.cardinality.or asked).getD .manyToOne
  let invalidReason :=
    ((inference.rejection.map Rejection.message).or
      (if cardinality == .manyToMany then some manyToManyObstacle else none)).or
      (runtimeObstacle one two)
  { cardinality, status := if invalidReason.isSome then invalidStatus else validStatus
    invalidReason, confidence := inference.confidence, reasons := inference.reasons }

end Evaluation

def evaluateRelationship (profiler : Option Profiler) (one : Table) (oneColumn : String)
    (two : Table) (twoColumn : String) (requested : Option Cardinality) :
    Except Report Evaluation :=
  match one.findColumn? oneColumn, two.findColumn? twoColumn with
  | some first, some second =>
    if requested == some .manyToMany then .ok .forced
    else
      let (inference, _) := (inferPair profiler one first two second false).run ProfileCache.empty
      .ok (.ofInference one two requested
        (inference.getD (.ofNaming .nothing false)))
  | _, _ => .error (.make .invalidRequest "Column does not exist in selected table schema")

/-- The relationship with another cardinality; with many-to-many it is not valid any more. -/
def Relationship.withCardinality (r : Relationship) (cardinality : Cardinality) : Relationship :=
  if cardinality == .manyToMany then
    { r with cardinality, status := invalidStatus, invalidReason := some manyToManyObstacle }
  else { r with cardinality }

/-- The stored relationship with the cardinality that strong names show now. -/
def Relationship.revalidate (catalog : Catalog) (r : Relationship) : Relationship :=
  match r.cardinality, catalog.resolve? r.fromTableId, catalog.resolve? r.toTableId with
  | .manyToMany, _, _ => r
  | _, some source, some target =>
    match NamingEvidence.ofNames ⟨source.name, r.fromColumn⟩ ⟨target.name, r.toColumn⟩ with
    | some ⟨some cardinality, .strong, _⟩ => r.withCardinality cardinality
    | _ => r
  | _, _, _ => r

end SemanticLayer
