import SemanticLayer.Inference.Naming
import SemanticLayer.Profile.Basic

/-!
Confidence in a relationship, from nothing to ninety-nine. Names, profiles and overlapping values
add points or take them away.
-/

namespace SemanticLayer

/-- What a reason adds. -/
def Reason.points : Reason → Int
  | .sameName => 20
  | .foreignKey => 15
  | .primaryKey => 10
  | .tableReference => 25
  | _ => 0

def reasonPoints (reasons : List Reason) : Int :=
  reasons.foldr (fun reason points => reason.points + points) 0

/-- What profiles add: nothing if there are none. -/
def profilePoints : Option Bool → Int
  | none => 0
  | some true => 10
  | some false => -15

/-- What a coverage adds: most from nine tenths on, less from six tenths on; below three tenths it
takes away. An undefined coverage adds nothing. -/
def coveragePoints (coverage : Float) : Int :=
  let key := Decimal.orderKey coverage
  if coverage.isNaN then 0
  else if Decimal.fractionKey 9 10 ≤ key then 15
  else if Decimal.fractionKey 6 10 ≤ key then 8
  else if key < Decimal.fractionKey 3 10 then -15
  else 0

/-- What a cardinality adds: most if it has a direction. -/
def cardinalityPoints : Option Cardinality → Int
  | some .manyToOne => 10
  | some .oneToMany => 10
  | some .oneToOne => 5
  | _ => 0

/-- The points of columns of the same type, before they are confined to the scale. -/
def rawScore (reasons : List Reason) (cardinality : Option Cardinality) (agrees : Option Bool)
    (coverage : Option Float) (shared : Bool) : Int :=
  20 + reasonPoints reasons + profilePoints agrees + ((coverage.map coveragePoints).getD 0) +
    (if shared then -20 else 0) + cardinalityPoints cardinality

/-- The greatest confidence. -/
def fullScore : Int := 99

/-- The confidence in a relationship: whether the types match, the reasons that names give, the
cardinality after profiling, whether profiles agree with it, the coverage, and whether a column is
an identifier that many tables share. -/
def confidence (typesMatch : Bool) (reasons : List Reason) (cardinality : Option Cardinality)
    (agrees : Option Bool) (coverage : Option Float) (shared : Bool) : Int :=
  if typesMatch then
    max 0 (min (rawScore reasons cardinality agrees coverage shared) fullScore)
  else 0

/-- The confidence from which on a relationship is suggested: the stronger the names, the lower. -/
def requiredConfidence (cardinality : Option Cardinality) (strength : Strength) : Int :=
  match cardinality, strength with
  | none, _ => 86
  | some .manyToMany, _ => 86
  | _, .strong => 55
  | _, _ => 72

end SemanticLayer
