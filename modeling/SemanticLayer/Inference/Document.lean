import SemanticLayer.Inference.Evaluation
import SemanticLayer.Profile.Document

/-!
What inference finds, as documents.
-/

namespace SemanticLayer

def cardinalityJson (cardinality : Option Cardinality) : Json :=
  .ofText? (cardinality.map Cardinality.code)

def reasonsJson (reasons : List Reason) : Json :=
  .ofTexts (reasons.map Reason.code)

namespace Strength

def ofCode (code : String) : Strength :=
  if code == Strength.strong.code then .strong
  else if code == Strength.weak.code then .weak
  else .none

end Strength

namespace Reason

def ofCode (code : String) : Reason :=
  let known : List Reason :=
    [.sameName, .foreignKey, .primaryKey, .tableReference, .sharedForeignKey, .sameType,
      .profileConflict, .sharedKeyName, .forced]
  (known.find? (·.code == code)).getD (.other code)

end Reason

def NamingEvidence.toJson (evidence : NamingEvidence) : Json :=
  .object
    [("type", cardinalityJson evidence.cardinality), ("strength", .text evidence.strength.code),
      ("reasons", reasonsJson evidence.reasons)]

def PairInference.toJson (inference : PairInference) : Json :=
  .object
    [("type", cardinalityJson inference.cardinality), ("strength", .text inference.strength.code),
      ("confidence", .int inference.confidence), ("reasons", reasonsJson inference.reasons),
      ("rejected", .bool inference.rejection.isSome),
      ("rejectedReason", .ofText? (inference.rejection.map Rejection.message)),
      ("overlap", (inference.overlap.map OverlapProfile.toJson).getD .null)]

def Evaluation.toJson (evaluation : Evaluation) : Json :=
  .object
    [("type", .text evaluation.cardinality.code), ("status", .text evaluation.status),
      ("invalidReason", .ofText? evaluation.invalidReason),
      ("confidence", .int evaluation.confidence), ("reasons", reasonsJson evaluation.reasons)]

end SemanticLayer
