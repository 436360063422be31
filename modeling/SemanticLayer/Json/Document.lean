import SemanticLayer.Json.Value

/-!
Looking things up in documents whose form is known. What is absent or of another kind is left out or
replaced by what is given for it.
-/

namespace SemanticLayer.Json

/-- The items of a list; other values have none. -/
def items : Json → List Json
  | .list items => items
  | _ => []

/-- The fields of an object; other values have none. -/
def entries : Json → List (String × Json)
  | .object fields => fields
  | _ => []

def itemsAt (value : Json) (key : String) : List Json :=
  (value.field key).items

def textAt? (value : Json) (key : String) : Option String :=
  (value.field key).text?

def textAt (value : Json) (key : String) : String :=
  (value.textAt? key).getD ""

/-- The texts among the items of a list. -/
def textsAt (value : Json) (key : String) : List String :=
  (value.itemsAt key).filterMap text?

def int? : Json → Option Int
  | .int n => some n
  | _ => none

def intAt? (value : Json) (key : String) : Option Int :=
  (value.field key).int?

/-- Whether a field counts as true, or the truth value for one that is null. -/
def truthAt (value : Json) (key : String) (absent : Bool) : Bool :=
  match value.field key with
  | .null => absent
  | found => found.isTruthy

end SemanticLayer.Json
