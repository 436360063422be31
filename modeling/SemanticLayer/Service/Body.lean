import SemanticLayer.Request.Relationship
import SemanticLayer.Service.Message

/-!
What requests carry. It is read as a value if its type says so; whether it fits is a question of its
own, which comes later.
-/

namespace SemanticLayer

open Text

/-- What a request carries. -/
inductive Body where
  | none
  | json (value : Json)
  /-- Something of a type that is not read. -/
  | unread

namespace Body

def isValueType (type : String) : Bool :=
  match (lower (trim ((type.splitOn ";").headD ""))).splitOn "/" with
  | ["application", kind] => kind == "json" || endsWith kind "+json"
  | _ => false

def withoutMark : List Char → List Char
  | c :: rest => if c.toNat == 0xfeff then rest else c :: rest
  | [] => []

def read (request : HttpRequest) : Except Refusal Body :=
  if request.body.isEmpty then .ok .none
  else if !isValueType ((request.header? "content-type").getD "") then .ok .unread
  else
    match Json.readChars (withoutMark request.body.toList) with
    | .ok value => .ok (.json value)
    | .error (.malformed position) => .error (.invalid s!"{position}: JSON decode error")
    | .error (.tooManyDigits _) => .error .unreadableBody

/-- The sentence about a value that should have been an object. -/
def notObject : String := "Input should be a valid dictionary or object to extract fields from"

/-- The sentence about a fault of a request. -/
def sentence (issue : Issue) : String :=
  placed issue.path
    (match issue.fault with
      | .notObject _ => notObject
      | fault => fault.message)

def refusal (issues : List Issue) : Refusal :=
  .invalid ("; ".intercalate (issues.map sentence))

def optional (read : Json → Checked α) (absent : α) : Body → Except Refusal α
  | .none | .json .null => .ok absent
  | .json value => (read value).mapError refusal
  | .unread => .error (.invalid notObject)

def required (read : Json → Checked α) : Body → Except Refusal α
  | .none | .json .null => .error (.invalid FieldFault.missing.message)
  | .json value => (read value).mapError refusal
  | .unread => .error (.invalid notObject)

end Body

end SemanticLayer
