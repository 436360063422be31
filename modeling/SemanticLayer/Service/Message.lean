import SemanticLayer.Error
import SemanticLayer.Json.Reader
import SemanticLayer.Text.Case
import SemanticLayer.Text.Part

/-!
Requests as they come in over the network, and the replies to them. A request says where it goes,
who sends it, and what it carries; a refusal is a reply that says what is wrong.
-/

namespace SemanticLayer

open Text

structure HttpRequest where
  method : String
  /-- The path, in which characters may be written as percent signs with two digits. -/
  path : String
  parameters : List (String × String)
  headers : List (String × String)
  /-- What the request carries; the empty text for nothing. -/
  body : String
  deriving Repr, DecidableEq

/-- A reply that says what is wrong with a request. -/
structure Refusal where
  status : Int
  message : String
  code : String
  deriving Repr, DecidableEq

namespace Refusal

def ofReport (report : Report) : Refusal :=
  ⟨report.status, report.message, report.code⟩

def invalid (message : String) : Refusal := ⟨400, message, "INVALID_REQUEST"⟩

/-- Nobody says which workspace the request is about. -/
def noWorkspace : Refusal := ⟨401, "Missing workspace context", "UNAUTHORIZED"⟩

def notEditor : Refusal := ⟨403, "Only Admin or Editor can manage relationships", "FORBIDDEN"⟩

def unknownPath : Refusal := ⟨404, "Not Found", "NOT_FOUND"⟩

def unknownMethod : Refusal := ⟨405, "Method Not Allowed", "HTTP_ERROR"⟩

def unreadableBody : Refusal := ⟨400, "There was an error parsing the body", "HTTP_ERROR"⟩

def toJson (refusal : Refusal) : Json :=
  .object
    [("success", .bool false), ("message", .text refusal.message), ("code", .text refusal.code)]

end Refusal

/-- A reply that gives what was asked for. -/
structure Answer where
  status : Int
  data : Json
  details : List (String × Json)

namespace Answer

def ok (data : Json) (details : List (String × Json)) : Answer := ⟨200, data, details⟩

def toJson (answer : Answer) : Json :=
  .object ([("success", .bool true), ("data", answer.data)] ++
    if answer.details.isEmpty then [] else [("meta", .object answer.details)])

end Answer

structure HttpResponse where
  status : Int
  /-- What the reply carries, as a document or as plain text; replies to requests for headers carry
  nothing. -/
  body : Option Json

/-- The bytes of a text in which percent signs with two digits stand for bytes. -/
def percentBytes : List Char → List UInt8
  | '%' :: a :: b :: rest =>
    match Json.hexValue? a, Json.hexValue? b with
    | some high, some low => UInt8.ofNat (16 * high + low) :: percentBytes rest
    | _, _ => '%'.toString.toUTF8.toList ++ percentBytes (a :: b :: rest)
  | c :: rest => c.toString.toUTF8.toList ++ percentBytes rest
  | [] => []

/-- The text behind one with percent signs; bytes that make no text are replaced by a mark. -/
def percentDecoded (s : String) : String :=
  (String.fromUTF8? ⟨(percentBytes s.toList).toArray⟩).getD "\ufffd"

namespace HttpRequest

/-- The value of a header, whose name is compared without regard to case. -/
def header? (request : HttpRequest) (name : String) : Option String :=
  (request.headers.find? fun (key, _) => lower key == name).map Prod.snd

def parameter? (request : HttpRequest) (name : String) : Option String :=
  request.parameters.lookup name

/-- The parts of the path between its strokes. A path may have been encoded twice. -/
def segments (request : HttpRequest) : List String :=
  let decoded := percentDecoded (percentDecoded request.path)
  let parts := decoded.splitOn "/"
  if parts.head? == some "" then parts.drop 1 else parts

end HttpRequest

end SemanticLayer
