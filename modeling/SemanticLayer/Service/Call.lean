import SemanticLayer.Service.Body

/-!
What requests call for. A request is refused if it goes nowhere, if what it carries cannot be read,
if it does not say whose workspace it is about, if its sender may not do what it asks for, and if
what it carries does not fit; of several reasons the first one counts.
-/

namespace SemanticLayer

open Text

/-- Where a request can go. -/
inductive Endpoint where
  | health
  | defaultModel
  | tables
  | relationships
  | create
  | delete (id : String)
  | detect
  | plan
  | execute
  deriving Repr, DecidableEq

namespace Endpoint

def ofPath : List String → List (String × Endpoint)
  | ["health"] => [("GET", .health)]
  | ["default-model"] => [("GET", .defaultModel)]
  | ["tables"] => [("GET", .tables)]
  | ["relationships"] => [("GET", .relationships), ("POST", .create)]
  | ["relationships", "auto-detect"] => [("DELETE", .delete "auto-detect"), ("POST", .detect)]
  | ["relationships", id] => if id.isEmpty then [] else [("DELETE", .delete id)]
  | ["query", "plan"] => [("POST", .plan)]
  | ["query", "execute"] => [("POST", .execute)]
  | _ => []

/-- The path without the empty parts at its end. -/
def withoutEnd (segments : List String) : List String :=
  (segments.reverse.dropWhile (·.isEmpty)).reverse

/-- Where a request goes. A path with strokes at its end goes where it goes without them, unless it
leads somewhere as it is. -/
def ofRequest (request : HttpRequest) : Except Refusal Endpoint :=
  let found := ofPath request.segments
  let found := if found.isEmpty then ofPath (withoutEnd request.segments) else found
  if found.isEmpty then .error .unknownPath
  else
    match found.lookup (upper request.method) with
    | some endpoint => .ok endpoint
    | none => .error .unknownMethod

/-- Whether requests to the endpoint carry something. -/
def takesBody : Endpoint → Bool
  | .create | .detect | .plan | .execute => true
  | _ => false

end Endpoint

def HttpRequest.workspace (request : HttpRequest) : Except Refusal String :=
  match (request.header? "x-workspace-id").map trim with
  | none | some "" => .error .noWorkspace
  | some workspace => .ok workspace

/-- The roles whose holders may manage relationships. -/
def editorRoles : List String := ["Admin", "Editor"]

/-- Whether the sender of a request may manage relationships. -/
def HttpRequest.canEdit (request : HttpRequest) : Bool :=
  ((request.header? "x-user-role").map editorRoles.contains).getD false

/-- What a request calls for. All calls but one are about a workspace. -/
inductive ServiceCall where
  | health
  | defaultModel (workspace : String)
  | tables (workspace : String) (modelId : Option String)
  | relationships (workspace : String) (modelId : Option String)
  | create (workspace : String) (request : RelationshipRequest)
  | delete (workspace id : String)
  | detect (workspace : String) (request : DetectRequest)
  | plan (workspace : String) (spec : QuerySpec)
  | execute (workspace : String) (request : ExecuteRequest)

namespace ServiceCall

/-- The workspace of a request whose sender may manage relationships. -/
def editedWorkspace (request : HttpRequest) : Except Refusal String := do
  let workspace ← request.workspace
  if request.canEdit then return workspace else throw .notEditor

def ofEndpoint (request : HttpRequest) (body : Body) : Endpoint → Except Refusal ServiceCall
  | .health => .ok .health
  | .defaultModel => .defaultModel <$> request.workspace
  | .tables => do return .tables (← request.workspace) (request.parameter? "dataModelId")
  | .relationships => do
    return .relationships (← request.workspace) (request.parameter? "dataModelId")
  | .create => do
    let workspace ← editedWorkspace request
    return .create workspace (← body.required RelationshipRequest.read)
  | .delete id => do return .delete (← editedWorkspace request) id
  | .detect => do
    let workspace ← request.workspace
    return .detect workspace (← body.optional DetectRequest.read ⟨none, []⟩)
  | .plan => do
    let workspace ← request.workspace
    return .plan workspace (← body.required QuerySpec.read)
  | .execute => do
    let workspace ← request.workspace
    return .execute workspace (← body.required ExecuteRequest.read)

def ofRequest (request : HttpRequest) : Except Refusal ServiceCall := do
  let endpoint ← Endpoint.ofRequest request
  let body ← if endpoint.takesBody then Body.read request else pure .none
  ofEndpoint request body endpoint

end ServiceCall

end SemanticLayer
