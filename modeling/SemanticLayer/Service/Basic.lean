import SemanticLayer.Execution.Basic
import SemanticLayer.Inference.Document
import SemanticLayer.Registry.Catalog
import SemanticLayer.Service.Call

/-!
The service: what is done for a call, and what the registry and the engines are like afterwards.
Every call about tables loads the catalog of a data model of its workspace first; nothing else of
the registry is looked at.
-/

namespace SemanticLayer

open Text

/-- What the service works with. -/
structure Service (δ σ : Type) where
  limits : RowLimits
  engines : Engines δ σ
  profiler : Option Profiler

/-- The registry and the talks with the engines. -/
structure ServiceState (σ : Type) where
  registry : Registry
  conversation : Conversation σ

def RelationshipRequest.proposal (request : RelationshipRequest) (profiler : Option Profiler)
    (catalog : Catalog) : Except Report (RelationshipDraft × Evaluation) := do
  let one ← catalog.require request.fromTableId
  let two ← catalog.require request.toTableId
  if one.id == two.id && lower request.fromColumn == lower request.toColumn then
    throw (.make .invalidRequest "A relationship cannot join a column to itself")
  let evaluation ←
    evaluateRelationship profiler one request.fromColumn two request.toColumn request.cardinality
  return ({
      id := none, dataModelId := some catalog.model.id, fromTableId := some one.id
      fromColumn := (one.findColumn? request.fromColumn).map (·.name), toTableId := some two.id
      toColumn := (two.findColumn? request.toColumn).map (·.name)
      cardinality := some evaluation.cardinality, direction := some request.direction
      status := some evaluation.status, invalidReason := evaluation.invalidReason
      fromTable := some one.name, toTable := some two.name }, evaluation)

/-- The answer of a service that runs with some engines. -/
def healthAnswer (engines : List String) : Answer :=
  .ok (.object [("status", .text "healthy"), ("engines", .ofTexts engines)]) []

/-- The status and the body of a refusal. -/
def Refusal.reply (refusal : Refusal) : Int × Json :=
  (refusal.status, refusal.toJson)

/-- The status and the body that a call is replied to with. A fault that is not reported is not said
anything about. -/
def replyOf : Except Fault Answer → Int × Json
  | .ok answer => (answer.status, answer.toJson)
  | .error (.reported report) => (Refusal.ofReport report).reply
  | .error _ => (500, .text "Internal Server Error")

namespace Service

variable {δ σ : Type} [Duration δ]

/-- Loads the catalog that a call is about and answers from it. -/
def withCatalog (workspace : String) (modelId : Option String) (now : String)
    (state : ServiceState σ)
    (answer : Catalog → ServiceState σ → Except Report Answer × ServiceState σ) :
    Except Fault Answer × ServiceState σ :=
  let (loaded, registry) := state.registry.loadCatalog workspace modelId now
  let state := { state with registry }
  match loaded with
  | .error fault => (.error fault, state)
  | .ok catalog =>
    let (reply, state) := answer catalog state
    (reply.mapError .reported, state)

/-- Stores the relationship that a request asks for. -/
def create (service : Service δ σ) (request : RelationshipRequest) (now : String)
    (catalog : Catalog) (state : ServiceState σ) : Except Report Answer × ServiceState σ :=
  match request.proposal service.profiler catalog with
  | .error report => (.error report, state)
  | .ok (draft, evaluation) =>
    let (saved, registry) := state.registry.saveRelationship draft now
    (saved.map fun r =>
      ⟨201, r.toJson,
        [("confidence", .int evaluation.confidence), ("reasons", reasonsJson evaluation.reasons)]⟩,
      { state with registry })

/-- Runs a query. Nothing cancels the queries of the service. -/
def execute (service : Service δ σ) (request : ExecuteRequest) (catalog : Catalog)
    (state : ServiceState σ) : Except Report Answer × ServiceState σ :=
  let engines :=
    { service.engines with around.isCancelled := fun _ => false }
  let (result, conversation) := engines.execute service.limits catalog request state.conversation
  ((result.mapError (·.asReport .queryExecution "Query execution failed")).map fun execution =>
    .ok execution.toJson [], { state with conversation })

/-- Does what a call asks for. -/
def perform (service : Service δ σ) (call : ServiceCall) (now : String) (state : ServiceState σ) :
    Except Fault Answer × ServiceState σ :=
  match call with
  | .health => (.ok (healthAnswer service.engines.names), state)
  | .defaultModel workspace =>
    let (model, registry) := state.registry.ensureDefaultModel workspace defaultModelName now
    (model.map fun model => .ok model.toJson [], { state with registry })
  | .tables workspace modelId =>
    withCatalog workspace modelId now state fun catalog state =>
      (.ok (.ok (.list (catalog.tables.map Table.toJson))
        [("dataModelId", .text catalog.model.id), ("dataModelName", .text catalog.model.name)]),
        state)
  | .relationships workspace modelId =>
    withCatalog workspace modelId now state fun catalog state =>
      (.ok (.ok
        (.list (catalog.relationships.map fun r => (r.revalidate catalog).toJson))
        [("dataModelId", .text catalog.model.id), ("total", .int catalog.relationships.length)]),
        state)
  | .create workspace request =>
    withCatalog workspace request.dataModelId now state (service.create request now)
  | .delete workspace id =>
    let (deleted, registry) := state.registry.deleteRelationship workspace id
    let answer : Except Report Answer := do
      if ← deleted then return .ok (.object [("id", .text id)]) []
      else throw (.make .relationshipNotFound "Relationship not found")
    (answer.mapError .reported, { state with registry })
  | .detect workspace request =>
    withCatalog workspace request.dataModelId now state fun catalog state =>
      let found := suggestRelationships service.profiler catalog request.tableIds
      (.ok (.ok (.list (found.map Suggestion.toJson))
        [("dataModelId", .text catalog.model.id), ("total", .int found.length)]), state)
  | .plan workspace spec =>
    withCatalog workspace spec.dataModelId now state fun catalog state =>
      (((QueryPlan.build service.limits catalog spec).mapError
        (·.asReport .planBuild "Failed to build query plan")).map fun plan => .ok plan.toJson [],
        state)
  | .execute workspace request =>
    withCatalog workspace request.dataModelId now state (service.execute request)

/-- Replies to a request at a time. -/
def handle (service : Service δ σ) (request : HttpRequest) (now : String)
    (state : ServiceState σ) : HttpResponse × ServiceState σ :=
  let ((status, body), state) :=
    match ServiceCall.ofRequest request with
    | .error refusal => (refusal.reply, state)
    | .ok call =>
      let (answer, state) := service.perform call now state
      (replyOf answer, state)
  (⟨status, if upper request.method == "HEAD" then none else some body⟩, state)

end Service

end SemanticLayer
