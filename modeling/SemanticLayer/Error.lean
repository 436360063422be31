import SemanticLayer.Decimal.Reading
import SemanticLayer.Text.Quoted

/-!
What can go wrong. Every fault has a cause with the data that its message needs; the kinds of faults
form a tree, and the kind decides the code and the status under which a fault is reported.
-/

namespace SemanticLayer

/-- The kinds of faults that callers are told about by code and status. -/
inductive ErrorKind where
  | semanticLayer
  | invalidRequest
  | modelNotFound
  | relationshipNotFound
  | catalogLoad
  | planBuild
  | tableNotExecutable
  | engineNotSupported
  | crossSourceBlocked
  | noRelationshipPath
  | joinGraph
  | unsafeSql
  | missingTableScope
  | scopedReference
  | ambiguousTableReference
  | blockedTableReference
  | queryExecution
  | warehouseAuth
  | queryCancelled
  deriving Repr, DecidableEq

namespace ErrorKind

/-- The name under which the kind is reported. -/
def name : ErrorKind → String
  | .semanticLayer => "SemanticLayerError"
  | .invalidRequest => "InvalidRequestError"
  | .modelNotFound => "ModelNotFoundError"
  | .relationshipNotFound => "RelationshipNotFoundError"
  | .catalogLoad => "CatalogLoadError"
  | .planBuild => "PlanBuildError"
  | .tableNotExecutable => "TableNotExecutableError"
  | .engineNotSupported => "EngineNotSupportedError"
  | .crossSourceBlocked => "CrossSourceBlockedError"
  | .noRelationshipPath => "NoRelationshipPathError"
  | .joinGraph => "JoinGraphError"
  | .unsafeSql => "UnsafeSQLError"
  | .missingTableScope => "MissingTableScopeError"
  | .scopedReference => "ScopedReferenceError"
  | .ambiguousTableReference => "AmbiguousTableReferenceError"
  | .blockedTableReference => "BlockedTableReferenceError"
  | .queryExecution => "QueryExecutionError"
  | .warehouseAuth => "WarehouseAuthError"
  | .queryCancelled => "QueryCancelledError"

def all : List ErrorKind :=
  [.semanticLayer, .invalidRequest, .modelNotFound, .relationshipNotFound, .catalogLoad, .planBuild,
    .tableNotExecutable, .engineNotSupported, .crossSourceBlocked, .noRelationshipPath, .joinGraph,
    .unsafeSql, .missingTableScope, .scopedReference, .ambiguousTableReference,
    .blockedTableReference, .queryExecution, .warehouseAuth, .queryCancelled]

def ofName? (name : String) : Option ErrorKind :=
  all.find? (·.name == name)

/-- The kind that this one is a special case of. -/
def parent? : ErrorKind → Option ErrorKind
  | .semanticLayer => none
  | .tableNotExecutable | .engineNotSupported | .crossSourceBlocked | .noRelationshipPath
  | .joinGraph => some .planBuild
  | .ambiguousTableReference | .blockedTableReference => some .scopedReference
  | .warehouseAuth | .queryCancelled => some .queryExecution
  | _ => some .semanticLayer

/-- The kind and all those that it is a special case of, the closest first. -/
def lineage (kind : ErrorKind) : List ErrorKind :=
  match kind.parent? with
  | none => [kind]
  | some parent =>
    match parent.parent? with
    | none => [kind, parent]
    | some root => [kind, parent, root]

/-- The code under which the kind is reported. -/
def code : ErrorKind → String
  | .semanticLayer | .planBuild | .scopedReference => "PLAN_BUILD_FAILED"
  | .invalidRequest => "INVALID_REQUEST"
  | .modelNotFound => "MODEL_NOT_FOUND"
  | .relationshipNotFound => "RELATIONSHIP_NOT_FOUND"
  | .catalogLoad => "CATALOG_LOAD_FAILED"
  | .tableNotExecutable => "TABLE_NOT_EXECUTABLE"
  | .engineNotSupported => "ENGINE_NOT_SUPPORTED"
  | .crossSourceBlocked => "CROSS_SOURCE_BLOCKED"
  | .noRelationshipPath => "NO_RELATIONSHIP_PATH"
  | .joinGraph => "JOIN_GRAPH_ERROR"
  | .unsafeSql => "UNSAFE_SQL"
  | .missingTableScope => "MISSING_TABLE_SCOPE"
  | .ambiguousTableReference => "SQL_SCOPE_AMBIGUOUS"
  | .blockedTableReference => "SQL_SCOPE_BLOCKED"
  | .queryExecution => "QUERY_EXECUTION_FAILED"
  | .warehouseAuth => "WAREHOUSE_AUTH_FAILED"
  | .queryCancelled => "QUERY_CANCELLED"

/-- The status under which the kind is reported. -/
def status : ErrorKind → Int
  | .modelNotFound | .relationshipNotFound => 404
  | .catalogLoad => 500
  | .queryExecution => 502
  | .warehouseAuth => 401
  | .queryCancelled => 499
  | _ => 400

end ErrorKind

/-- A fault as it is reported. -/
structure Report where
  kind : ErrorKind
  message : String
  code : String
  status : Int
  /-- The names that a fault of scope is about. -/
  identifiers : Option (List String)
  /-- The rows handed over before a query was cancelled. -/
  rowsDelivered : Option Int
  deriving Repr, DecidableEq

namespace Report

/-- A report with the code and the status of its kind. -/
def make (kind : ErrorKind) (message : String) : Report :=
  { kind, message, code := kind.code, status := kind.status, identifiers := none,
    rowsDelivered := none }

/-- The report with another code and another status, where these are given. -/
def withCode (report : Report) (code : String) (status : Int) : Report :=
  { report with
    code := if code.isEmpty then report.code else code
    status := if status == 0 then report.status else status }

/-- The report of names that more than one table answers to. -/
def ambiguous (identifiers : List String) : Report :=
  { make .ambiguousTableReference ("Ambiguous table reference: " ++ ", ".intercalate identifiers ++
      ". Please use dataset.table or project.dataset.table.") with
    identifiers := some identifiers }

/-- The report of names that no table answers to. -/
def blocked (identifiers : List String) : Report :=
  { make .blockedTableReference ("Query blocked: only selected tables are allowed. " ++
      "Invalid reference(s): " ++ ", ".intercalate identifiers ++ ".") with
    identifiers := some identifiers }

def cancelled (message : String) (rows : Int) : Report :=
  { make .queryCancelled message with rowsDelivered := some rows }

end Report

end SemanticLayer
