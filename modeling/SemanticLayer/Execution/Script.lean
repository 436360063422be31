import SemanticLayer.Execution.Basic
import SemanticLayer.Json.Document

/-!
Engines that follow a script. The store gives one result to all statements; the warehouse gives
prepared replies and then, where there is one, the pages of a table. All that is asked of them is
written down, so that plans and the warehouse client can be tried without a database and a network.
-/

namespace SemanticLayer

/-- A table that the warehouse serves in pages. -/
structure ServedTable where
  fields : Json
  rows : List (List Json)
  /-- The number of rows that come with the job. -/
  firstPage : Int
  /-- The greatest number of rows of another page. -/
  pageSize : Int

namespace ServedTable

def page (rows : List (List Json)) : Json :=
  .list (rows.map fun values =>
    .object [("f", .list (values.map fun value => .object [("v", value)]))])

def reply (table : ServedTable) (call : Call) : Reply :=
  match call.method with
  | .post =>
    .answered 200 (.object
      [("jobComplete", .bool true), ("jobReference", .object [("jobId", .text "job-1")]),
        ("schema", .object [("fields", table.fields)]),
        ("rows", page (cut table.firstPage table.rows)),
        ("totalRows", .text (toString table.rows.length))])
  | .get =>
    let parameters := Json.object (call.parameters.getD [])
    let start := (parameters.intAt? "startIndex").getD 0
    let count := min table.pageSize ((parameters.intAt? "maxResults").getD 0)
    .answered 200 (.object [("rows", page (cut count (table.rows.drop start.toNat)))])

end ServedTable

/-- When a query is cancelled: at the start, when a number of requests are sent, when a number of
rows are there. -/
structure CancelPlan where
  atStart : Bool
  atCall : Option Int
  atRows : Option Int
  deriving Repr, DecidableEq

/-- A request with the token that it was signed with. -/
structure SignedCall extends Call where
  token : String

/-- A statement of the store, and whether its rows were read. -/
structure StatementRecord where
  statement : StoreStatement
  wasRead : Bool

structure EngineScript (δ : Type) where
  result : Except String ResultSet
  replies : List Reply
  served : Option ServedTable
  environment : List (String × String)
  cancel : CancelPlan
  takesRows : Bool
  cancelled : Bool
  statements : List StatementRecord
  calls : List SignedCall
  pauses : List δ
  batches : List Nat

namespace EngineScript

variable {δ : Type}

/-- Answers a request by the next reply. -/
def answer (script : EngineScript δ) (token : String) (call : Call) : Reply × EngineScript δ :=
  let calls := script.calls ++ [⟨call, token⟩]
  let due := script.cancel.atCall == some (calls.length : Int)
  let script := { script with calls, cancelled := script.cancelled || due }
  match script.replies with
  | reply :: rest => (reply, { script with replies := rest })
  | [] =>
    (match script.served with
      | some table => table.reply call
      | none => .lost "script exhausted", script)

def take (rows : List Row) (script : EngineScript δ) : EngineScript δ :=
  if script.takesRows then
    let batches := script.batches ++ [rows.length]
    let taken : Nat := batches.foldr (fun count rows => count + rows) 0
    let due := script.cancel.atRows.any fun count => count ≤ (taken : Int)
    { script with batches, cancelled := script.cancelled || due }
  else script

def surroundings : Surroundings δ (EngineScript δ) :=
  { send := fun token call script => script.answer token call
    pause := fun time script => { script with pauses := script.pauses ++ [time] }
    isCancelled := cancelled
    deliver := take
    environment := fun script key => script.environment.lookup key }

def runStatement (statement : StoreStatement) (script : EngineScript δ) :
    Except String ResultSet × EngineScript δ :=
  match script.result with
  | .error message =>
    (.error message, { script with statements := script.statements ++ [⟨statement, false⟩] })
  | .ok result =>
    let rows := (statement.fetch.map (cut · result.rows)).getD result.rows
    (.ok { result with rows },
      { script with statements := script.statements ++ [⟨statement, true⟩] })

def engines (warehouse : Option (WarehouseClient δ)) : Engines δ (EngineScript δ) :=
  ⟨runStatement, warehouse, surroundings⟩

end EngineScript

end SemanticLayer
