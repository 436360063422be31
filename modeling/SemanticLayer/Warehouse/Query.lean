import SemanticLayer.Decimal.Exact
import SemanticLayer.Warehouse.Request

/-!
Queries of the warehouse. A query is submitted as a job, the job is polled until it is complete, and
the rows that do not come with the completed job are fetched in chunks. The chunks are dialogues of
their own, which may take turns.
-/

namespace SemanticLayer

structure WarehouseClient (δ : Type) where
  project : String
  apiBase : String
  /-- The longest time to wait for a job. -/
  queryTimeout : δ
  maxRetries : Nat
  initialBackoff : δ
  pollInitial : δ
  pollMax : δ
  chunkSize : Int

/-- A column of a result, as the warehouse describes it. -/
structure ResultColumn where
  name : Json
  type : Json

/-- What a completed job has told, and the rows that came with it. -/
structure JobResult where
  jobId : Json
  /-- What is sent along with all requests for rows. -/
  place : List (String × Json)
  fields : List Json
  columns : List ResultColumn
  totalRows : Int
  first : List Row

structure QueryResult where
  rows : List Row
  columns : List ResultColumn
  totalRows : Int
  jobId : Json

/-- The number of rows that a job has. -/
def wholeNumber (value : Json) : Except Fault Int :=
  if !value.isTruthy then .ok 0
  else
    match value with
    | .int n => .ok n
    | .bool _ => .ok 1
    | .float x =>
      if Decimal.isFinite x then
        let (size, unit) := Decimal.sizeFraction x
        .ok (Decimal.signed x (size / unit))
      else .error (.notFinite x.isNaN)
    | .text s => (Decimal.readInt s).mapError fun cause => .unreadableInteger cause s
    | other => .error (.notNumber other.shape)

/-- The greatest number of rows of one answer. -/
def firstBatch : Int := 50000

/-- A job as far as it is known from its answers. -/
structure JobProgress (δ : Type) where
  body : Json
  fields : Json
  /-- The next pause. -/
  wait : δ
  waited : δ

namespace WarehouseClient

/-- The address of the warehouse unless another one is given. -/
def defaultBase : String := "https://bigquery.googleapis.com/bigquery/v2"

variable {δ : Type} [Duration δ]

def base (client : WarehouseClient δ) : String :=
  String.ofList (Text.dropRight (· == '/') client.apiBase.toList)

def queriesUrl (client : WarehouseClient δ) : String :=
  client.base ++ "/projects/" ++ client.project ++ "/queries"

def send (client : WarehouseClient δ) (call : Call) : Dialogue δ Json :=
  Attempt.send ⟨client.maxRetries, client.initialBackoff, false⟩ call

/-- Asks for what a job has come to. -/
def ask (client : WarehouseClient δ) (jobId : Json) (parameters : List (String × Json)) :
    Dialogue δ Json :=
  client.send ⟨.get, client.queriesUrl ++ "/" ++ jobId.plain, none, some parameters⟩

def batch (limit : Option Int) : Int :=
  match someLimit limit with
  | some n => min n firstBatch
  | none => firstBatch

def submit (client : WarehouseClient δ) (sql : String) (limit : Option Int) : Dialogue δ Json :=
  client.send ⟨.post, client.queriesUrl,
    some (.object [("query", .text sql), ("useLegacySql", .bool false), ("timeoutMs", .int 30000),
      ("maxResults", .int (batch limit))]), none⟩

def listedFields (body : Json) : Except Fault Json := do
  Fault.field (← Fault.field body "schema").orEmpty "fields"

/-- The fault of a job that takes too long. -/
def lateJob : Fault :=
  .ofKind .queryExecution "BigQuery job failed to complete in time."

/-- Polls a job until it is complete, for at most a number of rounds. -/
def poll (client : WarehouseClient δ) (jobId : Json) (parameters : List (String × Json))
    (rounds : Nat) (job : JobProgress δ) : Dialogue δ (JobProgress δ) := do
  if (← Fault.field job.body "jobComplete").isTruthy then return job
  let total := Duration.add job.waited job.wait
  match rounds with
  | 0 => .halted (.failed lateJob)
  | rounds + 1 =>
    if Duration.exceeds total client.queryTimeout then .halted (.failed lateJob)
    else
      Dialogue.checkCancel
      Dialogue.wait job.wait
      let body ← client.ask jobId parameters
      let fields ← listedFields body
      client.poll jobId parameters rounds
        { body, fields := if fields.isTruthy then fields else job.fields, waited := total
          wait := Duration.least (Duration.halfMore job.wait) client.pollMax }

/-- The rows of a completed job. If there are rows but none came, those of the next page. -/
def firstPage (client : WarehouseClient δ) (jobId : Json) (place : List (String × Json))
    (limit : Option Int) (body : Json) (totalRows : Int) : Dialogue δ Json := do
  let rows ← Fault.field body "rows"
  let page ← Fault.field body "pageToken"
  if rows.isTruthy || totalRows ≤ 0 || !page.isTruthy then return rows
  Dialogue.checkCancel
  let answer ← client.ask jobId
    (place ++ [("pageToken", page), ("maxResults", .int (batch limit))])
  Fault.field answer "rows"

/-- Runs the job of a query and takes what comes with it. -/
def start (client : WarehouseClient δ) (sql : String) (limit : Option Int) :
    Dialogue δ JobResult := do
  Dialogue.checkCancel
  let body ← client.submit sql limit
  let reference := (← Fault.field body "jobReference").orEmpty
  let jobId ← Fault.field reference "jobId"
  let location ← Fault.field reference "location"
  let place := if location.isTruthy then [("location", location)] else []
  let job ← client.poll jobId (place ++ [("maxResults", .int (batch limit))])
    (Duration.rounds client.queryTimeout (Duration.least client.pollInitial client.pollMax))
    { body, fields := ← listedFields body, wait := client.pollInitial, waited := Duration.zero }
  let fields ← Fault.items job.fields
  let columns ← fields.mapM fun field => do
    return ResultColumn.mk (← Fault.field field "name") (← Fault.field field "type")
  let totalRows ← wholeNumber (← Fault.field job.body "totalRows")
  let raw ← client.firstPage jobId place limit job.body totalRows
  let first ← Row.readAll fields (← Fault.items raw)
  Dialogue.handOver first
  return { jobId, place, fields, columns, totalRows, first }

/-- Where the rows end that a query wants. -/
def stop (limit : Option Int) (job : JobResult) : Int :=
  match someLimit limit with
  | some n => min job.totalRows n
  | none => job.totalRows

def chunkStarts (client : WarehouseClient δ) (limit : Option Int) (job : JobResult) :
    Except Fault (List Int) :=
  let from' : Int := job.first.length
  if stop limit job ≤ from' then .ok []
  else if client.chunkSize == 0 then .error .emptyStep
  else if client.chunkSize < 0 then .ok []
  else
    let count := (stop limit job - from' + client.chunkSize - 1) / client.chunkSize
    .ok ((List.range count.toNat).map fun (n : Nat) => from' + n * client.chunkSize)

/-- Fetches rows until there are as many as wanted. An answer without rows is a fault. -/
def fetchRows (client : WarehouseClient δ) (job : JobResult) (start stop : Int) (wanted : Nat)
    (rows : List Row) : Dialogue δ (List Row) :=
  if h : rows.length < wanted then
    Dialogue.checkCancel.bind fun _ =>
      (client.ask job.jobId
          (job.place ++ [("startIndex", .int (start + rows.length)),
            ("maxResults", .int (wanted - rows.length))])).bind fun body =>
        (do Row.readAll job.fields (← Fault.items (← Fault.field body "rows")) :
            Dialogue δ (List Row)).bind fun page =>
          if _hpage : page = [] then
            .halted (.failed (.ofKind .queryExecution
              ("BigQuery returned " ++ toString (start + rows.length) ++ " of " ++ toString stop ++
                " rows")))
          else
            (Dialogue.handOver page).bind fun _ =>
              client.fetchRows job start stop wanted (rows ++ page)
  else
    .done rows
termination_by wanted - rows.length
decreasing_by
  have := List.length_pos_iff.mpr _hpage
  simp only [List.length_append]
  omega

def fetchChunk (client : WarehouseClient δ) (limit : Option Int) (job : JobResult) (start : Int) :
    Dialogue δ (List Row) :=
  client.fetchRows job start (stop limit job)
    (min client.chunkSize (stop limit job - start)).toNat []

def result (limit : Option Int) (job : JobResult) (chunks : List (List Row)) : QueryResult :=
  let rows := job.first ++ chunks.flatten
  { rows := match someLimit limit with
      | some n => cut n rows
      | none => rows
    columns := job.columns, totalRows := job.totalRows, jobId := job.jobId }

end WarehouseClient

end SemanticLayer
