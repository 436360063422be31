import SemanticLayer.Warehouse.Conversation

/-!
Queries whose chunks take turns. Once the job is complete there is a dialogue for each chunk, and
these are held side by side while other things happen around them. As soon as one of them halts, the
others may be stopped wherever they are, and the query fails when none is left.
-/

namespace SemanticLayer

/-- What can be noticed of a dialogue from outside. -/
inductive Spoken where
  | asked (call : Call)
  | handed (rows : List Row)

namespace Spoken

def call? : Spoken → Option Call
  | .asked call => some call
  | .handed _ => none

def rows : Spoken → List Row
  | .asked _ => []
  | .handed rows => rows

end Spoken

/-- What can be noticed of the next step of a dialogue. -/
def Dialogue.spoken {δ α : Type} : Dialogue δ α → List Spoken
  | .ask call _ => [.asked call]
  | .deliver rows _ => [.handed rows]
  | _ => []

/-- How far a chunk has come. -/
inductive Worker (δ : Type) where
  | talking (dialogue : Dialogue δ (List Row))
  | finished (rows : List Row)
  | stopped

namespace Worker

variable {δ : Type}

def isTalking : Worker δ → Bool
  | .talking _ => true
  | _ => false

/-- The rows of a chunk that is finished. -/
def rows? : Worker δ → Option (List Row)
  | .finished rows => some rows
  | _ => none

end Worker

/-- How far a query has come. -/
inductive Stage (δ : Type) where
  | starting (dialogue : Dialogue δ JobResult)
  /-- The chunks are fetched; the first of them that halted says why the query fails. -/
  | fetching (job : JobResult) (workers : List (Worker δ)) (failure : Option Halt)
  | over (result : Except Fault QueryResult)

/-- A chunk by its number, or the query itself. -/
abbrev Speaker := Option Nat

/-- A query under way, with all that was noticed of it so far. -/
structure QueryRun (δ σ : Type) where
  stage : Stage δ
  now : Conversation σ
  log : List (Speaker × Spoken)

namespace QueryRun

variable {δ σ : Type}

/-- What a query has come to that is over. -/
def result? (run : QueryRun δ σ) : Option (Except Fault QueryResult) :=
  match run.stage with
  | .over result => some result
  | _ => none

/-- The rows that were handed over, in the order of time. -/
def handed (run : QueryRun δ σ) : List Row :=
  run.log.flatMap (·.2.rows)

def handedBy (run : QueryRun δ σ) (speaker : Speaker) : List Row :=
  (run.log.filter (·.1 == speaker)).flatMap (·.2.rows)

/-- The requests that a chunk or the query itself has sent. -/
def askedBy (run : QueryRun δ σ) (speaker : Speaker) : List Call :=
  (run.log.filter (·.1 == speaker)).filterMap (·.2.call?)

end QueryRun

/-- Whose turn it is. -/
inductive Turn (σ : Type) where
  /-- Something happens around the query. -/
  | outside (change : σ → σ)
  | query
  | chunk (number : Nat)
  /-- A chunk is stopped because another one has halted. -/
  | stop (number : Nat)
  /-- The query ends, since no chunk is under way. -/
  | close

namespace WarehouseClient

variable {δ σ : Type} [Duration δ]

def begin (client : WarehouseClient δ) (sql : String) (limit : Option Int)
    (now : Conversation σ) : QueryRun δ σ :=
  ⟨.starting (client.start sql limit), { now with delivered := 0 }, []⟩

/-- The stage after a job is complete. -/
def opened (client : WarehouseClient δ) (limit : Option Int) (job : JobResult) : Stage δ :=
  match client.chunkStarts limit job with
  | .error fault => .over (.error fault)
  | .ok starts =>
    .fetching job (starts.map fun start => .talking (client.fetchChunk limit job start)) none

def queryTurn (client : WarehouseClient δ) (around : Surroundings δ σ) (limit : Option Int)
    (dialogue : Dialogue δ JobResult) (run : QueryRun δ σ) : QueryRun δ σ :=
  match dialogue with
  | .done job => { run with stage := client.opened limit job }
  | .halted why => { run with stage := .over (.error (run.now.fault why)) }
  | dialogue =>
    let (next, now) := dialogue.step around run.now
    ⟨.starting next, now, run.log ++ dialogue.spoken.map (none, ·)⟩

def chunkTurn (around : Surroundings δ σ) (job : JobResult) (workers : List (Worker δ))
    (failure : Option Halt) (number : Nat) (dialogue : Dialogue δ (List Row))
    (run : QueryRun δ σ) : QueryRun δ σ :=
  match dialogue with
  | .done rows => { run with stage := .fetching job (workers.set number (.finished rows)) failure }
  | .halted why =>
    { run with stage := .fetching job (workers.set number .stopped) (failure.or (some why)) }
  | dialogue =>
    let (next, now) := dialogue.step around run.now
    ⟨.fetching job (workers.set number (.talking next)) failure, now,
      run.log ++ dialogue.spoken.map (some number, ·)⟩

/-- How a query ends whose chunks are all settled. -/
def closed (limit : Option Int) (job : JobResult) (workers : List (Worker δ))
    (failure : Option Halt) (now : Conversation σ) : Option (Except Fault QueryResult) :=
  match failure with
  | some why => if workers.any (·.isTalking) then none else some (.error (now.fault why))
  | none => (workers.mapM Worker.rows?).map fun chunks => .ok (result limit job chunks)

/-- A turn of the run, if it can be taken. A chunk gets turns only while fewer chunks before it are
under way than may be at a time. -/
def turn (client : WarehouseClient δ) (around : Surroundings δ σ) (concurrency : Nat)
    (limit : Option Int) (run : QueryRun δ σ) : Turn σ → Option (QueryRun δ σ)
  | .outside change => some { run with now.world := change run.now.world }
  | .query =>
    match run.stage with
    | .starting dialogue => some (client.queryTurn around limit dialogue run)
    | _ => none
  | .chunk number =>
    match run.stage with
    | .fetching job workers failure =>
      match workers[number]? with
      | some (.talking dialogue) =>
        if (workers.take number).countP (·.isTalking) < concurrency then
          some (chunkTurn around job workers failure number dialogue run)
        else none
      | _ => none
    | _ => none
  | .stop number =>
    match run.stage with
    | .fetching job workers (some why) =>
      match workers[number]? with
      | some (.talking _) =>
        some { run with stage := .fetching job (workers.set number .stopped) (some why) }
      | _ => none
    | _ => none
  | .close =>
    match run.stage with
    | .fetching job workers failure =>
      (closed limit job workers failure run.now).map fun result =>
        { run with stage := .over result }
    | _ => none

/-- The turns one after another, if all of them can be taken. -/
def follow (client : WarehouseClient δ) (around : Surroundings δ σ) (concurrency : Nat)
    (limit : Option Int) : List (Turn σ) → QueryRun δ σ → Option (QueryRun δ σ)
  | [], run => some run
  | turn :: rest, run =>
    (client.turn around concurrency limit run turn).bind
      (client.follow around concurrency limit rest)

end WarehouseClient

end SemanticLayer
