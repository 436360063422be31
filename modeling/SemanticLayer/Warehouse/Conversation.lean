import SemanticLayer.Warehouse.Query
import SemanticLayer.Warehouse.Token

/-!
Dialogues as they are held. The surroundings answer the requests, let time pass, may cancel the
query and take the rows; what they are is left open. A cancelled query is reported with the number
of rows that were handed over, whichever part of it noticed.
-/

namespace SemanticLayer

/-- What is around a client, with states in `σ`. -/
structure Surroundings (δ σ : Type) where
  send : (token : String) → Call → σ → Reply × σ
  pause : δ → σ → σ
  isCancelled : σ → Bool
  deliver : List Row → σ → σ
  environment : σ → String → Option String

/-- The state of the surroundings, the tokens, and the number of rows handed over. -/
structure Conversation (σ : Type) where
  world : σ
  tokens : TokenSource
  delivered : Nat

namespace Conversation

variable {δ σ : Type}

/-- Sends a request with the token that there is. -/
def exchange (around : Surroundings δ σ) (call : Call) (now : Conversation σ) :
    Reply × Conversation σ :=
  let tokens := now.tokens.resolve (around.environment now.world)
  match tokens.current with
  | .error report => (.unsigned report, { now with tokens })
  | .ok token =>
    let (reply, world) := around.send token call now.world
    (reply, { now with tokens, world })

def renew (around : Surroundings δ σ) (now : Conversation σ) : Conversation σ :=
  { now with tokens := now.tokens.renew (around.environment now.world) }

def pause (around : Surroundings δ σ) (time : δ) (now : Conversation σ) : Conversation σ :=
  { now with world := around.pause time now.world }

def deliver (around : Surroundings δ σ) (rows : List Row) (now : Conversation σ) :
    Conversation σ :=
  { now with world := around.deliver rows now.world, delivered := now.delivered + rows.length }

/-- The fault that a halted query ends with. -/
def fault (now : Conversation σ) : Halt → Fault
  | .cancelled => .reported (.cancelled "Query was cancelled" now.delivered)
  | .failed fault => fault

end Conversation

namespace Dialogue

variable {δ σ α : Type}

def step (around : Surroundings δ σ) (dialogue : Dialogue δ α) (now : Conversation σ) :
    Dialogue δ α × Conversation σ :=
  match dialogue with
  | .done result => (.done result, now)
  | .halted why => (.halted why, now)
  | .ask call next =>
    let (reply, later) := now.exchange around call
    (next reply, later)
  | .renew next => (next, now.renew around)
  | .pause time next => (next, now.pause around time)
  | .look next => (next (around.isCancelled now.world), now)
  | .deliver rows next => (next, now.deliver around rows)

/-- Holds a dialogue to its end. -/
def run (around : Surroundings δ σ) (dialogue : Dialogue δ α) (now : Conversation σ) :
    Except Halt α × Conversation σ :=
  match dialogue with
  | .done result => (.ok result, now)
  | .halted why => (.error why, now)
  | .ask call next =>
    let (reply, later) := now.exchange around call
    (next reply).run around later
  | .renew next => next.run around (now.renew around)
  | .pause time next => next.run around (now.pause around time)
  | .look next => (next (around.isCancelled now.world)).run around now
  | .deliver rows next => next.run around (now.deliver around rows)

/-- Holds dialogues one after another, also after one that halts. -/
def runEach (around : Surroundings δ σ) :
    List (Dialogue δ α) → Conversation σ → List (Except Halt α) × Conversation σ
  | [], now => ([], now)
  | dialogue :: rest, now =>
    let (result, later) := dialogue.run around now
    let (results, last) := runEach around rest later
    (result :: results, last)

end Dialogue

namespace WarehouseClient

variable {δ σ : Type} [Duration δ]

/-- Runs a query. -/
def query (client : WarehouseClient δ) (around : Surroundings δ σ) (sql : String)
    (limit : Option Int) (now : Conversation σ) : Except Fault QueryResult × Conversation σ :=
  let (started, later) := (client.start sql limit).run around { now with delivered := 0 }
  match started with
  | .error why => (.error (later.fault why), later)
  | .ok job =>
    match client.chunkStarts limit job with
    | .error fault => (.error fault, later)
    | .ok starts =>
      let (chunks, last) := Dialogue.runEach around (starts.map (client.fetchChunk limit job)) later
      match chunks.mapM id with
      | .error why => (.error (last.fault why), last)
      | .ok chunks => (.ok (result limit job chunks), last)

end WarehouseClient

end SemanticLayer
