import SemanticLayer.Warehouse.Row

/-!
What a client says to the warehouse, step by step. A dialogue is a tree: each step says what is done
next, and what comes back decides how to go on. Nothing is done by the dialogue itself, so that it
can be run in any surroundings, alone or taking turns with others.
-/

namespace SemanticLayer

inductive Method where
  | get
  | post
  deriving Repr, DecidableEq

def Method.code : Method → String
  | .get => "GET"
  | .post => "POST"

/-- A request, without the token that it is signed with. -/
structure Call where
  method : Method
  url : String
  body : Option Json
  parameters : Option (List (String × Json))

/-- What comes of a request. -/
inductive Reply where
  | answered (status : Int) (body : Json)
  /-- No answer came. -/
  | lost (message : String)
  /-- There was no token to send the request with. -/
  | unsigned (report : Report)

/-- Why a dialogue ends without a result. -/
inductive Halt where
  | cancelled
  | failed (fault : Fault)

inductive Dialogue (δ α : Type) where
  | done (result : α)
  | halted (why : Halt)
  | ask (call : Call) (next : Reply → Dialogue δ α)
  /-- Gets a new token. -/
  | renew (next : Dialogue δ α)
  | pause (time : δ) (next : Dialogue δ α)
  /-- Looks whether the query has been cancelled. -/
  | look (next : Bool → Dialogue δ α)
  /-- Hands rows over. -/
  | deliver (rows : List Row) (next : Dialogue δ α)

namespace Dialogue

def bind (dialogue : Dialogue δ α) (f : α → Dialogue δ β) : Dialogue δ β :=
  match dialogue with
  | .done result => f result
  | .halted why => .halted why
  | .ask call next => .ask call fun reply => (next reply).bind f
  | .renew next => .renew (next.bind f)
  | .pause time next => .pause time (next.bind f)
  | .look next => .look fun cancelled => (next cancelled).bind f
  | .deliver rows next => .deliver rows (next.bind f)

instance : Monad (Dialogue δ) where
  pure := .done
  bind := bind

instance : MonadLift (Except Fault) (Dialogue δ) where
  monadLift
    | .ok value => .done value
    | .error fault => .halted (.failed fault)

/-- Goes on only if the query has not been cancelled. -/
def checkCancel : Dialogue δ Unit :=
  .look fun cancelled => if cancelled then .halted .cancelled else .done ()

def handOver (rows : List Row) : Dialogue δ Unit :=
  if rows.isEmpty then .done () else .deliver rows (.done ())

def wait (time : δ) : Dialogue δ Unit :=
  .pause time (.done ())

end Dialogue

end SemanticLayer
