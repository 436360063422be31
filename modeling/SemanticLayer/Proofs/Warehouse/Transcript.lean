import SemanticLayer.Proofs.Warehouse.Dialogue

/-!
What happens while a dialogue is held to its end, in the order of time. A dialogue that goes on with
another one makes the events of the first and then, if that one comes to a result, those of the
second.
-/

namespace SemanticLayer

/-- What happens at a step of a dialogue. -/
inductive Event (δ : Type) where
  | asked (call : Call) (reply : Reply)
  | renewed
  | paused (time : δ)
  | looked (cancelled : Bool)
  | handed (rows : List Row)

namespace Event

variable {δ : Type}

def reply? : Event δ → Option Reply
  | .asked _ reply => some reply
  | _ => none

def pause? : Event δ → Option δ
  | .paused time => some time
  | _ => none

def isRenewal : Event δ → Bool
  | .renewed => true
  | _ => false

/-- The replies to requests, in the order of time. -/
def replies (events : List (Event δ)) : List Reply :=
  events.filterMap reply?

/-- The lengths of the pauses, in the order of time. -/
def pauses (events : List (Event δ)) : List δ :=
  events.filterMap pause?

/-- How often a new token was asked for. -/
def renewals (events : List (Event δ)) : Nat :=
  events.countP isRenewal

variable {events more : List (Event δ)}

@[simp] theorem replies_nil : replies ([] : List (Event δ)) = [] := rfl

@[simp] theorem replies_asked (call : Call) (reply : Reply) :
    replies (.asked call reply :: events) = reply :: replies events := rfl

@[simp] theorem replies_renewed : replies (.renewed :: events) = replies events := rfl

@[simp] theorem replies_paused (time : δ) : replies (.paused time :: events) = replies events := rfl

@[simp] theorem replies_looked (cancelled : Bool) :
    replies (.looked cancelled :: events) = replies events := rfl

@[simp] theorem replies_handed (rows : List Row) :
    replies (.handed rows :: events) = replies events := rfl

@[simp] theorem replies_append : replies (events ++ more) = replies events ++ replies more :=
  List.filterMap_append

@[simp] theorem pauses_nil : pauses ([] : List (Event δ)) = [] := rfl

@[simp] theorem pauses_asked (call : Call) (reply : Reply) :
    pauses (.asked call reply :: events) = pauses events := rfl

@[simp] theorem pauses_renewed : pauses (.renewed :: events) = pauses events := rfl

@[simp] theorem pauses_paused (time : δ) :
    pauses (.paused time :: events) = time :: pauses events := rfl

@[simp] theorem renewals_nil : renewals ([] : List (Event δ)) = 0 := rfl

@[simp] theorem renewals_asked (call : Call) (reply : Reply) :
    renewals (.asked call reply :: events) = renewals events := rfl

@[simp] theorem renewals_renewed : renewals (.renewed :: events) = renewals events + 1 :=
  List.countP_cons_of_pos rfl

@[simp] theorem renewals_paused (time : δ) :
    renewals (.paused time :: events) = renewals events := rfl

end Event

namespace Dialogue

variable {δ σ α β : Type}

/-- What happens while a dialogue is held to its end. -/
def events (around : Surroundings δ σ) (dialogue : Dialogue δ α) (now : Conversation σ) :
    List (Event δ) :=
  match dialogue with
  | .done _ | .halted _ => []
  | .ask call next =>
    let (reply, later) := now.exchange around call
    .asked call reply :: (next reply).events around later
  | .renew next => .renewed :: next.events around (now.renew around)
  | .pause time next => .paused time :: next.events around (now.pause around time)
  | .look next =>
    let cancelled := around.isCancelled now.world
    .looked cancelled :: (next cancelled).events around now
  | .deliver rows next => .handed rows :: next.events around (now.deliver around rows)

variable (around : Surroundings δ σ) (f : α → Dialogue δ β)

theorem run_bind (dialogue : Dialogue δ α) (now : Conversation σ) :
    (dialogue.bind f).run around now =
      match dialogue.run around now with
      | (.ok a, later) => (f a).run around later
      | (.error why, later) => (.error why, later) := by
  induction dialogue generalizing now with
  | done | halted => rfl
  | ask call next ih => exact ih _ _
  | renew next ih => exact ih _
  | pause time next ih => exact ih _
  | look next ih => exact ih _ _
  | deliver rows next ih => exact ih _

theorem events_bind (dialogue : Dialogue δ α) (now : Conversation σ) :
    (dialogue.bind f).events around now =
      dialogue.events around now ++
        match dialogue.run around now with
        | (.ok a, later) => (f a).events around later
        | (.error _, _) => [] := by
  induction dialogue generalizing now with
  | done | halted => rfl
  | ask call next ih => exact congrArg _ (ih _ _)
  | renew next ih => exact congrArg _ (ih _)
  | pause time next ih => exact congrArg _ (ih _)
  | look next ih => exact congrArg _ (ih _ _)
  | deliver rows next ih => exact congrArg _ (ih _)

end Dialogue

end SemanticLayer
