import SemanticLayer.Warehouse.Dialogue
import SemanticLayer.Warehouse.Duration

/-!
Requests that are sent again. What may pass by itself, that is a lost answer, a server at fault or
too many requests, is tried again after a pause that doubles each time; a refused token is renewed
once. All else ends the request.
-/

namespace SemanticLayer

/-- How far a request has come. -/
structure Attempt (δ : Type) where
  retriesLeft : Nat
  /-- The next pause. -/
  backoff : δ
  /-- Whether the token has been renewed. -/
  renewed : Bool
  deriving Repr, DecidableEq

/-- What follows from a reply. -/
inductive Verdict (δ : Type) where
  | accepted (body : Json)
  | retry (after : δ) (next : Attempt δ)
  | renew (next : Attempt δ)
  | refused (fault : Fault)

namespace Attempt

/-- What an answer of an error says. -/
def errorText (status : Int) (body : Json) : Except Fault String := do
  let error := (← Fault.field body "error").orEmpty
  let message ← Fault.field error "message"
  return if message.isTruthy then message.plain else s!"HTTP {status}"

/-- The fault that an error is reported as. -/
def refusal (status : Int) (body : Json) : Fault :=
  match errorText status body with
  | .ok text => .ofKind .queryExecution ("BigQuery Query Error: " ++ text)
  | .error fault => fault

/-- Tries again, or gives up with a fault if no retries are left. -/
def retryOr [Duration δ] (attempt : Attempt δ) (fault : Fault) : Verdict δ :=
  match attempt.retriesLeft with
  | 0 => .refused fault
  | left + 1 =>
    .retry attempt.backoff
      { attempt with retriesLeft := left, backoff := Duration.double attempt.backoff }

def judge [Duration δ] (attempt : Attempt δ) : Reply → Verdict δ
  | .unsigned report => .refused report
  | .lost message =>
    attempt.retryOr (.ofKind .queryExecution ("BigQuery request failed: " ++ message))
  | .answered status body =>
    if status == 401 then
      if attempt.renewed then
        .refused (.ofKind .warehouseAuth "BigQuery rejected the access token after refresh")
      else .renew { attempt with renewed := true }
    else if status == 429 || 500 ≤ status then attempt.retryOr (refusal status body)
    else if 400 ≤ status then .refused (refusal status body)
    else .accepted body

/-- The number of times that the request can still be sent again. -/
def budget (attempt : Attempt δ) : Nat :=
  attempt.retriesLeft + if attempt.renewed then 0 else 1

theorem budget_of_retryOr [Duration δ] {attempt next : Attempt δ} {fault : Fault} {after : δ}
    (h : attempt.retryOr fault = .retry after next) : next.budget < attempt.budget := by
  unfold retryOr at h
  split at h
  · cases h
  · rename_i left hleft
    cases h
    simp only [budget, hleft]
    omega

theorem retryOr_ne_renew [Duration δ] {attempt next : Attempt δ} {fault : Fault} :
    attempt.retryOr fault ≠ .renew next := by
  unfold retryOr
  split <;> simp

theorem budget_of_retry [Duration δ] {attempt next : Attempt δ} {reply : Reply} {after : δ}
    (h : attempt.judge reply = .retry after next) : next.budget < attempt.budget := by
  unfold judge at h
  split at h
  · cases h
  · exact budget_of_retryOr h
  · split at h
    · split at h <;> cases h
    · split at h
      · exact budget_of_retryOr h
      · split at h <;> cases h

theorem budget_of_renew [Duration δ] {attempt next : Attempt δ} {reply : Reply}
    (h : attempt.judge reply = .renew next) : next.budget < attempt.budget := by
  unfold judge at h
  split at h
  · cases h
  · exact absurd h retryOr_ne_renew
  · split at h
    · split at h
      · cases h
      · rename_i fresh
        cases h
        simp_all [budget]
    · split at h
      · exact absurd h retryOr_ne_renew
      · split at h <;> cases h

/-- Sends a request until it is settled. -/
def send [Duration δ] (attempt : Attempt δ) (call : Call) : Dialogue δ Json :=
  .ask call fun reply =>
    match _h : attempt.judge reply with
    | .accepted body => .done body
    | .retry after next => .pause after (next.send call)
    | .renew next => .renew (next.send call)
    | .refused fault => .halted (.failed fault)
termination_by attempt.budget
decreasing_by
  · exact budget_of_retry _h
  · exact budget_of_renew _h

end Attempt

end SemanticLayer
