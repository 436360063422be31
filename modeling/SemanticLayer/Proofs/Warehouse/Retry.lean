import Mathlib
import SemanticLayer.Proofs.Warehouse.Sequential
import SemanticLayer.Proofs.Warehouse.Transcript

/-!
Requests that are sent again. A request is settled by a reply that no further sending can change, or
when all of its retries are used up. Until then every failure that may pass is followed by a pause,
each twice as long as the one before, and the first refusal of the token by a new token.
-/

namespace SemanticLayer

/-! ### Replies -/

namespace Reply

/-- A failure that may pass by itself. -/
def MayPass : Reply → Prop
  | .answered status _ => status = 429 ∨ 500 ≤ status
  | .lost _ => True
  | .unsigned _ => False

/-- What a warehouse may reply to a request that is signed: nothing, or an object that says what the
error is, if there is one, in an object. -/
def IsRegular : Reply → Prop
  | .answered _ body => ∃ fields, body = .object fields ∧
      (body.field "error" = .null ∨ ∃ error, body.field "error" = .object error)
  | .lost _ => True
  | .unsigned _ => False

/-- The token was refused. -/
def IsUnauthorized (reply : Reply) : Prop :=
  ∃ body, reply = .answered 401 body

/-- After the earlier replies to a request, this one leaves nothing to be tried: the request is
answered, it is refused for a reason that stays, or the token is refused once more. -/
def Settles (earlier : List Reply) (reply : Reply) : Prop :=
  (∃ status body, reply = .answered status body ∧
    (status < 400 ∨ 400 ≤ status ∧ status < 500 ∧ status ≠ 401 ∧ status ≠ 429)) ∨
  reply.IsUnauthorized ∧ ∃ before ∈ earlier, before.IsUnauthorized

theorem MayPass.not_isUnauthorized {reply : Reply} (h : reply.MayPass) : ¬reply.IsUnauthorized := by
  rintro ⟨body, rfl⟩
  simp [MayPass] at h

theorem MayPass.not_settles {reply : Reply} {earlier : List Reply} (h : reply.MayPass) :
    ¬reply.Settles earlier := by
  rintro (⟨status, body, rfl, hstatus⟩ | ⟨hrefused, -⟩)
  · simp only [MayPass] at h
    omega
  · exact h.not_isUnauthorized hrefused

end Reply

/-- The kind of fault that a dialogue halts for. -/
def Halt.kind? : Halt → Option ErrorKind
  | .cancelled => some .queryCancelled
  | .failed (.reported report) => some report.kind
  | .failed _ => none

/-- The dialogue halted for a fault of the kind. -/
def HaltedFor {α : Type} (kind : ErrorKind) (outcome : Except Halt α) : Prop :=
  ∃ why, outcome = .error why ∧ why.kind? = some kind

/-- The token was refused once more after it had been renewed. -/
def Event.RefusedAgain {δ : Type} (events : List (Event δ)) : Prop :=
  ∃ before after, events = before ++ .renewed :: after ∧
    ∃ reply ∈ replies after, reply.IsUnauthorized

/-- A step that is no renewal has nothing to do with it. -/
theorem Event.refusedAgain_cons {δ : Type} {event : Event δ} {events : List (Event δ)}
    (h : event.isRenewal = false) : RefusedAgain (event :: events) ↔ RefusedAgain events := by
  constructor
  · rintro ⟨_ | ⟨first, before⟩, after, hevents, hafter⟩
    · obtain ⟨rfl, -⟩ := List.cons.inj hevents
      cases h
    · exact ⟨before, after, (List.cons.inj hevents).2, hafter⟩
  · rintro ⟨before, after, rfl, hafter⟩
    exact ⟨event :: before, after, rfl, hafter⟩

theorem Event.not_refusedAgain_asked {δ : Type} {call : Call} {reply : Reply} :
    ¬RefusedAgain ([.asked call reply] : List (Event δ)) := by
  rw [refusedAgain_cons rfl]
  rintro ⟨before, after, hevents, -⟩
  simp at hevents

theorem Event.refusedAgain_renewed {δ : Type} {events : List (Event δ)} :
    RefusedAgain (.renewed :: events) ↔ ∃ reply ∈ replies events, reply.IsUnauthorized := by
  constructor
  · rintro ⟨_ | ⟨first, before⟩, after, hevents, reply, hreply, hunauthorized⟩
    · obtain ⟨-, rfl⟩ := List.cons.inj hevents
      exact ⟨reply, hreply, hunauthorized⟩
    · obtain ⟨-, rfl⟩ := List.cons.inj hevents
      exact ⟨reply, by simp [hreply], hunauthorized⟩
  · exact fun hunauthorized => ⟨[], events, rfl, hunauthorized⟩

/-! ### Verdicts -/

namespace Attempt

variable {δ : Type} [Duration δ] {attempt next : Attempt δ} {reply : Reply} {after : δ}
  {fault : Fault}

theorem judge_eq_retry (h : attempt.judge reply = .retry after next) :
    reply.MayPass ∧ ∃ left, attempt.retriesLeft = left + 1 ∧ after = attempt.backoff ∧
      next = { attempt with retriesLeft := left, backoff := Duration.double attempt.backoff } := by
  have hretry : ∀ fault, attempt.retryOr fault = .retry after next →
      ∃ left, attempt.retriesLeft = left + 1 ∧ after = attempt.backoff ∧
        next = { attempt with retriesLeft := left, backoff := Duration.double attempt.backoff } := by
    intro fault hfault
    unfold retryOr at hfault
    split at hfault
    · cases hfault
    · rename_i left hleft
      obtain ⟨rfl, rfl⟩ := Verdict.retry.inj hfault
      exact ⟨left, hleft, rfl, rfl⟩
  cases reply with
  | unsigned report => cases h
  | lost message => exact ⟨trivial, hretry _ h⟩
  | answered status body =>
    unfold judge at h
    dsimp only at h
    split_ifs at h with hunauthorized hrenewed hpasses hstatus
    exact ⟨by simpa [Reply.MayPass] using hpasses, hretry _ h⟩

theorem judge_eq_renew (h : attempt.judge reply = .renew next) :
    reply.IsUnauthorized ∧ attempt.renewed = false ∧ next = { attempt with renewed := true } := by
  cases reply with
  | unsigned report => cases h
  | lost message => exact absurd h retryOr_ne_renew
  | answered status body =>
    unfold judge at h
    dsimp only at h
    split_ifs at h with hunauthorized hrenewed hpasses hstatus
    · obtain rfl : status = 401 := by simpa using hunauthorized
      exact ⟨⟨body, rfl⟩, by simpa using hrenewed, (Verdict.renew.inj h).symm⟩
    · exact absurd h retryOr_ne_renew

theorem judge_of_lt {status : Int} (body : Json) (h : status < 400) :
    attempt.judge (.answered status body) = .accepted body := by
  have hunauthorized : ¬(status == 401) = true := by simp; omega
  have hpasses : ¬(status == 429 || 500 ≤ status) = true := by simp; omega
  have hstatus : ¬400 ≤ status := by omega
  simp only [judge, if_neg hunauthorized, if_neg hpasses, if_neg hstatus]

/-- An error that is reported as it should be is an error of the query. -/
theorem kind?_refusal {status : Int} {body : Json} (h : (Reply.answered status body).IsRegular) :
    (Halt.failed (refusal status body)).kind? = some .queryExecution := by
  obtain ⟨fields, rfl, herror⟩ := h
  have hempty : ∃ error, ((Json.object fields).field "error").orEmpty = .object error := by
    rcases herror with hnull | ⟨error, herror⟩
    · exact ⟨[], by rw [hnull]; rfl⟩
    · rw [herror]
      unfold Json.orEmpty
      split
      · exact ⟨error, rfl⟩
      · exact ⟨[], rfl⟩
  obtain ⟨error, herror⟩ := hempty
  have htext : errorText status (.object fields) =
      .ok (if ((Json.object error).field "message").isTruthy then
        ((Json.object error).field "message").plain else s!"HTTP {status}") := by
    refine bind_eq_ok.2 ⟨_, rfl, bind_eq_ok.2 ⟨_, ?_, rfl⟩⟩
    rw [herror]
    rfl
  rw [refusal, htext]
  rfl

/-- A request that is refused has failed: for the second time for want of a valid token, or for
another reason, which stays or has stayed through all retries. -/
theorem judge_eq_refused_cases (hreply : reply.IsRegular)
    (h : attempt.judge reply = .refused fault) :
    (Halt.failed fault).kind? = some .warehouseAuth ∧ reply.IsUnauthorized ∧
        attempt.renewed = true ∨
      (Halt.failed fault).kind? = some .queryExecution ∧ ¬reply.IsUnauthorized ∧
        (reply.MayPass → attempt.retriesLeft = 0) := by
  have hgiven : ∀ other, attempt.retryOr other = .refused fault →
      fault = other ∧ attempt.retriesLeft = 0 := by
    intro other hother
    unfold retryOr at hother
    split at hother
    · rename_i hleft
      exact ⟨(Verdict.refused.inj hother).symm, hleft⟩
    · cases hother
  cases reply with
  | unsigned report => exact hreply.elim
  | lost message =>
    obtain ⟨rfl, hleft⟩ := hgiven _ h
    exact .inr ⟨rfl, fun ⟨_, hbody⟩ => (by cases hbody), fun _ => hleft⟩
  | answered status body =>
    have hkind := kind?_refusal hreply
    unfold judge at h
    dsimp only at h
    split_ifs at h with hunauthorized hrenewed hpasses hstatus
    · obtain rfl := Verdict.refused.inj h
      obtain rfl : status = 401 := by simpa using hunauthorized
      exact .inl ⟨rfl, ⟨body, rfl⟩, hrenewed⟩
    · obtain ⟨rfl, hleft⟩ := hgiven _ h
      exact .inr ⟨hkind, fun ⟨_, hbody⟩ => hunauthorized (by cases hbody; rfl), fun _ => hleft⟩
    · obtain rfl := Verdict.refused.inj h
      refine .inr ⟨hkind, fun ⟨_, hbody⟩ => hunauthorized (by cases hbody; rfl), fun hmay => ?_⟩
      exact absurd (by simpa [Reply.MayPass] using hmay) hpasses

/-! ### Courses -/

/-- How a request goes: the replies to it with what is done between them, and what it comes to. -/
inductive Course (call : Call) : Attempt δ → List (Event δ) → Except Halt Json → Prop
  | accepted {attempt : Attempt δ} {reply : Reply} {body : Json}
      (h : attempt.judge reply = .accepted body) :
      Course call attempt [.asked call reply] (.ok body)
  | refused {attempt : Attempt δ} {reply : Reply} {fault : Fault}
      (h : attempt.judge reply = .refused fault) :
      Course call attempt [.asked call reply] (.error (.failed fault))
  | retry {attempt next : Attempt δ} {reply : Reply} {after : δ} {events : List (Event δ)}
      {outcome : Except Halt Json} (h : attempt.judge reply = .retry after next)
      (later : Course call next events outcome) :
      Course call attempt (.asked call reply :: .paused after :: events) outcome
  | renew {attempt next : Attempt δ} {reply : Reply} {events : List (Event δ)}
      {outcome : Except Halt Json} (h : attempt.judge reply = .renew next)
      (later : Course call next events outcome) :
      Course call attempt (.asked call reply :: .renewed :: events) outcome

/-- A request goes as the verdicts on its replies say, whatever is around it. -/
theorem course_send {σ : Type} (around : Surroundings δ σ) (attempt : Attempt δ) (call : Call)
    (now : Conversation σ) :
    Course call attempt ((attempt.send call).events around now)
      ((attempt.send call).run around now).1 := by
  fun_induction Attempt.send attempt call generalizing now with
  | case1 attempt ihretry ihrenew =>
    rw [Dialogue.events, Dialogue.run]
    generalize now.exchange around call = exchanged
    obtain ⟨reply, later⟩ := exchanged
    dsimp only
    split
    · rename_i body hjudge
      exact .accepted hjudge
    · rename_i after next hjudge
      exact .retry hjudge (ihretry reply after next hjudge _)
    · rename_i next hjudge
      exact .renew hjudge (ihrenew reply next hjudge _)
    · rename_i fault hjudge
      exact .refused hjudge

namespace Course

open Event

variable {call : Call} {events : List (Event δ)} {outcome : Except Halt Json}

/-- Every sending but the first uses up a retry or the new token. -/
theorem length_replies_le (h : Course call attempt events outcome) :
    (replies events).length ≤ attempt.budget + 1 := by
  induction h with
  | accepted | refused => simp
  | retry h _ ih =>
    have hbudget := budget_of_retry h
    simp only [replies_asked, replies_paused, List.length_cons]
    omega
  | renew h _ ih =>
    have hbudget := budget_of_renew h
    simp only [replies_asked, replies_renewed, List.length_cons]
    omega

theorem renewals_le (h : Course call attempt events outcome) :
    renewals events ≤ if attempt.renewed then 0 else 1 := by
  induction h with
  | accepted | refused => simp
  | retry h _ ih =>
    obtain ⟨-, left, -, -, rfl⟩ := judge_eq_retry h
    simpa using ih
  | renew h _ ih =>
    obtain ⟨-, hrenewed, rfl⟩ := judge_eq_renew h
    simpa [hrenewed] using ih

theorem replies_ne_nil (h : Course call attempt events outcome) : replies events ≠ [] := by
  cases h <;> simp

/-- The last reply to a request that was sent again is the last one to what was sent then. -/
theorem getLast?_cons_replies (h : Course call attempt events outcome) (reply : Reply) :
    (reply :: replies events).getLast? = (replies events).getLast? := by
  rw [List.getLast?_cons_of_ne_nil h.replies_ne_nil]

/-- The pauses double, and each uses up a retry. -/
theorem pauses_eq {attempt : Attempt Rat} {events : List (Event Rat)}
    (h : Course call attempt events outcome) :
    ∃ count ≤ attempt.retriesLeft,
      pauses events = (List.range count).map fun k => attempt.backoff * 2 ^ k := by
  induction h with
  | accepted | refused => exact ⟨0, Nat.zero_le _, rfl⟩
  | @retry attempt next reply after events outcome h _ ih =>
    obtain ⟨-, left, hleft, rfl, rfl⟩ := judge_eq_retry h
    obtain ⟨count, hcount, hpauses⟩ := ih
    refine ⟨count + 1, by rw [hleft]; exact Nat.succ_le_succ hcount, ?_⟩
    rw [pauses_asked, pauses_paused, hpauses, List.range_succ_eq_map, List.map_cons, List.map_map,
      pow_zero, mul_one]
    refine congrArg _ (List.map_congr_left fun k _ => ?_)
    change attempt.backoff * 2 * 2 ^ k = attempt.backoff * 2 ^ (k + 1)
    ring
  | renew h _ ih =>
    obtain ⟨-, -, rfl⟩ := judge_eq_renew h
    exact ih

/-- The request ends with the body of its last reply if that one is no error, and otherwise
without a result. -/
theorem accepted_iff (h : Course call attempt events outcome) (body : Json) :
    outcome = .ok body ↔
      ∃ status < 400, (replies events).getLast? = some (.answered status body) := by
  induction h with
  | accepted h =>
    obtain ⟨status, rfl, hstatus⟩ := judge_eq_accepted h
    constructor
    · rintro ⟨⟩
      exact ⟨status, hstatus, rfl⟩
    · rintro ⟨_, -, ⟨⟩⟩
      rfl
  | refused h =>
    constructor
    · rintro ⟨⟩
    · rintro ⟨status, hstatus, ⟨⟩⟩
      rw [judge_of_lt body hstatus] at h
      cases h
  | retry _ later ih =>
    rw [replies_asked, replies_paused, later.getLast?_cons_replies]
    exact ih
  | renew _ later ih =>
    rw [replies_asked, replies_renewed, later.getLast?_cons_replies]
    exact ih

/-- Nothing is sent after a reply that leaves nothing to be tried. The replies that were seen before
the course began tell whether the token has been renewed. -/
theorem settled (h : Course call attempt events outcome) (seen : List Reply)
    (hseen : attempt.renewed = true ↔ ∃ before ∈ seen, before.IsUnauthorized)
    {earlier later : List Reply} {reply : Reply} (hreplies : replies events = earlier ++ reply :: later)
    (hsettles : reply.Settles (seen ++ earlier)) : later = [] := by
  induction h generalizing seen earlier with
  | accepted | refused =>
    cases earlier with
    | nil => exact (List.cons.inj hreplies).2.symm
    | cons before earlier => simp at hreplies
  | retry h _ ih =>
    obtain ⟨hmay, left, -, -, rfl⟩ := judge_eq_retry h
    cases earlier with
    | nil =>
      obtain ⟨rfl, -⟩ := List.cons.inj hreplies
      exact absurd hsettles hmay.not_settles
    | cons before earlier =>
      obtain ⟨rfl, hrest⟩ := List.cons.inj hreplies
      refine ih (seen ++ [_]) (hseen.trans ?_) hrest (by simpa using hsettles)
      simp [hmay.not_isUnauthorized, or_and_right, exists_or]
  | renew h _ ih =>
    obtain ⟨hunauthorized, hrenewed, rfl⟩ := judge_eq_renew h
    cases earlier with
    | nil =>
      obtain ⟨rfl, -⟩ := List.cons.inj hreplies
      rcases hsettles with ⟨status, body, rfl, hstatus⟩ | ⟨-, hbefore⟩
      · obtain ⟨_, ⟨⟩⟩ := hunauthorized
        omega
      · rw [List.append_nil, ← hseen, hrenewed] at hbefore
        cases hbefore
    | cons before earlier =>
      obtain ⟨rfl, hrest⟩ := List.cons.inj hreplies
      refine ih (seen ++ [_]) ?_ hrest (by simpa using hsettles)
      exact ⟨fun _ => ⟨_, by simp, hunauthorized⟩, fun _ => rfl⟩

/-- After the renewal a refused token is the fault of the request, and nothing else is reported as
such. -/
theorem haltedFor_unauthorized_iff_of_renewed (h : Course call attempt events outcome)
    (hregular : ∀ reply ∈ replies events, reply.IsRegular) (hrenewed : attempt.renewed = true) :
    HaltedFor .warehouseAuth outcome ↔ ∃ reply ∈ replies events, reply.IsUnauthorized := by
  induction h with
  | accepted h =>
    obtain ⟨status, rfl, hstatus⟩ := judge_eq_accepted h
    constructor
    · rintro ⟨_, ⟨⟩, -⟩
    · rintro ⟨reply, hreply, body, rfl⟩
      obtain ⟨rfl, -⟩ := Reply.answered.inj (List.mem_singleton.1 hreply)
      cases hstatus
  | @refused attempt reply fault h =>
    rcases judge_eq_refused_cases (hregular reply (by simp)) h with
      ⟨hkind, hunauthorized, -⟩ | ⟨hkind, hunauthorized, -⟩
    · exact ⟨fun _ => ⟨reply, by simp, hunauthorized⟩, fun _ => ⟨_, rfl, hkind⟩⟩
    · constructor
      · rintro ⟨_, ⟨⟩, hother⟩
        rw [hkind] at hother
        cases hother
      · rintro ⟨other, hother, hrefused⟩
        exact absurd (List.mem_singleton.1 hother ▸ hrefused) hunauthorized
  | retry h _ ih =>
    obtain ⟨hmay, left, -, -, rfl⟩ := judge_eq_retry h
    simp only [replies_asked, replies_paused, List.forall_mem_cons] at hregular
    rw [ih hregular.2 hrenewed, replies_asked, replies_paused, List.exists_mem_cons_iff,
      or_iff_right hmay.not_isUnauthorized]
  | renew h _ _ =>
    obtain ⟨-, hfresh, -⟩ := judge_eq_renew h
    rw [hrenewed] at hfresh
    cases hfresh

theorem haltedFor_unauthorized_iff (h : Course call attempt events outcome)
    (hregular : ∀ reply ∈ replies events, reply.IsRegular) (hfresh : attempt.renewed = false) :
    HaltedFor .warehouseAuth outcome ↔ RefusedAgain events := by
  induction h with
  | accepted h =>
    refine iff_of_false ?_ not_refusedAgain_asked
    rintro ⟨_, ⟨⟩, -⟩
  | @refused attempt reply fault h =>
    rcases judge_eq_refused_cases (hregular reply (by simp)) h with
      ⟨-, -, hrenewed⟩ | ⟨hkind, -, -⟩
    · rw [hfresh] at hrenewed
      cases hrenewed
    · refine iff_of_false ?_ not_refusedAgain_asked
      rintro ⟨_, ⟨⟩, hother⟩
      rw [hkind] at hother
      cases hother
  | retry h _ ih =>
    obtain ⟨-, left, -, -, rfl⟩ := judge_eq_retry h
    simp only [replies_asked, replies_paused, List.forall_mem_cons] at hregular
    rw [ih hregular.2 hfresh, refusedAgain_cons rfl, refusedAgain_cons rfl]
  | renew h later _ =>
    obtain ⟨-, -, rfl⟩ := judge_eq_renew h
    simp only [replies_asked, replies_renewed, List.forall_mem_cons] at hregular
    rw [later.haltedFor_unauthorized_iff_of_renewed hregular.2 rfl, refusedAgain_cons rfl,
      refusedAgain_renewed]

theorem haltedFor_cases (h : Course call attempt events outcome)
    (hregular : ∀ reply ∈ replies events, reply.IsRegular) (hfailed : ∀ body, outcome ≠ .ok body) :
    HaltedFor .warehouseAuth outcome ∨ HaltedFor .queryExecution outcome := by
  induction h with
  | accepted => exact absurd rfl (hfailed _)
  | @refused attempt reply fault h =>
    rcases judge_eq_refused_cases (hregular reply (by simp)) h with ⟨hkind, -⟩ | ⟨hkind, -⟩
    · exact .inl ⟨_, rfl, hkind⟩
    · exact .inr ⟨_, rfl, hkind⟩
  | retry _ _ ih => exact ih (fun reply hreply => hregular reply (by simp [hreply])) hfailed
  | renew _ _ ih => exact ih (fun reply hreply => hregular reply (by simp [hreply])) hfailed

/-- A request is given up after a failure that may pass only when it has no retries left. -/
theorem length_pauses_of_mayPass (h : Course call attempt events outcome)
    (hregular : ∀ reply ∈ replies events, reply.IsRegular) {reply : Reply}
    (hlast : (replies events).getLast? = some reply) (hmay : reply.MayPass) :
    (pauses events).length = attempt.retriesLeft := by
  induction h with
  | accepted h =>
    obtain ⟨status, rfl, hstatus⟩ := judge_eq_accepted h
    rw [replies_asked, replies_nil, List.getLast?_singleton] at hlast
    obtain rfl := Option.some.inj hlast
    simp only [Reply.MayPass] at hmay
    omega
  | refused h =>
    rw [replies_asked, replies_nil, List.getLast?_singleton] at hlast
    obtain rfl := Option.some.inj hlast
    rcases judge_eq_refused_cases (hregular _ (by simp)) h with
      ⟨-, hunauthorized, -⟩ | ⟨-, -, hleft⟩
    · exact absurd hunauthorized hmay.not_isUnauthorized
    · exact (hleft hmay).symm
  | retry h later ih =>
    obtain ⟨-, left, hleft, -, rfl⟩ := judge_eq_retry h
    rw [replies_asked, replies_paused, later.getLast?_cons_replies] at hlast
    rw [pauses_asked, pauses_paused, List.length_cons, hleft,
      ih (fun other hother => hregular other (by simp [hother])) hlast]
  | renew h later ih =>
    obtain ⟨-, -, rfl⟩ := judge_eq_renew h
    rw [replies_asked, replies_renewed, later.getLast?_cons_replies] at hlast
    exact ih (fun other hother => hregular other (by simp [hother])) hlast

end Course

end Attempt

/-! ### Tokens -/

theorem TokenSource.someToken_someToken {token : Option String} {found : String}
    (h : someToken token = some found) : someToken (some found) = some found := by
  obtain ⟨-, hfound⟩ := Option.filter_eq_some_iff.1 h
  exact Option.filter_eq_some_iff.2 ⟨rfl, hfound⟩

namespace Conversation

variable {δ σ : Type} {around : Surroundings δ σ} {now : Conversation σ}

/-- There is a token to send a request with. -/
def IsSupplied (around : Surroundings δ σ) (now : Conversation σ) : Prop :=
  ∃ token, (now.tokens.resolve (around.environment now.world)).current = .ok token

/-- The token is known, so that no request is without one from here on. -/
def HasToken (now : Conversation σ) : Prop :=
  ∃ token, TokenSource.someToken now.tokens.token = some token

theorem HasToken.isSupplied (h : now.HasToken) : now.IsSupplied around := by
  obtain ⟨token, htoken⟩ := h
  refine ⟨token, ?_⟩
  simp only [TokenSource.current, TokenSource.resolve, htoken, Option.some_or,
    TokenSource.someToken_someToken htoken]

theorem HasToken.renew (h : now.HasToken) : (now.renew around).HasToken := by
  unfold HasToken Conversation.renew TokenSource.renew
  dsimp only
  cases hfound : TokenSource.someToken (around.environment now.world now.tokens.key) with
  | none => exact h
  | some found => exact ⟨found, TokenSource.someToken_someToken hfound⟩

/-- With a token a request is sent, and the token stays. -/
theorem IsSupplied.exchange (h : now.IsSupplied around) (call : Call) :
    (∃ token, (now.exchange around call).1 = (around.send token call now.world).1) ∧
      (now.exchange around call).2.HasToken := by
  obtain ⟨token, htoken⟩ := h
  unfold Conversation.exchange
  simp only [htoken]
  refine ⟨⟨token, rfl⟩, ?_⟩
  unfold TokenSource.current at htoken
  split at htoken
  · exact ⟨_, ‹_›⟩
  · cases htoken

end Conversation

/-- Whatever is sent, the warehouse replies as it may. -/
def Surroundings.IsRegular {δ σ : Type} (around : Surroundings δ σ) : Prop :=
  ∀ token call world, (around.send token call world).1.IsRegular

namespace Dialogue

variable {δ σ α : Type} {around : Surroundings δ σ} {now : Conversation σ}

open Event

/-- Where the token is known, all replies are those of the warehouse. -/
theorem regular_of_hasToken (haround : around.IsRegular) (dialogue : Dialogue δ α)
    (h : now.HasToken) : ∀ reply ∈ replies (dialogue.events around now), reply.IsRegular := by
  induction dialogue generalizing now with
  | done | halted => simp [events]
  | ask call next ih =>
    have hsupplied : now.IsSupplied around := h.isSupplied
    obtain ⟨⟨token, hreply⟩, hlater⟩ := hsupplied.exchange call
    rw [events]
    simp only [replies_asked, List.forall_mem_cons]
    exact ⟨hreply ▸ haround token call now.world, ih _ hlater⟩
  | renew next ih => exact ih h.renew
  | pause time next ih => exact ih h
  | look next ih => exact ih _ h
  | deliver rows next ih => exact ih h

theorem regular_send [Duration δ] (haround : around.IsRegular) (attempt : Attempt δ) (call : Call)
    (h : now.IsSupplied around) :
    ∀ reply ∈ replies ((attempt.send call).events around now), reply.IsRegular := by
  obtain ⟨⟨token, hreply⟩, hlater⟩ := h.exchange call
  rw [Attempt.send, events]
  simp only [replies_asked, List.forall_mem_cons]
  exact ⟨hreply ▸ haround token call now.world, regular_of_hasToken haround _ hlater⟩

end Dialogue

/-! ### Bounds -/

open Event in
/-- What is promised of a request with a number of retries and a first pause, by what happens until
it is settled and by its outcome. -/
structure SettledInTime (maxRetries : Nat) (backoff : Rat) (events : List (Event Rat))
    (outcome : Except Halt Json) : Prop where
  sent : replies events ≠ []
  sent_le : (replies events).length ≤ maxRetries + 2
  renewals_le : renewals events ≤ 1
  pauses_eq : ∃ count ≤ maxRetries,
    pauses events = (List.range count).map fun k => backoff * 2 ^ k
  settled : ∀ earlier reply later, replies events = earlier ++ reply :: later →
    reply.Settles earlier → later = []
  /-- A failure that may pass is not the end while there are retries left. -/
  persists : ∀ reply, (replies events).getLast? = some reply → reply.MayPass →
    (pauses events).length = maxRetries
  accepted_iff : ∀ body, outcome = .ok body ↔
    ∃ status < 400, (replies events).getLast? = some (.answered status body)
  unauthorized_iff : HaltedFor .warehouseAuth outcome ↔ RefusedAgain events
  failed : (∀ body, outcome ≠ .ok body) → ¬RefusedAgain events →
    HaltedFor .queryExecution outcome

/-- However replies and lost answers follow one another, a request for which there are tokens is
settled after a bounded number of sendings. -/
theorem WarehouseClient.send_settledInTime {σ : Type} (client : WarehouseClient Rat)
    {around : Surroundings Rat σ} (haround : around.IsRegular) {now : Conversation σ}
    (hsupplied : now.IsSupplied around) (call : Call) :
    SettledInTime client.maxRetries client.initialBackoff
      ((client.send call).events around now) ((client.send call).run around now).1 := by
  have hcourse := Attempt.course_send around
    ⟨client.maxRetries, client.initialBackoff, false⟩ call now
  have hregular := Dialogue.regular_send haround
    ⟨client.maxRetries, client.initialBackoff, false⟩ call hsupplied
  exact
    { sent := hcourse.replies_ne_nil
      sent_le := hcourse.length_replies_le
      renewals_le := hcourse.renewals_le
      pauses_eq := hcourse.pauses_eq
      settled := fun earlier reply later hreplies hsettles =>
        hcourse.settled [] (by simp) hreplies hsettles
      persists := fun reply hlast hmay => hcourse.length_pauses_of_mayPass hregular hlast hmay
      accepted_iff := hcourse.accepted_iff
      unauthorized_iff := hcourse.haltedFor_unauthorized_iff hregular rfl
      failed := fun hfailed hagain => (hcourse.haltedFor_cases hregular hfailed).resolve_left
        fun h => hagain ((hcourse.haltedFor_unauthorized_iff hregular rfl).1 h) }

/-- Surroundings that reply one thing after another, and then nothing. -/
def replying (replies : List Reply) : Surroundings Rat Nat :=
  { send := fun _ _ sent => (replies.getD sent (.lost ""), sent + 1), pause := fun _ sent => sent
    isCancelled := fun _ => false, deliver := fun _ sent => sent, environment := fun _ _ => none }

theorem isRegular_replying {replies : List Reply} (h : ∀ reply ∈ replies, reply.IsRegular) :
    (replying replies).IsRegular := by
  intro _ _ sent
  change (replies.getD sent (.lost "")).IsRegular
  rw [List.getD_eq_getElem?_getD]
  cases hreply : replies[sent]? with
  | none => trivial
  | some reply => exact h reply (List.mem_of_getElem? hreply)

/-- A client that tries again three times. -/
def persistent : WarehouseClient Rat :=
  { pairwise with maxRetries := 3, initialBackoff := 1 / 2 }

/-- A server at fault, a token that is no longer valid, a lost answer, and a result. -/
def recovering : List Reply :=
  [.answered 503 (.object []), .answered 401 (.object [("error", .object [])]), .lost "reset",
    .answered 200 (.object [("jobComplete", .bool true)])]

theorem send_settledInTime_recovering :
    (replying recovering).IsRegular ∧ silence.IsSupplied (replying recovering) ∧
      SettledInTime 3 (1 / 2)
        ((persistent.send ⟨.post, "", none, none⟩).events (replying recovering) silence)
        ((persistent.send ⟨.post, "", none, none⟩).run (replying recovering) silence).1 := by
  have hregular : (replying recovering).IsRegular := by
    apply isRegular_replying
    simp only [recovering, List.forall_mem_cons]
    refine ⟨⟨_, rfl, .inl rfl⟩, ⟨_, rfl, .inr ⟨_, rfl⟩⟩, trivial, ⟨_, rfl, .inl rfl⟩, ?_⟩
    simp
  have hsupplied : silence.IsSupplied (replying recovering) := ⟨"t", rfl⟩
  exact ⟨hregular, hsupplied, persistent.send_settledInTime hregular hsupplied _⟩

end SemanticLayer
