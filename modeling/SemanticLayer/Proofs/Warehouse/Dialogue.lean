import SemanticLayer.Proofs.Outcome
import SemanticLayer.Warehouse.Schedule

/-!
What dialogues promise, whatever is around them: about their result and the rows that they hand over,
and about the reason for which they halt, as long as the replies are such as may be expected.
-/

namespace SemanticLayer

namespace Attempt

variable {δ : Type} [Duration δ] {attempt : Attempt δ}

theorem retryOr_ne_accepted {fault : Fault} {body : Json} :
    attempt.retryOr fault ≠ .accepted body := by
  unfold retryOr
  split <;> simp

/-- Only an answer that is no error is accepted. -/
theorem judge_eq_accepted {reply : Reply} {body : Json}
    (h : attempt.judge reply = .accepted body) :
    ∃ status, reply = .answered status body ∧ status < 400 := by
  cases reply with
  | unsigned report => cases h
  | lost message => exact absurd h retryOr_ne_accepted
  | answered status found =>
    unfold judge at h
    dsimp only at h
    split_ifs at h with hrefused hrenewed hretry hstatus
    · exact absurd h retryOr_ne_accepted
    · obtain rfl : found = body := by simpa using h
      exact ⟨status, rfl, by omega⟩

end Attempt

namespace Dialogue

variable {δ σ α β γ : Type}

theorem bind_eq (dialogue : Dialogue δ α) (f : α → Dialogue δ β) :
    (dialogue >>= f) = dialogue.bind f := rfl

theorem bind_assoc (dialogue : Dialogue δ α) (f : α → Dialogue δ β) (g : β → Dialogue δ γ) :
    (dialogue.bind f).bind g = dialogue.bind fun a => (f a).bind g := by
  induction dialogue with
  | done | halted => rfl
  | ask call next ih => exact congrArg (ask call) (funext ih)
  | renew next ih => exact congrArg renew ih
  | pause time next ih => exact congrArg (pause time) ih
  | look next ih => exact congrArg look (funext ih)
  | deliver rows next ih => exact congrArg (deliver rows) ih

theorem bind_done (dialogue : Dialogue δ α) : dialogue.bind .done = dialogue := by
  induction dialogue with
  | done | halted => rfl
  | ask call next ih => exact congrArg (ask call) (funext ih)
  | renew next ih => exact congrArg renew ih
  | pause time next ih => exact congrArg (pause time) ih
  | look next ih => exact congrArg look (funext ih)
  | deliver rows next ih => exact congrArg (deliver rows) ih

instance : LawfulMonad (Dialogue δ) :=
  LawfulMonad.mk' (Dialogue δ) bind_done (fun _ _ => rfl) bind_assoc

/-- On replies that may be expected, the dialogue only halts for the given reasons, and otherwise its
result fits the rows that have been handed over when it ends. -/
def Promises (answers : Call → Reply → Prop) (halts : Halt → Prop) (post : α → List Row → Prop) :
    Dialogue δ α → List Row → Prop
  | .done result, handed => post result handed
  | .halted why, _ => halts why
  | .ask call next, handed =>
    ∀ reply, answers call reply → (next reply).Promises answers halts post handed
  | .renew next, handed => next.Promises answers halts post handed
  | .pause _ next, handed => next.Promises answers halts post handed
  | .look next, handed => ∀ cancelled, (next cancelled).Promises answers halts post handed
  | .deliver rows next, handed => next.Promises answers halts post (handed ++ rows)

variable {answers : Call → Reply → Prop} {halts : Halt → Prop} {handed : List Row}

namespace Promises

theorem bind {post : α → List Row → Prop} {last : β → List Row → Prop} {dialogue : Dialogue δ α}
    {f : α → Dialogue δ β} (h : dialogue.Promises answers halts post handed)
    (hf : ∀ a later, post a later → (f a).Promises answers halts last later) :
    (dialogue.bind f).Promises answers halts last handed := by
  induction dialogue generalizing handed with
  | done result => exact hf result handed h
  | halted why => exact h
  | ask call next ih => exact fun reply hreply => ih reply (h reply hreply)
  | renew next ih => exact ih h
  | pause time next ih => exact ih h
  | look next ih => exact fun cancelled => ih cancelled (h cancelled)
  | deliver rows next ih => exact ih h

/-- A computation that may fail is a step of a dialogue that halts if it does. -/
theorem lift {post : α → List Row → Prop} {result : Except Fault α}
    (hok : ∀ a, result = .ok a → post a handed)
    (herror : ∀ fault, result = .error fault → halts (.failed fault)) :
    (liftM result : Dialogue δ α).Promises answers halts post handed := by
  cases result with
  | ok a => exact hok a rfl
  | error fault => exact herror fault rfl

theorem checkCancel {post : Unit → List Row → Prop} (hcancelled : halts .cancelled)
    (hpost : post () handed) :
    (checkCancel : Dialogue δ Unit).Promises answers halts post handed := by
  intro cancelled
  cases cancelled with
  | true => exact hcancelled
  | false => exact hpost

theorem handOver {post : Unit → List Row → Prop} {rows : List Row}
    (hpost : post () (handed ++ rows)) :
    (handOver rows : Dialogue δ Unit).Promises answers halts post handed := by
  cases rows with
  | nil => simpa [Dialogue.handOver, Promises] using hpost
  | cons row rest => exact hpost

/-- What each of the dialogues keeps, all of them together keep. -/
theorem mapM {kept : List Row → Prop} {f : α → Dialogue δ β} {items : List α}
    (hf : ∀ item later, kept later → (f item).Promises answers halts (fun _ => kept) later)
    (hkept : kept handed) : (items.mapM f).Promises answers halts (fun _ => kept) handed := by
  induction items generalizing handed with
  | nil => exact hkept
  | cons item rest ih =>
    rw [List.mapM_cons]
    refine .bind (hf item handed hkept) fun _ later hlater => ?_
    exact .bind (ih hlater) fun _ _ hlast => hlast

/-- A request ends with a body that was accepted, or with the fault that settles it. -/
theorem send [Duration δ] {post : Json → List Row → Prop} {attempt : Attempt δ} {call : Call}
    (haccepted : ∀ status body, answers call (.answered status body) → status < 400 →
      post body handed)
    (hrefused : ∀ (attempt : Attempt δ) reply fault, answers call reply →
      attempt.judge reply = .refused fault → halts (.failed fault)) :
    (attempt.send call).Promises answers halts post handed := by
  fun_induction Attempt.send attempt call with
  | case1 attempt ihretry ihrenew =>
    intro reply hreply
    dsimp only
    split
    · rename_i body hjudge
      obtain ⟨status, rfl, hstatus⟩ := Attempt.judge_eq_accepted hjudge
      exact haccepted status body hreply hstatus
    · rename_i after next hjudge
      exact ihretry reply after next hjudge
    · rename_i next hjudge
      exact ihrenew reply next hjudge
    · rename_i fault hjudge
      exact hrefused attempt reply fault hreply hjudge

end Promises

/-- On replies that may be expected, the result of the dialogue fits the rows that have been handed
over when it ends. It may halt for any reason. -/
def Returns (answers : Call → Reply → Prop) (post : α → List Row → Prop) (dialogue : Dialogue δ α)
    (handed : List Row) : Prop :=
  dialogue.Promises answers (fun _ => True) post handed

namespace Returns

variable {last : β → List Row → Prop}

theorem bind {post : α → List Row → Prop} {dialogue : Dialogue δ α} {f : α → Dialogue δ β}
    (h : dialogue.Returns answers post handed)
    (hf : ∀ a later, post a later → (f a).Returns answers last later) :
    (dialogue.bind f).Returns answers last handed :=
  Promises.bind h hf

theorem lift_bind {result : Except Fault α} {f : α → Dialogue δ β}
    (hf : ∀ a, result = .ok a → (f a).Returns answers last handed) :
    ((liftM result : Dialogue δ α).bind f).Returns answers last handed := by
  cases result with
  | ok a => exact hf a rfl
  | error fault => exact trivial

theorem checkCancel_bind {f : Unit → Dialogue δ β} (hf : (f ()).Returns answers last handed) :
    (checkCancel.bind f).Returns answers last handed := by
  intro cancelled
  cases cancelled with
  | true => exact trivial
  | false => exact hf

theorem wait_bind {time : δ} {f : Unit → Dialogue δ β} (hf : (f ()).Returns answers last handed) :
    ((wait time).bind f).Returns answers last handed :=
  hf

theorem handOver_bind {rows : List Row} {f : Unit → Dialogue δ β}
    (hf : (f ()).Returns answers last (handed ++ rows)) :
    ((handOver rows).bind f).Returns answers last handed := by
  have hrows : (handOver rows : Dialogue δ Unit).Returns answers
      (fun _ later => later = handed ++ rows) handed := Promises.handOver rfl
  exact hrows.bind fun _ _ hlater => hlater ▸ hf

theorem send_bind [Duration δ] {attempt : Attempt δ} {call : Call} {f : Json → Dialogue δ β}
    (hf : ∀ status body, answers call (.answered status body) → status < 400 →
      (f body).Returns answers last handed) :
    ((attempt.send call).bind f).Returns answers last handed := by
  have hsend : (attempt.send call).Returns answers
      (fun body later => later = handed ∧
        ∃ status, answers call (.answered status body) ∧ status < 400) handed :=
    Promises.send (fun status body hbody hstatus => ⟨rfl, status, hbody, hstatus⟩)
      fun _ _ _ _ _ => trivial
  refine hsend.bind fun body later ⟨hlater, status, hbody, hstatus⟩ => ?_
  exact hlater ▸ hf status body hbody hstatus

end Returns

/-! ### Steps -/

/-- Whatever is sent, the replies of the surroundings may be expected. -/
structure Expected (answers : Call → Reply → Prop) (around : Surroundings δ σ) : Prop where
  sent : ∀ token call world, answers call (around.send token call world).1
  unsigned : ∀ call, answers call (.unsigned TokenSource.missing)

variable {around : Surroundings δ σ} {now : Conversation σ}

theorem Expected.exchange (h : Expected answers around) (call : Call) :
    answers call (now.exchange around call).1 := by
  have hmissing : ∀ source : TokenSource, ∀ report, source.current = .error report →
      report = TokenSource.missing := by
    intro source report hcurrent
    unfold TokenSource.current at hcurrent
    split at hcurrent
    · cases hcurrent
    · exact (Except.error.inj hcurrent).symm
  unfold Conversation.exchange
  dsimp only
  split
  · rename_i report hreport
    rw [hmissing _ report hreport]
    exact h.unsigned call
  · exact h.sent _ call _

theorem exchange_delivered (call : Call) :
    (now.exchange around call).2.delivered = now.delivered := by
  unfold Conversation.exchange
  dsimp only
  split <;> rfl

/-- A step keeps the promises, with the rows that it hands over. -/
theorem Promises.step {post : α → List Row → Prop} {dialogue : Dialogue δ α}
    (h : dialogue.Promises answers halts post handed) (haround : Expected answers around) :
    (dialogue.step around now).1.Promises answers halts post
      (handed ++ dialogue.spoken.flatMap (·.rows)) := by
  cases dialogue with
  | done result | halted why | renew next | pause time next =>
    simpa [Dialogue.step, spoken, Promises] using h
  | ask call next =>
    simpa [Dialogue.step, spoken, Spoken.rows] using h _ (haround.exchange call)
  | look next => simpa [Dialogue.step, spoken] using h (around.isCancelled now.world)
  | deliver rows next => simpa [Dialogue.step, spoken, Spoken.rows, Promises] using h

theorem step_delivered (dialogue : Dialogue δ α) :
    (dialogue.step around now).2.delivered =
      now.delivered + (dialogue.spoken.flatMap (·.rows)).length := by
  cases dialogue with
  | ask call next => simpa [Dialogue.step, spoken, Spoken.rows] using exchange_delivered call
  | deliver rows next => simp [Dialogue.step, spoken, Spoken.rows, Conversation.deliver]
  | done | halted | look | renew | pause =>
    simp [Dialogue.step, spoken, Conversation.renew, Conversation.pause]

end Dialogue

end SemanticLayer
