import Mathlib
import SemanticLayer.Proofs.Warehouse.Cancellation
import SemanticLayer.Proofs.Warehouse.Retry

/-!
Polling of a job. The pauses between polls grow by a half up to a bound, and a job that is not
complete is given up as soon as the next pause would end after the longest time to wait. With exact
lengths of time the number of rounds never decides anything, so that polling is the loop that it
stands for.
-/

namespace SemanticLayer

/-! ### What is seen of the polling -/

namespace Event

variable {δ : Type}

def isLook : Event δ → Bool
  | .looked _ => true
  | _ => false

/-- The pauses of the polling itself, each of which follows a look whether the query is cancelled.
The pauses of a request that is sent again follow replies. -/
def waits : List (Event δ) → List δ
  | [] => []
  | .looked _ :: .paused time :: rest => time :: waits rest
  | _ :: rest => waits rest

/-- The body of a reply that is no error. -/
def acceptedBody? : Reply → Option Json
  | .answered status body => if status < 400 then some body else none
  | _ => none

/-- The bodies of the polls that were answered. -/
def bodies (events : List (Event δ)) : List Json :=
  (replies events).filterMap acceptedBody?

variable {events more : List (Event δ)}

@[simp] theorem bodies_append : bodies (events ++ more) = bodies events ++ bodies more := by
  rw [bodies, replies_append, List.filterMap_append]
  rfl

theorem waits_append (h : ∀ event ∈ events, event.isLook = false) :
    waits (events ++ more) = waits more := by
  induction events with
  | nil => rfl
  | cons event rest ih =>
    obtain ⟨hevent, hrest⟩ := List.forall_mem_cons.1 h
    cases event with
    | looked cancelled => cases hevent
    | asked | renewed | paused | handed => exact ih hrest

theorem waits_eq_nil (h : ∀ event ∈ events, event.isLook = false) : waits events = [] := by
  rw [← List.append_nil events, waits_append h]
  rfl

end Event

namespace Attempt.Course

open Event

variable {δ : Type} [Duration δ] {attempt : Attempt δ} {call : Call} {events : List (Event δ)}
  {outcome : Except Halt Json}

theorem isLook_eq_false (h : Course call attempt events outcome) :
    ∀ event ∈ events, event.isLook = false := by
  induction h with
  | accepted | refused => simp [isLook]
  | retry _ _ ih | renew _ _ ih => simpa [isLook] using ih

/-- No reply to a request that is sent again has a body that counts, so the only one is that of the
last reply. -/
theorem bodies_eq (h : Course call attempt events outcome) :
    bodies events = outcome.toOption.toList := by
  induction h with
  | accepted h =>
    obtain ⟨status, rfl, hstatus⟩ := judge_eq_accepted h
    simp [bodies, acceptedBody?, hstatus, Except.toOption]
  | @refused attempt reply fault h =>
    cases reply with
    | unsigned | lost => rfl
    | answered status body =>
      have hstatus : ¬status < 400 := by
        intro hstatus
        rw [judge_of_lt body hstatus] at h
        cases h
      simp [bodies, acceptedBody?, hstatus, Except.toOption]
  | @retry attempt next reply after events outcome h _ ih =>
    obtain ⟨hmay, -⟩ := judge_eq_retry h
    rw [← ih]
    cases reply with
    | unsigned | lost => rfl
    | answered status body =>
      have hstatus : ¬status < 400 := by
        simp only [Reply.MayPass] at hmay
        omega
      simp [bodies, acceptedBody?, hstatus]
  | renew h _ ih =>
    obtain ⟨⟨body, rfl⟩, -⟩ := judge_eq_renew h
    rw [← ih]
    simp [bodies, acceptedBody?]

theorem waits_poll (h : Course call attempt events outcome) (wait : δ) :
    waits (.looked false :: .paused wait :: events) = [wait] :=
  congrArg (wait :: ·) (waits_eq_nil h.isLook_eq_false)

theorem waits_poll_append (h : Course call attempt events outcome) (wait : δ)
    (more : List (Event δ)) :
    waits (.looked false :: .paused wait :: (events ++ more)) = wait :: waits more :=
  congrArg (wait :: ·) (waits_append h.isLook_eq_false)

theorem bodies_poll_append (h : Course call attempt events outcome) (wait : δ)
    (more : List (Event δ)) :
    bodies (.looked false :: .paused wait :: (events ++ more)) =
      outcome.toOption.toList ++ bodies more := by
  change bodies (events ++ more) = _
  rw [bodies_append, h.bodies_eq]

end Attempt.Course

/-! ### The fault of a late job -/

/-- What is not sent is not sent for want of a token. -/
def Reply.IsHonest (reply : Reply) : Prop :=
  ∀ report, reply = .unsigned report → report = TokenSource.missing

theorem Surroundings.IsSigned.expected {δ σ : Type} {around : Surroundings δ σ}
    (h : around.IsSigned) : Dialogue.Expected (fun _ => Reply.IsHonest) around := by
  refine ⟨fun token call world report hreport => absurd hreport (h token call world report), ?_⟩
  rintro call report ⟨⟩
  rfl

/-- Whatever is said, the replies are such as may be expected. -/
theorem Dialogue.Expected.replies {δ σ α : Type} {around : Surroundings δ σ}
    {answers : Reply → Prop} (h : Expected (fun _ => answers) around) (dialogue : Dialogue δ α)
    (now : Conversation σ) : ∀ reply ∈ Event.replies (dialogue.events around now), answers reply := by
  induction dialogue generalizing now with
  | done | halted => simp [events]
  | ask call next ih =>
    rw [events]
    simp only [Event.replies_asked, List.forall_mem_cons]
    exact ⟨h.exchange call, ih _ _⟩
  | renew next ih => exact ih _
  | pause time next ih => exact ih _
  | look next ih => exact ih _ _
  | deliver rows next ih => exact ih _

/-- What fails without a report does not fail as a late job does. -/
theorem WarehouseClient.ne_lateJob {α : Type} {x : Except Fault α}
    (h : FailsOnly (Fault.Reports fun _ => False) x) : x ≠ .error lateJob :=
  fun hlate => h _ hlate _ rfl

theorem WarehouseClient.ofKind_ne_lateJob (message : String) :
    Fault.ofKind .warehouseAuth message ≠ lateJob := by
  simp [lateJob, Fault.ofKind, Report.make]

namespace Attempt

variable {δ : Type} [Duration δ] {attempt : Attempt δ} {reply : Reply}

theorem refusal_ne_lateJob (status : Int) (body : Json) :
    refusal status body ≠ WarehouseClient.lateJob := by
  unfold refusal
  split
  · intro hlate
    injection hlate with hreport
    have hmessage := congrArg Report.message hreport
    simp [Report.make, String.ext_iff] at hmessage
  · rename_i fault hfault
    have htext : FailsOnly (Fault.Reports fun _ => False) (errorText status body) :=
      (Fault.failsOnly_field body "error").bind fun _ _ =>
        (Fault.failsOnly_field _ "message").bind fun _ _ => .pure
    rintro rfl
    exact WarehouseClient.ne_lateJob htext hfault

/-- No request is refused as if the job were late. -/
theorem judge_ne_lateJob (hreply : reply.IsHonest) :
    attempt.judge reply ≠ .refused WarehouseClient.lateJob := by
  intro h
  cases reply with
  | unsigned report =>
    obtain rfl := hreply report rfl
    exact WarehouseClient.ofKind_ne_lateJob _ (Verdict.refused.inj h)
  | lost message =>
    have hlate := retryOr_eq_refused h
    injection hlate with hreport
    have hmessage := congrArg Report.message hreport
    simp [Report.make, String.ext_iff] at hmessage
  | answered status body =>
    unfold judge at h
    dsimp only at h
    split_ifs at h
    · exact WarehouseClient.ofKind_ne_lateJob _ (Verdict.refused.inj h)
    · exact refusal_ne_lateJob status body (retryOr_eq_refused h).symm
    · exact refusal_ne_lateJob status body (Verdict.refused.inj h)

theorem Course.ne_lateJob {call : Call} {events : List (Event δ)} {outcome : Except Halt Json}
    (h : Course call attempt events outcome)
    (hreplies : ∀ reply ∈ Event.replies events, reply.IsHonest) :
    outcome ≠ .error (.failed WarehouseClient.lateJob) := by
  induction h with
  | accepted => simp
  | refused h =>
    rintro ⟨⟩
    exact judge_ne_lateJob (hreplies _ (by simp)) h
  | retry _ _ ih => exact ih fun reply hreply => hreplies reply (by simp [hreply])
  | renew _ _ ih => exact ih fun reply hreply => hreplies reply (by simp [hreply])

end Attempt

/-! ### Courses -/

/-- The job as the next answer to a poll describes it. -/
def JobProgress.describedBy {δ : Type} [Duration δ] (job : JobProgress δ) (longest : δ)
    (body fields : Json) : JobProgress δ :=
  { body, fields := if fields.isTruthy then fields else job.fields
    waited := Duration.add job.waited job.wait
    wait := Duration.least (Duration.halfMore job.wait) longest }

/-- The body says that the job is not complete. -/
def Json.IsIncompleteJob (body : Json) : Prop :=
  ∃ complete, Fault.field body "jobComplete" = .ok complete ∧ complete.isTruthy = false

namespace WarehouseClient

open Event

variable {δ : Type} [Duration δ]

/-- How the polling of a job goes, without a bound on its rounds. -/
inductive PollCourse (client : WarehouseClient δ) (call : Call) :
    JobProgress δ → List (Event δ) → Except Halt (JobProgress δ) → Prop
  | unreadable {job : JobProgress δ} {fault : Fault}
      (h : Fault.field job.body "jobComplete" = .error fault) :
      PollCourse client call job [] (.error (.failed fault))
  | complete {job : JobProgress δ} {complete : Json}
      (h : Fault.field job.body "jobComplete" = .ok complete)
      (hcomplete : complete.isTruthy = true) : PollCourse client call job [] (.ok job)
  | late {job : JobProgress δ} (h : job.body.IsIncompleteJob)
      (hlate : Duration.exceeds (Duration.add job.waited job.wait) client.queryTimeout = true) :
      PollCourse client call job [] (.error (.failed lateJob))
  | cancelled {job : JobProgress δ} (h : job.body.IsIncompleteJob)
      (htime : Duration.exceeds (Duration.add job.waited job.wait) client.queryTimeout = false) :
      PollCourse client call job [.looked true] (.error .cancelled)
  | failed {job : JobProgress δ} {asked : List (Event δ)} {why : Halt}
      (h : job.body.IsIncompleteJob)
      (htime : Duration.exceeds (Duration.add job.waited job.wait) client.queryTimeout = false)
      (hask : Attempt.Course call ⟨client.maxRetries, client.initialBackoff, false⟩ asked
        (.error why)) :
      PollCourse client call job (.looked false :: .paused job.wait :: asked) (.error why)
  | unlisted {job : JobProgress δ} {asked : List (Event δ)} {body : Json} {fault : Fault}
      (h : job.body.IsIncompleteJob)
      (htime : Duration.exceeds (Duration.add job.waited job.wait) client.queryTimeout = false)
      (hask : Attempt.Course call ⟨client.maxRetries, client.initialBackoff, false⟩ asked (.ok body))
      (hlisted : listedFields body = .error fault) :
      PollCourse client call job (.looked false :: .paused job.wait :: asked)
        (.error (.failed fault))
  | polled {job : JobProgress δ} {asked events : List (Event δ)} {body fields : Json}
      {outcome : Except Halt (JobProgress δ)} (h : job.body.IsIncompleteJob)
      (htime : Duration.exceeds (Duration.add job.waited job.wait) client.queryTimeout = false)
      (hask : Attempt.Course call ⟨client.maxRetries, client.initialBackoff, false⟩ asked (.ok body))
      (hlisted : listedFields body = .ok fields)
      (later : PollCourse client call (job.describedBy client.pollMax body fields) events outcome) :
      PollCourse client call job (.looked false :: .paused job.wait :: (asked ++ events)) outcome

variable (client : WarehouseClient δ) (jobId : Json) (parameters : List (String × Json))

/-- The request by which a job is polled. -/
def pollCall : Call :=
  ⟨.get, client.queriesUrl ++ "/" ++ jobId.plain, none, some parameters⟩

/-- A round of the polling, step by step. -/
theorem poll_eq (rounds : Nat) (job : JobProgress δ) :
    client.poll jobId parameters rounds job =
      match Fault.field job.body "jobComplete" with
      | .error fault => .halted (.failed fault)
      | .ok complete =>
        if complete.isTruthy then .done job
        else
          match rounds with
          | 0 => .halted (.failed lateJob)
          | rounds + 1 =>
            if Duration.exceeds (Duration.add job.waited job.wait) client.queryTimeout then
              .halted (.failed lateJob)
            else
              .look fun cancelled =>
                if cancelled then .halted .cancelled
                else .pause job.wait <| (client.send (client.pollCall jobId parameters)).bind
                  fun body =>
                    match listedFields body with
                    | .error fault => .halted (.failed fault)
                    | .ok fields =>
                      client.poll jobId parameters rounds
                        (job.describedBy client.pollMax body fields) := by
  cases hfield : Fault.field job.body "jobComplete" with
  | error fault => cases rounds <;> (rw [poll, hfield]; rfl)
  | ok complete =>
    cases rounds with
    | zero =>
      rw [poll, hfield]
      change (if complete.isTruthy = true then _ else _) = _
      rfl
    | succ rounds =>
      rw [poll, hfield]
      change (if complete.isTruthy = true then _ else _) = _
      dsimp only
      split_ifs
      · rfl
      · rfl
      · refine congrArg Dialogue.look (funext fun cancelled => ?_)
        cases cancelled with
        | true => rfl
        | false =>
          change Dialogue.pause job.wait ((client.send (client.pollCall jobId parameters)).bind
            fun body => (liftM (listedFields body) : Dialogue δ Json).bind fun fields =>
              client.poll jobId parameters rounds (job.describedBy client.pollMax body fields)) = _
          refine congrArg (Dialogue.pause job.wait) (congrArg (Dialogue.bind _) (funext fun body => ?_))
          cases hlisted : listedFields body with
          | error fault => rfl
          | ok fields => rfl

variable {client jobId parameters} {σ : Type} (around : Surroundings δ σ) {job : JobProgress δ}

/-- Without rounds the polling goes on as if it had some where it has no time for one. -/
theorem pollCourse_zero (now : Conversation σ)
    (hlate : Duration.exceeds (Duration.add job.waited job.wait) client.queryTimeout = true) :
    PollCourse client (client.pollCall jobId parameters) job
      ((client.poll jobId parameters 0 job).events around now)
      ((client.poll jobId parameters 0 job).run around now).1 := by
  rw [poll_eq]
  cases hfield : Fault.field job.body "jobComplete" with
  | error fault => exact .unreadable hfield
  | ok complete =>
    dsimp only
    split_ifs with hcomplete
    · exact .complete hfield hcomplete
    · exact .late ⟨complete, hfield, by simpa using hcomplete⟩ hlate

/-- The polling goes as it should if it does so after a round that there is time for. -/
theorem pollCourse_succ {rounds : Nat} (now : Conversation σ)
    (hnext : ∀ body fields later,
      Duration.exceeds (Duration.add job.waited job.wait) client.queryTimeout = false →
      PollCourse client (client.pollCall jobId parameters)
        (job.describedBy client.pollMax body fields)
        ((client.poll jobId parameters rounds
          (job.describedBy client.pollMax body fields)).events around later)
        ((client.poll jobId parameters rounds
          (job.describedBy client.pollMax body fields)).run around later).1) :
    PollCourse client (client.pollCall jobId parameters) job
      ((client.poll jobId parameters (rounds + 1) job).events around now)
      ((client.poll jobId parameters (rounds + 1) job).run around now).1 := by
  rw [poll_eq]
  cases hfield : Fault.field job.body "jobComplete" with
  | error fault => exact .unreadable hfield
  | ok complete =>
    dsimp only
    split_ifs with hcomplete hlate
    · exact .complete hfield hcomplete
    · exact .late ⟨complete, hfield, by simpa using hcomplete⟩ hlate
    · have hopen : job.body.IsIncompleteJob := ⟨complete, hfield, by simpa using hcomplete⟩
      have htime := Bool.not_eq_true _ ▸ hlate
      have hask := Attempt.course_send around
        ⟨client.maxRetries, client.initialBackoff, false⟩ (client.pollCall jobId parameters)
        (now.pause around job.wait)
      rw [Dialogue.events, Dialogue.run]
      cases around.isCancelled now.world with
      | true => exact .cancelled hopen htime
      | false =>
        simp only [Bool.false_eq_true, if_false, Dialogue.events, Dialogue.run,
          Dialogue.events_bind, Dialogue.run_bind, send]
        generalize Dialogue.events around _ _ = asked at hask ⊢
        generalize Dialogue.run around _ _ = answer at hask ⊢
        obtain ⟨_ | body, later⟩ := answer
        · rw [List.append_nil]
          exact .failed hopen htime hask
        · cases hlisted : listedFields body with
          | error fault =>
            simp only [hlisted, Dialogue.events, Dialogue.run, List.append_nil]
            exact .unlisted hopen htime hask hlisted
          | ok fields =>
            simp only [hlisted]
            exact .polled hopen htime hask hlisted (hnext body fields later htime)

end WarehouseClient

/-! ### Exact lengths of time -/

theorem Duration.exceeds_iff {one two : Rat} : Duration.exceeds one two = true ↔ two < one :=
  decide_eq_true_iff

theorem Duration.exceeds_eq_false {one two : Rat} : Duration.exceeds one two = false ↔ one ≤ two := by
  rw [← Bool.not_eq_true, exceeds_iff, not_lt]

theorem Duration.least_eq_min (one two : Rat) : Duration.least one two = min one two := by
  rw [least, min_def]
  split_ifs with hexceeds hle hle
  · exact le_antisymm (exceeds_iff.1 hexceeds).le hle
  · rfl
  · rfl
  · exact absurd (exceeds_iff.2 (not_le.1 hle)) hexceeds

namespace WarehouseClient

open Event

variable (client : WarehouseClient Rat)

/-- The shortest pause of the polling. -/
def shortestWait : Rat := min client.pollInitial client.pollMax

/-- The number of rounds that the polling is given is more than fit into the longest time. -/
theorem lt_rounds_mul (hshortest : 0 < client.shortestWait) :
    client.queryTimeout <
      Duration.rounds client.queryTimeout client.shortestWait * client.shortestWait := by
  change _ < ((⌊client.queryTimeout / client.shortestWait⌋.toNat + 1 : ℕ) : Rat) * _
  rw [← div_lt_iff₀ hshortest, Int.floor_toNat, Nat.cast_succ]
  exact Nat.lt_floor_add_one _

variable {σ : Type} (around : Surroundings Rat σ) (jobId : Json) (parameters : List (String × Json))

/-- With as many rounds as fit into the time that is left, the polling goes as if they were not
counted: before they are used up, the time is. -/
theorem pollCourse_poll (rounds : Nat) (job : JobProgress Rat)
    (hshortest : 0 < client.shortestWait) (hwait : client.shortestWait ≤ job.wait)
    (hrounds : client.queryTimeout < job.waited + rounds * client.shortestWait)
    (now : Conversation σ) :
    PollCourse client (client.pollCall jobId parameters) job
      ((client.poll jobId parameters rounds job).events around now)
      ((client.poll jobId parameters rounds job).run around now).1 := by
  induction rounds generalizing job now with
  | zero =>
    refine pollCourse_zero around now (Duration.exceeds_iff.2 ?_)
    rw [Nat.cast_zero, zero_mul, add_zero] at hrounds
    exact hrounds.trans_le (le_add_of_nonneg_right (hshortest.trans_le hwait).le)
  | succ rounds ih =>
    refine pollCourse_succ around now fun body fields later _ => ih _ ?_ ?_ later
    · change client.shortestWait ≤ Duration.least (job.wait * (3 / 2)) client.pollMax
      rw [Duration.least_eq_min, le_min_iff]
      exact ⟨by linarith, min_le_right _ _⟩
    · change client.queryTimeout < job.waited + job.wait + rounds * client.shortestWait
      rw [Nat.cast_succ] at hrounds
      linarith

/-- The pauses of the polling, as far as it goes. -/
def pollWait : Nat → Rat
  | 0 => client.pollInitial
  | k + 1 => min (pollWait k * (3 / 2)) client.pollMax

theorem shortestWait_le_pollWait (hshortest : 0 < client.shortestWait) (k : Nat) :
    client.shortestWait ≤ client.pollWait k := by
  induction k with
  | zero => exact min_le_left _ _
  | succ k ih =>
    rw [pollWait, le_min_iff]
    exact ⟨by linarith, min_le_right _ _⟩

theorem describedBy_wait {job : JobProgress Rat} {i : Nat} (h : job.wait = client.pollWait i)
    (body fields : Json) :
    (job.describedBy client.pollMax body fields).wait = client.pollWait (i + 1) := by
  change Duration.least (job.wait * (3 / 2)) client.pollMax = _
  rw [Duration.least_eq_min, h]
  rfl

/-- Every poll was answered, and by the last answer the job is not complete. -/
structure StillOpen (first : Json) (events : List (Event Rat)) : Prop where
  answered : (bodies events).length = (waits events).length
  listed : ∃ fields, listedFields ((bodies events).getLastD first) = .ok fields
  isIncomplete : ((bodies events).getLastD first).IsIncompleteJob

/-- A poll that is answered leaves the rest to the later ones. -/
theorem stillOpen_poll_append {call : Call} {attempt : Attempt Rat} {asked events : List (Event Rat)}
    {first body : Json} (h : Attempt.Course call attempt asked (.ok body)) (wait : Rat) :
    StillOpen first (.looked false :: .paused wait :: (asked ++ events)) ↔
      StillOpen body events := by
  have hbodies : bodies (.looked false :: .paused wait :: (asked ++ events)) =
      body :: bodies events := h.bodies_poll_append wait events
  constructor
  · rintro ⟨hanswered, hlisted, hincomplete⟩
    rw [hbodies, h.waits_poll_append] at hanswered
    rw [hbodies, List.getLastD_cons] at hlisted hincomplete
    exact ⟨Nat.succ.inj hanswered, hlisted, hincomplete⟩
  · rintro ⟨hanswered, hlisted, hincomplete⟩
    refine ⟨?_, ?_, ?_⟩ <;> rw [hbodies]
    · rw [h.waits_poll_append, List.length_cons, List.length_cons, hanswered]
    · rwa [List.getLastD_cons]
    · rwa [List.getLastD_cons]

namespace PollCourse

variable {client : WarehouseClient Rat} {call : Call} {job : JobProgress Rat}
  {events : List (Event Rat)} {outcome : Except Halt (JobProgress Rat)}

theorem waits_eq {i : Nat} (h : PollCourse client call job events outcome)
    (hwait : job.wait = client.pollWait i) :
    waits events = (List.range' i (waits events).length).map client.pollWait := by
  induction h generalizing i with
  | unreadable | complete | late | cancelled => rfl
  | failed _ _ hask | unlisted _ _ hask =>
    rw [hask.waits_poll]
    exact congrArg (fun wait => [wait]) hwait
  | polled _ _ hask _ _ ih =>
    rw [hask.waits_poll_append, List.length_cons, List.range'_succ, List.map_cons, hwait]
    exact congrArg _ (ih (client.describedBy_wait hwait _ _))

/-- For every pause there was time. -/
theorem sum_le (h : PollCourse client call job events outcome) {k : Nat}
    (hk : k < (waits events).length) :
    job.waited + ((waits events).take (k + 1)).sum ≤ client.queryTimeout := by
  induction h generalizing k with
  | unreadable | complete | late | cancelled => cases hk
  | failed _ htime hask | unlisted _ htime hask =>
    rw [hask.waits_poll, List.take_succ_cons, List.take_nil, List.sum_singleton]
    exact Duration.exceeds_eq_false.1 htime
  | polled _ htime hask _ _ ih =>
    rw [hask.waits_poll_append] at hk ⊢
    rw [List.take_succ_cons]
    cases k with
    | zero =>
      rw [List.take_zero, List.sum_singleton]
      exact Duration.exceeds_eq_false.1 htime
    | succ k =>
      rw [List.sum_cons, ← add_assoc]
      exact ih (Nat.lt_of_succ_lt_succ hk)

/-- Every poll is a request that is sent again only so often. -/
theorem length_replies_le (h : PollCourse client call job events outcome) :
    (replies events).length ≤ (waits events).length * (client.maxRetries + 2) := by
  induction h with
  | unreadable | complete | late | cancelled => exact Nat.zero_le _
  | failed _ _ hask | unlisted _ _ hask =>
    rw [hask.waits_poll, List.length_singleton, one_mul]
    exact hask.length_replies_le
  | polled _ _ hask _ _ ih =>
    have hpoll := hask.length_replies_le
    rw [hask.waits_poll_append, List.length_cons, Nat.succ_mul, replies_looked, replies_paused,
      replies_append, List.length_append]
    exact (Nat.add_comm _ _).trans_le (Nat.add_le_add ih hpoll)

/-- A job is given up as late when it is not complete and there is no time for the next pause. -/
theorem late_iff {i : Nat} (h : PollCourse client call job events outcome)
    (hreplies : ∀ reply ∈ replies events, reply.IsHonest) (hwait : job.wait = client.pollWait i)
    (hlisted : ∃ fields, listedFields job.body = .ok fields) :
    outcome = .error (.failed lateJob) ↔
      StillOpen job.body events ∧
        client.queryTimeout <
          job.waited + (waits events).sum + client.pollWait (i + (waits events).length) := by
  induction h generalizing i with
  | @unreadable job fault h =>
    refine iff_of_false ?_ ?_
    · rintro ⟨⟩
      exact ne_lateJob (Fault.failsOnly_field _ _) h
    · rintro ⟨⟨-, -, complete, hcomplete, -⟩, -⟩
      exact absurd (h.symm.trans hcomplete) (by simp)
  | @complete job found h hfound =>
    refine iff_of_false (by simp) ?_
    rintro ⟨⟨-, -, complete, hcomplete, hfalse⟩, -⟩
    obtain rfl := Except.ok.inj (h.symm.trans hcomplete)
    rw [hfound] at hfalse
    cases hfalse
  | @late job h hlate =>
    refine iff_of_true rfl ⟨⟨rfl, hlisted, h⟩, ?_⟩
    rw [waits, List.sum_nil, add_zero, List.length_nil, add_zero, ← hwait]
    exact Duration.exceeds_iff.1 hlate
  | @cancelled job h htime =>
    refine iff_of_false (by simp) fun ⟨_, hlate⟩ => ?_
    change _ < job.waited + 0 + client.pollWait i at hlate
    rw [add_zero, ← hwait] at hlate
    exact absurd (Duration.exceeds_eq_false.1 htime) (not_le.2 hlate)
  | @failed job asked why _ _ hask =>
    refine iff_of_false (fun hlate => hask.ne_lateJob hreplies ?_) ?_
    · rw [Except.error.inj hlate]
    · rintro ⟨⟨hanswered, _⟩, _⟩
      have hbodies := hask.bodies_poll_append job.wait []
      rw [List.append_nil] at hbodies
      rw [hbodies, hask.waits_poll] at hanswered
      cases hanswered
  | @unlisted job asked body fault _ _ hask h =>
    refine iff_of_false ?_ ?_
    · rintro ⟨⟩
      exact ne_lateJob (failsOnly_listedFields _) h
    · rintro ⟨⟨_, ⟨fields, hfields⟩, _⟩, _⟩
      have hbodies := hask.bodies_poll_append job.wait []
      rw [List.append_nil] at hbodies
      rw [hbodies] at hfields
      exact absurd (h.symm.trans hfields) (by simp)
  | @polled job asked events body fields outcome _ _ hask h later ih =>
    rw [ih (fun reply hreply => hreplies reply (by simp [hreply]))
        (client.describedBy_wait hwait body fields) ⟨fields, h⟩,
      stillOpen_poll_append hask, hask.waits_poll_append, List.sum_cons, List.length_cons,
      ← add_assoc, add_right_comm i]
    rfl

end PollCourse

/-- What is promised of the polling of a job that was first described by a body, by what happens until
it ends and by its outcome. -/
structure PolledInTime (first : Json) (events : List (Event Rat))
    (outcome : Except Halt (JobProgress Rat)) : Prop where
  /-- There is no time for more polls. -/
  waits_le : (waits events).length ≤ ⌊client.queryTimeout / client.shortestWait⌋₊
  replies_le : (replies events).length ≤ (waits events).length * (client.maxRetries + 2)
  waits_eq : waits events = (List.range (waits events).length).map client.pollWait
  /-- When a pause ends, no more than the longest time has been waited. -/
  sum_le : ∀ k < (waits events).length, ((waits events).take (k + 1)).sum ≤ client.queryTimeout
  late_iff : outcome = .error (.failed lateJob) ↔
    StillOpen first events ∧
      client.queryTimeout < (waits events).sum + client.pollWait (waits events).length

/-- As many pauses fit into the longest time as the shortest of them would. -/
theorem length_le_of_sum_le (hshortest : 0 < client.shortestWait) {count : Nat}
    (h : ((List.range count).map client.pollWait).sum ≤ client.queryTimeout) :
    count ≤ ⌊client.queryTimeout / client.shortestWait⌋₊ := by
  have hsum : count • client.shortestWait ≤ ((List.range count).map client.pollWait).sum := by
    have hle := List.card_nsmul_le_sum ((List.range count).map client.pollWait) client.shortestWait
      fun wait hwait => by
        obtain ⟨k, -, rfl⟩ := List.mem_map.1 hwait
        exact client.shortestWait_le_pollWait hshortest k
    rwa [List.length_map, List.length_range] at hle
  refine Nat.le_floor ((le_div_iff₀ hshortest).2 ?_)
  rw [← nsmul_eq_mul]
  exact hsum.trans h

/-- However the polls are answered, polling ends, and it does so in time. -/
theorem poll_polledInTime (hinitial : 0 < client.pollInitial) (hmax : 0 < client.pollMax)
    (haround : around.IsSigned) {first fields : Json} (hlisted : listedFields first = .ok fields)
    (now : Conversation σ) :
    client.PolledInTime first
      ((client.poll jobId parameters
        (Duration.rounds client.queryTimeout (Duration.least client.pollInitial client.pollMax))
        ⟨first, fields, client.pollInitial, Duration.zero⟩).events around now)
      ((client.poll jobId parameters
        (Duration.rounds client.queryTimeout (Duration.least client.pollInitial client.pollMax))
        ⟨first, fields, client.pollInitial, Duration.zero⟩).run around now).1 := by
  have hshortest : 0 < client.shortestWait := lt_min hinitial hmax
  have hreplies := haround.expected.replies (client.poll jobId parameters
    (Duration.rounds client.queryTimeout (Duration.least client.pollInitial client.pollMax))
    ⟨first, fields, client.pollInitial, Duration.zero⟩) now
  have hcourse := client.pollCourse_poll around jobId parameters
    (Duration.rounds client.queryTimeout (Duration.least client.pollInitial client.pollMax))
    ⟨first, fields, client.pollInitial, Duration.zero⟩ hshortest (min_le_left _ _)
    (by
      rw [Duration.least_eq_min]
      exact (client.lt_rounds_mul hshortest).trans_eq (zero_add _).symm) now
  generalize (client.poll _ _ _ _).events around now = events at hreplies hcourse ⊢
  have hwaits := hcourse.waits_eq (i := 0) rfl
  rw [← List.range_eq_range'] at hwaits
  have hsum : ∀ k < (waits events).length,
      ((waits events).take (k + 1)).sum ≤ client.queryTimeout := by
    intro k hk
    have hle := hcourse.sum_le hk
    change 0 + _ ≤ _ at hle
    rwa [zero_add] at hle
  refine
    { waits_le := ?_, replies_le := hcourse.length_replies_le, waits_eq := hwaits, sum_le := hsum
      late_iff := ?_ }
  · cases hlength : (waits events).length with
    | zero => exact Nat.zero_le _
    | succ count =>
      refine client.length_le_of_sum_le hshortest ?_
      rw [← hlength, ← hwaits]
      have hle := hsum count (hlength ▸ Nat.lt_succ_self _)
      rwa [← hlength, List.take_length] at hle
  · have hlate := hcourse.late_iff hreplies (i := 0) rfl ⟨fields, hlisted⟩
    change _ ↔ _ ∧ _ < 0 + _ + _ at hlate
    rwa [zero_add, zero_add] at hlate

end WarehouseClient

/-- A client whose pauses between polls may grow once. -/
def unhurried : WarehouseClient Rat :=
  { persistent with pollInitial := 2, pollMax := 3 }

/-- The body of a job that is not complete. -/
def openJob : Json := .object [("jobComplete", .bool false)]

/-- A job that is not complete at the first poll. -/
def hesitating : List Reply :=
  [.answered 200 openJob, .lost "reset", .answered 200 (.object [("jobComplete", .bool true)])]

theorem Surroundings.IsRegular.isSigned {δ σ : Type} {around : Surroundings δ σ}
    (h : around.IsRegular) : around.IsSigned := by
  intro token call world report hreport
  have hreply := h token call world
  rw [hreport] at hreply
  exact hreply

theorem poll_polledInTime_hesitating :
    0 < unhurried.pollInitial ∧ 0 < unhurried.pollMax ∧ (replying hesitating).IsSigned ∧
      WarehouseClient.listedFields openJob = .ok .null ∧
      unhurried.PolledInTime openJob
        ((unhurried.poll (.text "j") []
          (Duration.rounds unhurried.queryTimeout
            (Duration.least unhurried.pollInitial unhurried.pollMax))
          ⟨openJob, .null, unhurried.pollInitial, Duration.zero⟩).events (replying hesitating) silence)
        ((unhurried.poll (.text "j") []
          (Duration.rounds unhurried.queryTimeout
            (Duration.least unhurried.pollInitial unhurried.pollMax))
          ⟨openJob, .null, unhurried.pollInitial, Duration.zero⟩).run (replying hesitating)
            silence).1 := by
  have hinitial : 0 < unhurried.pollInitial := by norm_num [unhurried]
  have hmax : 0 < unhurried.pollMax := by norm_num [unhurried]
  have hsigned : (replying hesitating).IsSigned := by
    apply Surroundings.IsRegular.isSigned
    apply isRegular_replying
    simp only [hesitating, List.forall_mem_cons]
    refine ⟨⟨_, rfl, .inl rfl⟩, trivial, ⟨_, rfl, .inl rfl⟩, ?_⟩
    simp
  exact ⟨hinitial, hmax, hsigned, rfl,
    unhurried.poll_polledInTime (replying hesitating) (.text "j") [] hinitial hmax hsigned rfl
      silence⟩

end SemanticLayer
