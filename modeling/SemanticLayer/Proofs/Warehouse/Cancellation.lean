import Mathlib
import SemanticLayer.Proofs.Warehouse.Sequential

/-!
Cancelled queries. However the chunks take turns, the report of a cancelled query counts exactly the
rows that were handed over, and a chunk that has still to look asks for nothing more.
-/

namespace SemanticLayer

/-! ### What dialogues halt for -/

/-- The halt does not pass for a cancellation, unless it is one. -/
def Halt.IsPlain (why : Halt) : Prop :=
  ∀ fault, why = .failed fault → fault.Reports (·.kind ≠ .queryCancelled)

theorem Halt.isPlain_cancelled : Halt.cancelled.IsPlain := by
  intro fault h
  cases h

theorem Halt.isPlain_failed {fault : Fault} (h : fault.Reports (·.kind ≠ .queryCancelled)) :
    (Halt.failed fault).IsPlain := by
  rintro other ⟨⟩
  exact h

section

variable {p : Report → Prop}

theorem Fault.reports_ofKind {kind : ErrorKind} {message : String} (h : kind ≠ .queryCancelled) :
    (ofKind kind message).Reports (·.kind ≠ .queryCancelled) := by
  rintro report ⟨⟩
  exact h

theorem Fault.failsOnly_field (value : Json) (key : String) :
    FailsOnly (Reports p) (field value key) := by
  unfold field
  split
  · exact .ok
  · exact .error fun _ h => by cases h

theorem Fault.failsOnly_items (value : Json) : FailsOnly (Reports p) (items value) := by
  unfold items
  split
  · exact .ok
  · split
    · exact .error fun _ h => by cases h
    · exact .ok

theorem WarehouseClient.failsOnly_listedFields (body : Json) :
    FailsOnly (Fault.Reports p) (listedFields body) :=
  (Fault.failsOnly_field body "schema").bind fun _ _ => Fault.failsOnly_field _ "fields"

theorem failsOnly_wholeNumber (value : Json) :
    FailsOnly (Fault.Reports p) (wholeNumber value) := by
  unfold wholeNumber
  split
  · exact .ok
  · split
    · exact .ok
    · exact .ok
    · split
      · exact .ok
      · exact .error fun _ h => by cases h
    · rename_i text _
      cases Decimal.readInt text with
      | ok n => exact .ok
      | error cause => exact .error fun _ h => by cases h
    · exact .error fun _ h => by cases h

theorem ResultField.failsOnly_read (value : Json) :
    FailsOnly (Fault.Reports p) (ResultField.read value) := by
  have hdescribe : ∀ key, FailsOnly (Fault.Reports p) (describe value key) := fun key =>
    (Fault.failsOnly_field value key).bind fun _ _ => .pure
  exact (hdescribe "type").bind fun _ _ => (hdescribe "name").bind fun _ _ => .pure

theorem ResultField.failsOnly_number (value : Json) :
    FailsOnly (Fault.Reports p) (number value) := by
  unfold number
  split
  · exact .ok
  · dsimp only
    split
    · exact .ok
    · exact .error fun _ h => by cases h
  · exact .ok
  · exact .ok
  · exact .ok

theorem ResultField.failsOnly_value (field : ResultField) (cell : Option Json) :
    FailsOnly (Fault.Reports p) (field.value cell) := by
  have hlast : ∀ found, FailsOnly (Fault.Reports p)
      (if field.isNumeric then number found else pure found) := by
    intro found
    split
    · exact failsOnly_number found
    · exact .pure
  unfold value
  cases cell with
  | none => exact hlast .null
  | some cell =>
    dsimp only
    split
    · exact (Fault.failsOnly_field cell "v").bind fun found _ => hlast found
    · exact hlast .null

theorem ResultField.failsOnly_values (fields : List ResultField) (cells : List Json) :
    FailsOnly (Fault.Reports p) (values fields cells) := by
  induction fields generalizing cells with
  | nil => exact .ok
  | cons field rest ih =>
    refine (failsOnly_value field _).bind fun _ _ => ?_
    exact (ih _).bind fun _ _ => .pure

theorem Row.failsOnly_readAll (fields raw : List Json) :
    FailsOnly (Fault.Reports p) (readAll fields raw) := by
  refine (FailsOnly.mapM fun field _ => ResultField.failsOnly_read field).bind fun found _ => ?_
  refine .mapM fun value _ => ?_
  refine (Fault.failsOnly_field value "f").bind fun cells _ => ?_
  refine (Fault.failsOnly_items cells).bind fun cells _ => ?_
  exact (ResultField.failsOnly_values found cells).bind fun _ _ => .pure

end

namespace Attempt

theorem reports_refusal (status : Int) (body : Json) :
    (refusal status body).Reports (·.kind ≠ .queryCancelled) := by
  unfold refusal
  split
  · exact Fault.reports_ofKind (by simp)
  · rename_i fault hfault
    have htext : FailsOnly (Fault.Reports (·.kind ≠ .queryCancelled)) (errorText status body) :=
      (Fault.failsOnly_field body "error").bind fun _ _ =>
        (Fault.failsOnly_field _ "message").bind fun _ _ => .pure
    exact htext fault hfault

variable {δ : Type} [Duration δ]

theorem retryOr_eq_refused {attempt : Attempt δ} {fault other : Fault}
    (h : attempt.retryOr fault = .refused other) : other = fault := by
  unfold retryOr at h
  split at h
  · exact (Verdict.refused.inj h).symm
  · cases h

/-- A request is not refused as if the query had been cancelled. -/
theorem judge_eq_refused {attempt : Attempt δ} {reply : Reply} {fault : Fault}
    (h : attempt.judge reply = .refused fault)
    (hreply : ∀ report, reply = .unsigned report → report.kind ≠ .queryCancelled) :
    fault.Reports (·.kind ≠ .queryCancelled) := by
  cases reply with
  | unsigned report =>
    obtain rfl := Verdict.refused.inj h
    exact Fault.reports_reported.2 (hreply report rfl)
  | lost message =>
    obtain rfl := retryOr_eq_refused h
    exact Fault.reports_ofKind (by simp)
  | answered status body =>
    unfold judge at h
    dsimp only at h
    split_ifs at h
    · obtain rfl := Verdict.refused.inj h
      exact Fault.reports_ofKind (by simp)
    · obtain rfl := retryOr_eq_refused h
      exact reports_refusal status body
    · obtain rfl := Verdict.refused.inj h
      exact reports_refusal status body

end Attempt

/-- A token that is missing is reported as such. -/
def Reply.IsPlain (reply : Reply) : Prop :=
  ∀ report, reply = .unsigned report → report.kind ≠ .queryCancelled

/-- The dialogue halts for a cancellation only if it has seen one. -/
def Dialogue.IsPlain {δ α : Type} (dialogue : Dialogue δ α) (handed : List Row) : Prop :=
  dialogue.Promises (fun _ => Reply.IsPlain) Halt.IsPlain (fun _ _ => True) handed

namespace Dialogue.IsPlain

variable {δ α β : Type} {handed : List Row}

theorem bind {dialogue : Dialogue δ α} {f : α → Dialogue δ β} (h : dialogue.IsPlain handed)
    (hf : ∀ a later, (f a).IsPlain later) : (dialogue.bind f).IsPlain handed :=
  Promises.bind h fun a later _ => hf a later

theorem lift {result : Except Fault α}
    (h : FailsOnly (Fault.Reports (·.kind ≠ .queryCancelled)) result) :
    (liftM result : Dialogue δ α).IsPlain handed :=
  Promises.lift (fun _ _ => trivial) fun fault hfault => Halt.isPlain_failed (h fault hfault)

theorem checkCancel : (checkCancel : Dialogue δ Unit).IsPlain handed :=
  Promises.checkCancel Halt.isPlain_cancelled trivial

theorem handOver (rows : List Row) : (handOver rows : Dialogue δ Unit).IsPlain handed :=
  Promises.handOver trivial

theorem wait (time : δ) : (wait time : Dialogue δ Unit).IsPlain handed := trivial

theorem halted {kind : ErrorKind} {message : String} (h : kind ≠ .queryCancelled) :
    (.halted (.failed (.ofKind kind message)) : Dialogue δ α).IsPlain handed :=
  Halt.isPlain_failed (Fault.reports_ofKind h)

theorem mapM {f : α → Dialogue δ β} {items : List α} (h : ∀ item later, (f item).IsPlain later)
    (handed : List Row) : (items.mapM f).IsPlain handed :=
  Promises.mapM (fun item later _ => h item later) trivial

theorem send [Duration δ] (client : WarehouseClient δ) (call : Call) :
    (client.send call).IsPlain handed := by
  refine Promises.send (fun _ _ _ _ => trivial) fun attempt reply fault hreply hjudge => ?_
  exact Halt.isPlain_failed (Attempt.judge_eq_refused hjudge hreply)

end Dialogue.IsPlain

namespace WarehouseClient

variable {δ : Type} [Duration δ] (client : WarehouseClient δ)

open Dialogue

theorem poll_isPlain (jobId : Json) (parameters : List (String × Json)) (rounds : Nat)
    (job : JobProgress δ) (handed : List Row) :
    (client.poll jobId parameters rounds job).IsPlain handed := by
  induction rounds generalizing job handed with
  | zero =>
    refine .bind (.lift (Fault.failsOnly_field _ _)) fun complete later => ?_
    split
    · trivial
    · exact .halted (by simp)
  | succ rounds ih =>
    refine .bind (.lift (Fault.failsOnly_field _ _)) fun complete later => ?_
    split
    · trivial
    · dsimp only
      split
      · exact .halted (by simp)
      · refine .bind .checkCancel fun _ later => ?_
        refine .bind (.wait job.wait) fun _ later => ?_
        refine .bind (.send client _) fun body later => ?_
        refine .bind (.lift (failsOnly_listedFields body)) fun fields later => ?_
        exact ih _ later

theorem start_isPlain (sql : String) (limit : Option Int) (handed : List Row) :
    (client.start sql limit).IsPlain handed := by
  refine .bind .checkCancel fun _ later => ?_
  refine .bind (.send client _) fun body later => ?_
  refine .bind (.lift (Fault.failsOnly_field _ _)) fun reference later => ?_
  refine .bind (.lift (Fault.failsOnly_field _ _)) fun jobId later => ?_
  refine .bind (.lift (Fault.failsOnly_field _ _)) fun location later => ?_
  dsimp only
  refine .bind (.lift (failsOnly_listedFields body)) fun fields later => ?_
  refine .bind (client.poll_isPlain jobId _ _ _ later) fun job later => ?_
  refine .bind (.lift (Fault.failsOnly_items _)) fun fields later => ?_
  refine .bind (.mapM (fun field later => ?_) later) fun columns later => ?_
  · refine .bind (.lift (Fault.failsOnly_field field "name")) fun name later => ?_
    exact .bind (.lift (Fault.failsOnly_field field "type")) fun type later => trivial
  refine .bind (.lift (Fault.failsOnly_field _ _)) fun total later => ?_
  refine .bind (.lift (failsOnly_wholeNumber total)) fun totalRows later => ?_
  refine .bind ?_ fun raw later => ?_
  · refine .bind (.lift (Fault.failsOnly_field _ _)) fun rows later => ?_
    refine .bind (.lift (Fault.failsOnly_field _ _)) fun page later => ?_
    split
    · trivial
    · refine .bind .checkCancel fun _ later => ?_
      refine .bind (.send client _) fun answer later => ?_
      exact .lift (Fault.failsOnly_field answer "rows")
  refine .bind (.lift (Fault.failsOnly_items _)) fun raw later => ?_
  refine .bind (.lift (Row.failsOnly_readAll fields raw)) fun first later => ?_
  exact .bind (.handOver first) fun _ later => trivial

theorem fetchRows_isPlain (job : JobResult) (start stop : Int) (wanted : Nat) (rows : List Row)
    (handed : List Row) : (client.fetchRows job start stop wanted rows).IsPlain handed := by
  fun_induction client.fetchRows job start stop wanted rows generalizing handed with
  | case1 rows hmore ih =>
    refine .bind .checkCancel fun _ later => ?_
    refine .bind (.send client _) fun body later => ?_
    refine .bind ?_ fun page later => ?_
    · refine .bind (.lift (Fault.failsOnly_field body "rows")) fun found later => ?_
      refine .bind (.lift (Fault.failsOnly_items found)) fun found later => ?_
      exact .lift (Row.failsOnly_readAll job.fields found)
    · split
      · exact .halted (by simp)
      · rename_i hpage
        exact .bind (.handOver page) fun _ later => ih page hpage later
  | case2 rows hmore => trivial

end WarehouseClient

/-! ### Who asks for more -/

namespace Dialogue

variable {δ σ α β : Type}

/-- The dialogue is in the middle of a request. -/
def isRequesting : Dialogue δ α → Bool
  | .ask .. | .renew _ | .pause .. => true
  | _ => false

/-- As long as the query is cancelled, the dialogue asks for nothing. -/
def IsQuiet : Dialogue δ α → Prop
  | .done _ | .halted _ => True
  | .ask .. => False
  | .renew next | .pause _ next | .deliver _ next => next.IsQuiet
  | .look next => (next true).IsQuiet

/-- At all times when the dialogue is not in the middle of a request, it asks for nothing as long as
the query is cancelled. -/
def HeedsCancel : Dialogue δ α → Prop
  | .done _ | .halted _ => True
  | .ask _ next => ∀ reply, (next reply).HeedsCancel
  | .renew next | .pause _ next => next.HeedsCancel
  | .deliver _ next => next.IsQuiet ∧ next.HeedsCancel
  | .look next => (next true).IsQuiet ∧ ∀ cancelled, (next cancelled).HeedsCancel

theorem HeedsCancel.isQuiet {dialogue : Dialogue δ α} (h : dialogue.HeedsCancel)
    (hrequest : dialogue.isRequesting = false) : dialogue.IsQuiet := by
  cases dialogue with
  | done | halted => trivial
  | ask | renew | pause => cases hrequest
  | look next => exact h.1
  | deliver rows next => exact h.1

variable {around : Surroundings δ σ} {now : Conversation σ}

theorem HeedsCancel.step {dialogue : Dialogue δ α} (h : dialogue.HeedsCancel) :
    (dialogue.step around now).1.HeedsCancel := by
  cases dialogue with
  | done | halted => trivial
  | ask call next => exact h _
  | renew next | pause time next => exact h
  | look next => exact h.2 _
  | deliver rows next => exact h.2

theorem IsQuiet.step {dialogue : Dialogue δ α} (h : dialogue.IsQuiet)
    (hcancelled : around.isCancelled now.world = true) :
    (dialogue.step around now).1.IsQuiet ∧ dialogue.spoken.filterMap (·.call?) = [] := by
  cases dialogue with
  | done | halted => exact ⟨trivial, rfl⟩
  | ask call next => cases h
  | renew next | pause time next | deliver rows next => exact ⟨h, rfl⟩
  | look next =>
    refine ⟨?_, rfl⟩
    rw [Dialogue.step, hcancelled]
    exact h

theorem heedsCancel_send_bind [Duration δ] (attempt : Attempt δ) (call : Call)
    {f : Json → Dialogue δ β} (hf : ∀ body, (f body).HeedsCancel) :
    ((attempt.send call).bind f).HeedsCancel := by
  fun_induction Attempt.send attempt call with
  | case1 attempt ihretry ihrenew =>
    intro reply
    dsimp only
    split
    · exact hf _
    · rename_i after next hjudge
      exact ihretry reply after next hjudge
    · rename_i next hjudge
      exact ihrenew reply next hjudge
    · trivial

theorem heedsCancel_lift_bind (result : Except Fault α) {f : α → Dialogue δ β}
    (hf : ∀ a, (f a).HeedsCancel) : ((liftM result : Dialogue δ α).bind f).HeedsCancel := by
  cases result with
  | ok a => exact hf a
  | error fault => trivial

theorem heedsCancel_checkCancel_bind {f : Unit → Dialogue δ β} (hf : (f ()).HeedsCancel) :
    (checkCancel.bind f).IsQuiet ∧ (checkCancel.bind f).HeedsCancel := by
  refine ⟨trivial, trivial, fun cancelled => ?_⟩
  cases cancelled with
  | true => trivial
  | false => exact hf

end Dialogue

namespace WarehouseClient

variable {δ : Type} [Duration δ] (client : WarehouseClient δ)

open Dialogue

theorem fetchRows_heedsCancel (job : JobResult) (start stop : Int) (wanted : Nat) (rows : List Row) :
    (client.fetchRows job start stop wanted rows).IsQuiet ∧
      (client.fetchRows job start stop wanted rows).HeedsCancel := by
  fun_induction client.fetchRows job start stop wanted rows with
  | case1 rows hmore ih =>
    refine heedsCancel_checkCancel_bind ?_
    refine heedsCancel_send_bind _ _ fun body => ?_
    simp only [bind_eq, bind_assoc]
    refine heedsCancel_lift_bind _ fun found => ?_
    refine heedsCancel_lift_bind _ fun found => ?_
    refine heedsCancel_lift_bind _ fun page => ?_
    split
    · trivial
    · rename_i hpage
      cases page with
      | nil => exact absurd rfl hpage
      | cons row rest => exact ih (row :: rest) hpage
  | case2 rows hmore => exact ⟨trivial, trivial⟩

end WarehouseClient

/-! ### Runs -/

section

variable {δ σ : Type} [Duration δ] {client : WarehouseClient δ} {around : Surroundings δ σ}
  {concurrency : Nat} {limit : Option Int} {run later : QueryRun δ σ}

/-- What is sent with a token is answered or lost. -/
def Surroundings.IsSigned (around : Surroundings δ σ) : Prop :=
  ∀ token call world report, (around.send token call world).1 ≠ .unsigned report

theorem WarehouseClient.dialoguesKeep_plain (haround : around.IsSigned) (sql : String) :
    client.DialoguesKeep around sql limit (fun dialogue handed => dialogue.IsPlain handed)
      (fun _ _ dialogue handed => dialogue.IsPlain handed ∧ dialogue.HeedsCancel) := by
  have hexpected : Dialogue.Expected (fun _ => Reply.IsPlain) around := by
    refine ⟨fun token call world report h => absurd h (haround token call world report), ?_⟩
    rintro call _ ⟨⟩
    simp [TokenSource.missing, Report.make]
  exact {
    begin := client.start_isPlain sql limit []
    query := fun _ _ _ h => h.step hexpected
    opened := fun job _ _ _ _ start _ =>
      ⟨client.fetchRows_isPlain job start _ _ [] [], (client.fetchRows_heedsCancel job start _ _ []).2⟩
    chunk := fun _ _ _ _ _ h => ⟨h.1.step hexpected, h.2.step⟩ }

namespace QueryRun

/-- The chunk is not in the middle of a request: it has not begun, or it has still to look whether
the query is cancelled before it asks for more. -/
def AwaitsCheck (run : QueryRun δ σ) (number : Nat) : Prop :=
  ∀ job workers failure dialogue, run.stage = .fetching job workers failure →
    workers[number]? = some (.talking dialogue) → dialogue.isRequesting = false

/-- The chunk asks for nothing as long as the query is cancelled. -/
def IsQuietAt (run : QueryRun δ σ) (number : Nat) : Prop :=
  ∀ job workers failure dialogue, run.stage = .fetching job workers failure →
    workers[number]? = some (.talking dialogue) → dialogue.IsQuiet

omit [Duration δ] in
/-- A chunk that is settled leaves the others as they are. -/
theorem IsQuietAt.settle {number other : Nat} {job : JobResult} {workers : List (Worker δ)}
    {failure changed : Option Halt} {worker : Worker δ} {now : Conversation σ}
    {log : List (Speaker × Spoken)} (h : run.IsQuietAt number)
    (hstage : run.stage = .fetching job workers failure) (hsettled : worker.isTalking = false) :
    IsQuietAt ⟨.fetching job (workers.set other worker) changed, now, log⟩ number := by
  rintro _ _ _ dialogue ⟨⟩ hworker
  rw [List.getElem?_set] at hworker
  split_ifs at hworker with hsame hlength
  · obtain rfl := Option.some.inj hworker
    cases hsettled
  · exact h job workers failure dialogue hstage hworker

/-- As long as the query is cancelled, a quiet chunk stays quiet. -/
theorem Turns.isQuietAt {number : Nat} (hturn : run.Turns client around limit later)
    (hcancelled : around.isCancelled run.now.world = true) (h : run.IsQuietAt number) :
    later.IsQuietAt number ∧ later.askedBy (some number) = run.askedBy (some number) := by
  cases hturn with
  | outside change => exact ⟨h, rfl⟩
  | @opened job hstage =>
    refine ⟨?_, rfl⟩
    intro _ workers failure dialogue hopened hworker
    simp only [WarehouseClient.opened] at hopened
    split at hopened
    · cases hopened
    · rename_i starts hstarts
      obtain ⟨rfl, rfl, rfl⟩ := Stage.fetching.inj hopened
      rw [List.getElem?_map] at hworker
      obtain ⟨start, -, hdialogue⟩ := Option.map_eq_some_iff.1 hworker
      obtain rfl := Worker.talking.inj hdialogue
      exact (client.fetchRows_heedsCancel job start _ _ []).1
  | halted | report | give =>
    refine ⟨?_, rfl⟩
    rintro _ _ _ _ ⟨⟩
  | query hstage =>
    refine ⟨?_, ?_⟩
    · rintro _ _ _ _ ⟨⟩
    · rw [askedBy_append, if_neg (Option.some_ne_none number).symm, List.append_nil]
      rfl
  | finish hstage | fail hstage | stop hstage => exact ⟨h.settle hstage rfl, rfl⟩
  | @chunk job workers failure other dialogue hstage hworker =>
    rw [askedBy_append]
    by_cases hsame : other = number
    · subst hsame
      obtain ⟨hquiet, hcalls⟩ := (h job workers failure dialogue hstage hworker).step hcancelled
      refine ⟨?_, ?_⟩
      · rintro _ _ _ next ⟨⟩ hnext
        rw [List.getElem?_set_self (List.getElem?_eq_some_iff.1 hworker).1] at hnext
        obtain rfl := Worker.talking.inj (Option.some.inj hnext)
        exact hquiet
      · rw [if_pos rfl, hcalls, List.append_nil]
        rfl
    · refine ⟨?_, ?_⟩
      · rintro _ _ _ next ⟨⟩ hnext
        rw [List.getElem?_set_ne hsame] at hnext
        exact h job workers failure next hstage hnext
      · rw [if_neg fun heq => hsame (Option.some.inj heq), List.append_nil]
        rfl

omit [Duration δ] in
/-- What a query reports is a fault for which one of its dialogues has halted. -/
theorem Fits.reported {report : Report}
    (h : run.Fits client limit (fun dialogue handed => dialogue.IsPlain handed)
      (fun _ _ dialogue handed => dialogue.IsPlain handed ∧ dialogue.HeedsCancel))
    (hstage : run.stage = .over (.error (.reported report))) :
    ∃ why : Halt, why.IsPlain ∧ run.now.fault why = .reported report := by
  cases h with
  | starting hother | fetching hother | gave hother => cases hstage.symm.trans hother
  | @halted why hother hwhy =>
    have hfault := Except.error.inj (Stage.over.inj (hstage.symm.trans hother))
    rcases hwhy with ⟨handed, hplain⟩ | ⟨job, start, handed, hplain, -⟩
    · exact ⟨why, hplain, hfault.symm⟩
    · exact ⟨why, hplain, hfault.symm⟩
  | @unopened job fault hother hstarts =>
    obtain rfl := Except.error.inj (Stage.over.inj (hstage.symm.trans hother))
    unfold WarehouseClient.chunkStarts at hstarts
    dsimp only at hstarts
    split_ifs at hstarts
    cases hstarts

end QueryRun

/-- While a query stays cancelled, a chunk that awaits its check asks for nothing more. -/
theorem WarehouseClient.follow_isQuietAt {number : Nat} {turns : List (Turn σ)}
    (h : client.follow around concurrency limit turns run = some later)
    (hcancelled : ∀ count between,
      client.follow around concurrency limit (turns.take count) run = some between →
        around.isCancelled between.now.world = true)
    (hquiet : run.IsQuietAt number) : later.askedBy (some number) = run.askedBy (some number) := by
  induction turns generalizing run with
  | nil => rw [Option.some.inj h]
  | cons turn rest ih =>
    obtain ⟨between, hfirst, hrest⟩ := Option.bind_eq_some_iff.1 h
    obtain ⟨hstill, hsame⟩ :=
      (turns_of_turn hfirst).isQuietAt (hcancelled 0 run rfl) hquiet
    rw [← hsame]
    refine ih hrest (fun count last hlast => hcancelled (count + 1) last ?_) hstill
    rw [List.take_succ_cons, follow, hfirst]
    exact hlast

/-- However the chunks of a query take turns, and whenever it is cancelled: a report of the
cancellation counts exactly the rows that have been handed over, none is handed over after it, and
nothing else comes of the query; and a chunk that awaits its check asks for nothing more as long as
the query stays cancelled. -/
theorem WarehouseClient.cancellation_exact {sql : String} {now : Conversation σ}
    {turns : List (Turn σ)} (haround : around.IsSigned)
    (h : client.follow around concurrency limit turns (client.begin sql limit now) = some run) :
    (∀ report, run.stage = .over (.error (.reported report)) → report.kind = .queryCancelled →
      report.rowsDelivered = some (run.handed.length : Int) ∧
        ∀ rest later, client.follow around concurrency limit rest run = some later →
          later.stage = run.stage ∧ later.handed = run.handed) ∧
    ∀ number, run.AwaitsCheck number →
      ∀ rest later, client.follow around concurrency limit rest run = some later →
        (∀ count between,
          client.follow around concurrency limit (rest.take count) run = some between →
            around.isCancelled between.now.world = true) →
        later.askedBy (some number) = run.askedBy (some number) := by
  have hfits := follow_fits (dialoguesKeep_plain haround sql) h
  -- What is counted goes along with the log, and only a cancellation is reported as one.
  refine ⟨fun report hstage hkind => ⟨?_, fun rest later hrest => ?_⟩, ?_⟩
  · have hdelivered : run.now.delivered = run.handed.length :=
      follow_keeps (fun _ _ hturn => hturn.delivered) h rfl
    obtain ⟨why, hplain, hfault⟩ := hfits.reported hstage
    cases why with
    | cancelled =>
      obtain rfl := Fault.reported.inj hfault
      rw [← hdelivered]
      rfl
    | failed fault => exact absurd hkind (hplain fault rfl report hfault)
  · have hover : later.stage = run.stage ∧ later.log = run.log := by
      refine follow_keeps (p := fun last => last.stage = run.stage ∧ last.log = run.log) ?_ hrest
        ⟨rfl, rfl⟩
      rintro one two hturn ⟨hone, hlog⟩
      obtain ⟨htwo, hlast⟩ := hturn.of_over (hone.trans hstage)
      exact ⟨htwo.trans hone, hlast.trans hlog⟩
    exact ⟨hover.1, by rw [QueryRun.handed, QueryRun.handed, hover.2]⟩
  · intro number hawaits rest later hrest hcancelled
    refine follow_isQuietAt hrest hcancelled fun job workers failure dialogue hstage hworker => ?_
    obtain ⟨starts, hfetches⟩ := hfits.of_fetching hstage
    have hlength : number < starts.length :=
      hfetches.length_eq ▸ (List.getElem?_eq_some_iff.1 hworker).1
    have hstart : starts[number]? = some starts[number] := List.getElem?_eq_getElem hlength
    have hheeds := (hfetches.workers_fit number _ _ hstart hworker).2
    exact hheeds.isQuiet (hawaits job workers failure dialogue hstage hworker)

end

/-- Two chunks send requests, the second one is answered first, and this cancels the query. The first
one still hands its row over before it looks. -/
def cancelledTurns : List (Turn Nat) :=
  [.query, .query, .query, .query, .chunk 0, .chunk 1, .chunk 0, .chunk 1, .chunk 1, .chunk 1,
    .chunk 0, .chunk 0, .chunk 0, .close]

theorem cancellation_exact_fourRows :
    (servingFourRows 2).IsSigned ∧ ∃ run,
      pairwise.follow (servingFourRows 2) 2 none cancelledTurns (pairwise.begin "" none silence) =
        some run ∧
      run.stage = .over (.error (.reported (.cancelled "Query was cancelled" 3))) ∧
      some (3 : Int) = some (run.handed.length : Int) := by
  have hsigned : (servingFourRows 2).IsSigned := by
    intro token call taken report h
    change fourRows.reply call = .unsigned report at h
    unfold ServedTable.reply at h
    split at h <;> cases h
  have hresult : (pairwise.follow (servingFourRows 2) 2 none cancelledTurns
      (pairwise.begin "" none silence)).bind (·.result?) =
        some (.error (.reported (.cancelled "Query was cancelled" 3))) := by
    cbv
  obtain ⟨run, hrun, hover⟩ := Option.bind_eq_some_iff.1 hresult
  have hstage := QueryRun.stage_of_result hover
  exact ⟨hsigned, run, hrun, hstage,
    ((WarehouseClient.cancellation_exact hsigned hrun).1 _ hstage rfl).1⟩

end SemanticLayer
