import Mathlib.Data.List.Perm.Basic
import SemanticLayer.Proofs.Warehouse.Dialogue

/-!
What holds of a query in whatever order its chunks take turns. It is enough to know of each dialogue
by itself what its steps keep: no dialogue hears of the others, and each of them hands over its own
rows.
-/

namespace SemanticLayer

variable {δ σ : Type}

/-! ### Who said what -/

namespace QueryRun

variable {stage : Stage δ} {now : Conversation σ} {log : List (Speaker × Spoken)}
  {speaker : Speaker} {said : List Spoken}

theorem handed_append :
    handed ⟨stage, now, log ++ said.map (speaker, ·)⟩ =
      log.flatMap (·.2.rows) ++ said.flatMap (·.rows) := by
  rw [handed, List.flatMap_append, List.flatMap_map]

theorem stage_of_result {run : QueryRun δ σ} {result : Except Fault QueryResult}
    (h : run.result? = some result) : run.stage = .over result := by
  unfold result? at h
  split at h
  · rename_i hstage
    exact hstage.trans (congrArg Stage.over (Option.some.inj h))
  · cases h

/-- What is said by one of them was not said by the others. -/
theorem filter_said (other : Speaker) :
    (log ++ said.map (speaker, ·)).filter (·.1 == other) =
      log.filter (·.1 == other) ++ if speaker = other then said.map (speaker, ·) else [] := by
  rw [List.filter_append]
  congr 1
  split
  · rename_i hsame
    rw [List.filter_eq_self]
    intro entry hentry
    obtain ⟨spoken, -, rfl⟩ := List.mem_map.1 hentry
    exact beq_iff_eq.2 hsame
  · rename_i hother
    rw [List.filter_eq_nil_iff]
    intro entry hentry
    obtain ⟨spoken, -, rfl⟩ := List.mem_map.1 hentry
    exact fun h => hother (beq_iff_eq.1 h)

theorem handedBy_append (other : Speaker) :
    handedBy ⟨stage, now, log ++ said.map (speaker, ·)⟩ other =
      (log.filter (·.1 == other)).flatMap (·.2.rows) ++
        if speaker = other then said.flatMap (·.rows) else [] := by
  rw [handedBy, filter_said, List.flatMap_append]
  congr 1
  split
  · rw [List.flatMap_map]
  · rfl

theorem askedBy_append (other : Speaker) :
    askedBy ⟨stage, now, log ++ said.map (speaker, ·)⟩ other =
      (log.filter (·.1 == other)).filterMap (·.2.call?) ++
        if speaker = other then said.filterMap (·.call?) else [] := by
  rw [askedBy, filter_said, List.filterMap_append]
  congr 1
  split
  · rw [List.filterMap_map]
    rfl
  · rfl

theorem flatMap_of_one {α β : Type} [DecidableEq α] {items : List α} (hnodup : items.Nodup)
    (one : α) (results : List β) :
    (items.flatMap fun other => if one = other then results else []) =
      if one ∈ items then results else [] := by
  induction items with
  | nil => rfl
  | cons item rest ih =>
    obtain ⟨hitem, hrest⟩ := List.nodup_cons.1 hnodup
    rw [List.flatMap_cons, ih hrest]
    by_cases hsame : one = item
    · subst hsame
      simp [hitem]
    · simp [hsame]

/-- All rows are the rows of all speakers, one speaker after another. -/
theorem handed_perm {speakers : List Speaker} (hnodup : speakers.Nodup)
    {log : List (Speaker × Spoken)}
    (hothers : ∀ speaker, speaker ∉ speakers →
      (log.filter (·.1 == speaker)).flatMap (·.2.rows) = []) :
    (log.flatMap (·.2.rows)).Perm
      (speakers.flatMap fun speaker => (log.filter (·.1 == speaker)).flatMap (·.2.rows)) := by
  -- Each entry adds its rows in front of all rows and in front of those of one speaker.
  induction log with
  | nil => simp
  | cons entry rest ih =>
    obtain ⟨speaker, said⟩ := entry
    have hrows : ∀ other, (((speaker, said) :: rest).filter (·.1 == other)).flatMap (·.2.rows) =
        (if speaker = other then said.rows else []) ++
          (rest.filter (·.1 == other)).flatMap (·.2.rows) := by
      intro other
      by_cases hsame : speaker = other
      · simp [hsame]
      · simp [hsame]
    simp only [hrows] at hothers ⊢
    have hrest := ih fun other hother => (List.append_eq_nil_iff.1 (hothers other hother)).2
    have hfirst : (speakers.flatMap fun other => if speaker = other then said.rows else []) =
        said.rows := by
      rw [flatMap_of_one hnodup]
      split
      · rfl
      · rename_i hother
        simpa using (List.append_eq_nil_iff.1 (hothers speaker hother)).1.symm
    refine .trans ?_ (List.flatMap_append_perm speakers _ _)
    rw [hfirst]
    exact hrest.append_left said.rows

end QueryRun

/-! ### Stages of a run -/

variable {main : Dialogue δ JobResult → List Row → Prop}
  {chunk : JobResult → Int → Dialogue δ (List Row) → List Row → Prop}
  {client : WarehouseClient δ} {around : Surroundings δ σ} {sql : String} {limit : Option Int}
  {concurrency : Nat} {run later : QueryRun δ σ}

/-- The property of a chunk that is under way, or was when it finished. -/
def Worker.Fits (p : Dialogue δ (List Row) → List Row → Prop) (handed : List Row) :
    Worker δ → Prop
  | .talking dialogue => p dialogue handed
  | .finished rows => p (.done rows) handed
  | .stopped => True

theorem Worker.eq_map_finished {workers : List (Worker δ)} {chunks : List (List Row)}
    (h : workers.mapM rows? = some chunks) : workers = chunks.map .finished := by
  induction workers generalizing chunks with
  | nil =>
    obtain rfl := Option.some.inj h
    rfl
  | cons worker rest ih =>
    rw [List.mapM_cons] at h
    obtain ⟨rows, hrows, h⟩ := Option.bind_eq_some_iff.1 h
    obtain ⟨others, hothers, h⟩ := Option.bind_eq_some_iff.1 h
    obtain rfl := Option.some.inj h
    cases worker with
    | finished found =>
      obtain rfl := Option.some.inj hrows
      exact congrArg _ (ih hothers)
    | talking | stopped => cases hrows

namespace QueryRun

/-- The chunks of a run have the properties of dialogues, and nobody else has said anything. -/
structure Fetches (client : WarehouseClient δ) (limit : Option Int)
    (main : Dialogue δ JobResult → List Row → Prop)
    (chunk : JobResult → Int → Dialogue δ (List Row) → List Row → Prop)
    (handedBy : Speaker → List Row) (job : JobResult) (workers : List (Worker δ))
    (failure : Option Halt) (starts : List Int) : Prop where
  job_fits : main (.done job) (handedBy none)
  starts_eq : client.chunkStarts limit job = .ok starts
  length_eq : workers.length = starts.length
  workers_fit : ∀ (number : Nat) (start : Int) (worker : Worker δ), starts[number]? = some start →
    workers[number]? = some worker → worker.Fits (chunk job start) (handedBy (some number))
  failure_fits : ∀ why, failure = some why → ∃ start handed, chunk job start (.halted why) handed
  others_silent : ∀ number, starts.length ≤ number → handedBy (some number) = []

/-- The dialogues of a run have the properties, at whatever stage it is. -/
inductive Fits (client : WarehouseClient δ) (limit : Option Int)
    (main : Dialogue δ JobResult → List Row → Prop)
    (chunk : JobResult → Int → Dialogue δ (List Row) → List Row → Prop)
    (run : QueryRun δ σ) : Prop
  | starting {dialogue : Dialogue δ JobResult} (hstage : run.stage = .starting dialogue)
    (hmain : main dialogue (run.handedBy none)) (hothers : ∀ number, run.handedBy (some number) = [])
  | fetching {job : JobResult} {workers : List (Worker δ)} {failure : Option Halt}
    {starts : List Int} (hstage : run.stage = .fetching job workers failure)
    (h : Fetches client limit main chunk run.handedBy job workers failure starts)
  | gave {job : JobResult} {workers : List (Worker δ)} {starts : List Int}
    {chunks : List (List Row)}
    (hstage : run.stage = .over (.ok (WarehouseClient.result limit job chunks)))
    (h : Fetches client limit main chunk run.handedBy job workers none starts)
    (hchunks : workers.mapM Worker.rows? = some chunks)
  | halted {why : Halt} (hstage : run.stage = .over (.error (run.now.fault why)))
    (hwhy : (∃ handed, main (.halted why) handed) ∨
      ∃ job start handed, chunk job start (.halted why) handed)
  | unopened {job : JobResult} {fault : Fault} (hstage : run.stage = .over (.error fault))
    (hstarts : client.chunkStarts limit job = .error fault)

theorem Fits.of_starting {dialogue : Dialogue δ JobResult} (h : run.Fits client limit main chunk)
    (hstage : run.stage = .starting dialogue) :
    main dialogue (run.handedBy none) ∧ ∀ number, run.handedBy (some number) = [] := by
  cases h with
  | starting hother hmain hothers =>
    obtain rfl := Stage.starting.inj (hstage.symm.trans hother)
    exact ⟨hmain, hothers⟩
  | fetching hother | gave hother | halted hother | unopened hother =>
    cases hstage.symm.trans hother

theorem Fits.of_fetching {job : JobResult} {workers : List (Worker δ)} {failure : Option Halt}
    (h : run.Fits client limit main chunk) (hstage : run.stage = .fetching job workers failure) :
    ∃ starts, Fetches client limit main chunk run.handedBy job workers failure starts := by
  cases h with
  | fetching hother h =>
    obtain ⟨rfl, rfl, rfl⟩ := Stage.fetching.inj (hstage.symm.trans hother)
    exact ⟨_, h⟩
  | starting hother | gave hother | halted hother | unopened hother =>
    cases hstage.symm.trans hother

/-- A query that has a result has it from chunks that are all finished. -/
theorem Fits.of_result {result : QueryResult} (h : run.Fits client limit main chunk)
    (hstage : run.stage = .over (.ok result)) :
    ∃ job chunks starts, result = WarehouseClient.result limit job chunks ∧
      Fetches client limit main chunk run.handedBy job (chunks.map .finished) none starts := by
  cases h with
  | gave hother h hchunks =>
    refine ⟨_, _, _, ?_, Worker.eq_map_finished hchunks ▸ h⟩
    exact Except.ok.inj (Stage.over.inj (hstage.symm.trans hother))
  | halted hother | unopened hother =>
    cases Stage.over.inj (hstage.symm.trans hother)
  | starting hother | fetching hother => cases hstage.symm.trans hother

namespace Fetches

variable {handedBy : Speaker → List Row} {job : JobResult} {workers : List (Worker δ)}
  {failure : Option Halt} {starts : List Int} {number : Nat}

/-- A chunk goes on, or is settled; whatever it has said is added to its rows. -/
theorem set (h : Fetches client limit main chunk handedBy job workers failure starts)
    {others : Speaker → List Row} {worker : Worker δ} {later : Option Halt} (rows : List Row)
    (hnumber : number < workers.length)
    (hworker : ∀ start, starts[number]? = some start →
      worker.Fits (chunk job start) (handedBy (some number) ++ rows))
    (hlater : ∀ why, later = some why → failure = some why ∨
      ∃ start handed, chunk job start (.halted why) handed)
    (hothers : ∀ speaker, others speaker =
      handedBy speaker ++ if some number = speaker then rows else []) :
    Fetches client limit main chunk others job (workers.set number worker) later starts where
  job_fits := by
    rw [hothers none, if_neg (Option.some_ne_none number), List.append_nil]
    exact h.job_fits
  starts_eq := h.starts_eq
  length_eq := by rw [List.length_set, h.length_eq]
  workers_fit other start found hstart hfound := by
    rw [hothers (some other)]
    by_cases hsame : number = other
    · subst hsame
      rw [List.getElem?_set_self hnumber, Option.some.injEq] at hfound
      rw [if_pos rfl, ← hfound]
      exact hworker start hstart
    · rw [List.getElem?_set_ne hsame] at hfound
      rw [if_neg fun heq => hsame (Option.some.inj heq), List.append_nil]
      exact h.workers_fit other start found hstart hfound
  failure_fits why hwhy := by
    rcases hlater why hwhy with hsame | hnew
    · exact h.failure_fits why hsame
    · exact hnew
  others_silent other hother := by
    have hne : some number ≠ some other := by
      have hlength := h.length_eq
      simp only [ne_eq, Option.some.injEq]
      omega
    rw [hothers (some other), if_neg hne, h.others_silent other hother, List.append_nil]

/-- What came with the job and what each chunk has handed over is all that was handed over. -/
theorem handed_perm_chunks
    (h : Fetches client limit main chunk run.handedBy job workers failure starts)
    {chunks : List (List Row)} (hlength : chunks.length = starts.length)
    (hchunks : ∀ number rows, chunks[number]? = some rows → run.handedBy (some number) = rows) :
    run.handed.Perm (run.handedBy none ++ chunks.flatten) := by
  have hnodup : (none :: (List.range chunks.length).map some : List Speaker).Nodup := by
    refine List.nodup_cons.2 ⟨by simp, ?_⟩
    exact List.Pairwise.map some (fun _ _ hne heq => hne (Option.some.inj heq)) List.nodup_range
  have hsilent : ∀ speaker, speaker ∉ (none :: (List.range chunks.length).map some : List Speaker) →
      run.handedBy speaker = [] := by
    intro speaker hother
    cases speaker with
    | none => simp at hother
    | some number => exact h.others_silent number (by simpa [hlength] using hother)
  have hperm : run.handed.Perm
      ((none :: (List.range chunks.length).map some).flatMap run.handedBy) :=
    handed_perm hnodup hsilent
  have hflatten : ((List.range chunks.length).map some).flatMap run.handedBy = chunks.flatten := by
    rw [List.flatMap_map, List.flatMap_def]
    congr 1
    refine List.ext_getElem (by simp) fun number _ hnumber => ?_
    rw [List.getElem_map, List.getElem_range]
    exact hchunks number _ (List.getElem?_eq_getElem hnumber)
  rw [List.flatMap_cons, hflatten] at hperm
  exact hperm

/-- A chunk is settled without a word. -/
theorem settle (h : Fetches client limit main chunk handedBy job workers failure starts)
    {worker : Worker δ} {later : Option Halt} (hnumber : number < workers.length)
    (hworker : ∀ start, starts[number]? = some start →
      worker.Fits (chunk job start) (handedBy (some number)))
    (hlater : ∀ why, later = some why → failure = some why ∨
      ∃ start handed, chunk job start (.halted why) handed) :
    Fetches client limit main chunk handedBy job (workers.set number worker) later starts := by
  refine h.set [] hnumber (fun start hstart => ?_) hlater fun speaker => ?_
  · rw [List.append_nil]
    exact hworker start hstart
  · rw [ite_self, List.append_nil]

end Fetches

end QueryRun

/-! ### Turns -/

variable [Duration δ]

/-- What a turn can do to a run. -/
inductive QueryRun.Turns (client : WarehouseClient δ) (around : Surroundings δ σ)
    (limit : Option Int) (run : QueryRun δ σ) : QueryRun δ σ → Prop
  | outside (change : σ → σ) :
    Turns client around limit run { run with now.world := change run.now.world }
  | opened {job : JobResult} (hstage : run.stage = .starting (.done job)) :
    Turns client around limit run { run with stage := client.opened limit job }
  | halted {why : Halt} (hstage : run.stage = .starting (.halted why)) :
    Turns client around limit run { run with stage := .over (.error (run.now.fault why)) }
  | query {dialogue : Dialogue δ JobResult} (hstage : run.stage = .starting dialogue) :
    Turns client around limit run
      ⟨.starting (dialogue.step around run.now).1, (dialogue.step around run.now).2,
        run.log ++ dialogue.spoken.map (none, ·)⟩
  | finish {job : JobResult} {workers : List (Worker δ)} {failure : Option Halt} {number : Nat}
      {rows : List Row} (hstage : run.stage = .fetching job workers failure)
      (hworker : workers[number]? = some (.talking (.done rows))) :
    Turns client around limit run
      { run with stage := .fetching job (workers.set number (.finished rows)) failure }
  | fail {job : JobResult} {workers : List (Worker δ)} {failure : Option Halt} {number : Nat}
      {why : Halt} (hstage : run.stage = .fetching job workers failure)
      (hworker : workers[number]? = some (.talking (.halted why))) :
    Turns client around limit run
      { run with stage := .fetching job (workers.set number .stopped) (failure.or (some why)) }
  | chunk {job : JobResult} {workers : List (Worker δ)} {failure : Option Halt} {number : Nat}
      {dialogue : Dialogue δ (List Row)} (hstage : run.stage = .fetching job workers failure)
      (hworker : workers[number]? = some (.talking dialogue)) :
    Turns client around limit run
      ⟨.fetching job (workers.set number (.talking (dialogue.step around run.now).1)) failure,
        (dialogue.step around run.now).2, run.log ++ dialogue.spoken.map (some number, ·)⟩
  | stop {job : JobResult} {workers : List (Worker δ)} {why : Halt} {number : Nat}
      {dialogue : Dialogue δ (List Row)} (hstage : run.stage = .fetching job workers (some why))
      (hworker : workers[number]? = some (.talking dialogue)) :
    Turns client around limit run
      { run with stage := .fetching job (workers.set number .stopped) (some why) }
  | report {job : JobResult} {workers : List (Worker δ)} {why : Halt}
      (hstage : run.stage = .fetching job workers (some why)) :
    Turns client around limit run { run with stage := .over (.error (run.now.fault why)) }
  | give {job : JobResult} {workers : List (Worker δ)} {chunks : List (List Row)}
      (hstage : run.stage = .fetching job workers none)
      (hchunks : workers.mapM Worker.rows? = some chunks) :
    Turns client around limit run
      { run with stage := .over (.ok (WarehouseClient.result limit job chunks)) }

theorem WarehouseClient.queryTurn_turns {dialogue : Dialogue δ JobResult}
    (hstage : run.stage = .starting dialogue) :
    run.Turns client around limit (client.queryTurn around limit dialogue run) := by
  unfold queryTurn
  split
  · exact .opened hstage
  · exact .halted hstage
  · exact .query hstage

theorem WarehouseClient.chunkTurn_turns {job : JobResult} {workers : List (Worker δ)}
    {failure : Option Halt} {number : Nat} {dialogue : Dialogue δ (List Row)}
    (hstage : run.stage = .fetching job workers failure)
    (hworker : workers[number]? = some (.talking dialogue)) :
    run.Turns client around limit
      (chunkTurn around job workers failure number dialogue run) := by
  unfold chunkTurn
  split
  · exact .finish hstage hworker
  · exact .fail hstage hworker
  · exact .chunk hstage hworker

theorem WarehouseClient.turns_of_turn {turn : Turn σ}
    (h : client.turn around concurrency limit run turn = some later) :
    run.Turns client around limit later := by
  cases turn with
  | outside change =>
    obtain rfl := Option.some.inj h
    exact .outside change
  | query =>
    simp only [WarehouseClient.turn] at h
    split at h
    · rename_i dialogue hstage
      obtain rfl := Option.some.inj h
      exact queryTurn_turns hstage
    · cases h
  | chunk number =>
    simp only [WarehouseClient.turn] at h
    split at h
    · rename_i job workers failure hstage
      split at h
      · rename_i dialogue hworker
        split at h
        · obtain rfl := Option.some.inj h
          exact chunkTurn_turns hstage hworker
        · cases h
      · cases h
    · cases h
  | stop number =>
    simp only [WarehouseClient.turn] at h
    split at h
    · rename_i job workers why hstage
      split at h
      · rename_i dialogue hworker
        obtain rfl := Option.some.inj h
        exact .stop hstage hworker
      · cases h
    · cases h
  | close =>
    simp only [WarehouseClient.turn] at h
    split at h
    · rename_i job workers failure hstage
      obtain ⟨result, hclosed, rfl⟩ := Option.map_eq_some_iff.1 h
      unfold closed at hclosed
      split at hclosed
      · split at hclosed
        · cases hclosed
        · obtain rfl := Option.some.inj hclosed
          exact .report hstage
      · obtain ⟨chunks, hchunks, rfl⟩ := Option.map_eq_some_iff.1 hclosed
        exact .give hstage hchunks
    · cases h

/-- What each turn keeps, a run keeps. -/
theorem WarehouseClient.follow_keeps {p : QueryRun δ σ → Prop}
    (hturn : ∀ run later, run.Turns client around limit later → p run → p later)
    {turns : List (Turn σ)} (h : client.follow around concurrency limit turns run = some later)
    (hrun : p run) : p later := by
  induction turns generalizing run with
  | nil => exact Option.some.inj h ▸ hrun
  | cons turn rest ih =>
    obtain ⟨between, hfirst, hrest⟩ := Option.bind_eq_some_iff.1 h
    exact ih hrest (hturn run between (turns_of_turn hfirst) hrun)

namespace QueryRun.Turns

/-- Every row is counted when it is handed over. -/
theorem delivered (hturn : run.Turns client around limit later)
    (h : run.now.delivered = run.handed.length) : later.now.delivered = later.handed.length := by
  cases hturn with
  | query hstage =>
    rw [handed_append, List.length_append, Dialogue.step_delivered, h]
    rfl
  | chunk hstage hworker =>
    rw [handed_append, List.length_append, Dialogue.step_delivered, h]
    rfl
  | outside | opened | halted | finish | fail | stop | report | give => exact h

/-- A query that is over stays as it is. -/
theorem of_over {result : Except Fault QueryResult}
    (hturn : run.Turns client around limit later) (hover : run.stage = .over result) :
    later.stage = run.stage ∧ later.log = run.log := by
  cases hturn with
  | outside change => exact ⟨rfl, rfl⟩
  | opened hstage | halted hstage | query hstage | finish hstage | fail hstage | chunk hstage
  | stop hstage | report hstage | give hstage => cases hover.symm.trans hstage

end QueryRun.Turns

/-- Properties of the dialogues of a query and of the rows that each of them has handed over. They
hold when a dialogue begins, and are kept by its steps. -/
structure WarehouseClient.DialoguesKeep (client : WarehouseClient δ) (around : Surroundings δ σ)
    (sql : String) (limit : Option Int) (main : Dialogue δ JobResult → List Row → Prop)
    (chunk : JobResult → Int → Dialogue δ (List Row) → List Row → Prop) : Prop where
  begin : main (client.start sql limit) []
  query : ∀ dialogue handed (now : Conversation σ), main dialogue handed →
    main (dialogue.step around now).1 (handed ++ dialogue.spoken.flatMap (·.rows))
  opened : ∀ job handed starts, main (.done job) handed →
    client.chunkStarts limit job = .ok starts → ∀ start ∈ starts,
      chunk job start (client.fetchChunk limit job start) []
  chunk : ∀ job start dialogue handed (now : Conversation σ), chunk job start dialogue handed →
    chunk job start (dialogue.step around now).1 (handed ++ dialogue.spoken.flatMap (·.rows))

namespace QueryRun

/-- The chunks of a job begin, if the job can be split into chunks. -/
theorem Fits.opened {job : JobResult} (h : run.Fits client limit main chunk)
    (hkeep : client.DialoguesKeep around sql limit main chunk)
    (hstage : run.stage = .starting (.done job)) :
    Fits client limit main chunk { run with stage := client.opened limit job } := by
  obtain ⟨hmain, hothers⟩ := h.of_starting hstage
  cases hstarts : client.chunkStarts limit job with
  | error fault => exact .unopened (by simp only [WarehouseClient.opened, hstarts]) hstarts
  | ok starts =>
    have hfetches : Fetches client limit main chunk run.handedBy job
        (starts.map fun start => .talking (client.fetchChunk limit job start)) none starts := {
      job_fits := hmain
      starts_eq := hstarts
      length_eq := List.length_map _
      workers_fit := by
        intro number start worker hstart hworker
        rw [List.getElem?_map, hstart] at hworker
        obtain rfl := Option.some.inj hworker
        have hchunk := hkeep.opened job _ starts hmain hstarts start (List.mem_of_getElem? hstart)
        exact (hothers number).symm ▸ hchunk
      failure_fits := by simp
      others_silent := fun number _ => hothers number }
    exact .fetching (by simp only [WarehouseClient.opened, hstarts]) hfetches

omit [Duration δ] in
/-- A chunk is settled; if there is a new reason for the query to fail, the chunk halted for it. -/
theorem Fits.settle {job : JobResult} {workers : List (Worker δ)} {failure later : Option Halt}
    {number : Nat} {dialogue : Dialogue δ (List Row)} {worker : Worker δ}
    (h : run.Fits client limit main chunk) (hstage : run.stage = .fetching job workers failure)
    (hworker : workers[number]? = some (.talking dialogue))
    (hsettled : ∀ start handed, chunk job start dialogue handed →
      worker.Fits (chunk job start) handed)
    (hlater : ∀ why, later = some why → failure = some why ∨ dialogue = .halted why) :
    Fits client limit main chunk
      { run with stage := .fetching job (workers.set number worker) later } := by
  obtain ⟨starts, hfetches⟩ := h.of_fetching hstage
  obtain ⟨hnumber, -⟩ := List.getElem?_eq_some_iff.1 hworker
  have hlength : number < starts.length := hfetches.length_eq ▸ hnumber
  have hdialogue : ∀ start, starts[number]? = some start →
      chunk job start dialogue (run.handedBy (some number)) :=
    fun start hstart => hfetches.workers_fit number start _ hstart hworker
  refine .fetching rfl (hfetches.settle hnumber
    (fun start hstart => hsettled start _ (hdialogue start hstart)) fun why hwhy => ?_)
  rcases hlater why hwhy with hsame | rfl
  · exact .inl hsame
  · exact .inr ⟨_, _, hdialogue _ (List.getElem?_eq_getElem hlength)⟩

/-- Each turn keeps what the dialogues keep. -/
theorem Turns.fits (hturn : run.Turns client around limit later)
    (hkeep : client.DialoguesKeep around sql limit main chunk)
    (h : run.Fits client limit main chunk) : later.Fits client limit main chunk := by
  cases hturn with
  | outside change =>
    -- Only the world changes, on which no dialogue depends, nor what a query fails with.
    cases h with
    | starting hstage hmain hothers => exact .starting hstage hmain hothers
    | fetching hstage h => exact .fetching hstage h
    | gave hstage h hchunks => exact .gave hstage h hchunks
    | @halted why hstage hwhy =>
      have hfault : ({ run.now with world := change run.now.world } : Conversation σ).fault why =
          run.now.fault why := by
        cases why <;> rfl
      exact .halted (hfault ▸ hstage) hwhy
    | unopened hstage hstarts => exact .unopened hstage hstarts
  | opened hstage => exact h.opened hkeep hstage
  | halted hstage => exact .halted rfl (.inl ⟨_, (h.of_starting hstage).1⟩)
  | query hstage =>
    obtain ⟨hmain, hothers⟩ := h.of_starting hstage
    refine .starting rfl ?_ fun number => ?_
    · rw [handedBy_append, if_pos rfl]
      exact hkeep.query _ _ run.now hmain
    · rw [handedBy_append, if_neg (Option.some_ne_none number).symm, List.append_nil]
      exact hothers number
  | finish hstage hworker =>
    exact h.settle hstage hworker (fun _ _ hdialogue => hdialogue) fun _ hwhy => .inl hwhy
  | fail hstage hworker =>
    refine h.settle hstage hworker (fun _ _ _ => trivial) fun other hother => ?_
    rcases Option.or_eq_some_iff.1 hother with hsame | ⟨-, hnew⟩
    · exact .inl hsame
    · exact .inr (congrArg _ (Option.some.inj hnew))
  | @chunk job workers failure number dialogue hstage hworker =>
    obtain ⟨starts, hfetches⟩ := h.of_fetching hstage
    obtain ⟨hnumber, -⟩ := List.getElem?_eq_some_iff.1 hworker
    refine .fetching rfl (hfetches.set _ hnumber (fun start hstart => ?_) (fun _ hwhy => .inl hwhy)
      fun speaker => handedBy_append speaker)
    exact hkeep.chunk job start dialogue _ run.now
      (hfetches.workers_fit number start _ hstart hworker)
  | stop hstage hworker =>
    exact h.settle hstage hworker (fun _ _ _ => trivial) fun _ hwhy => .inl hwhy
  | report hstage =>
    obtain ⟨starts, hfetches⟩ := h.of_fetching hstage
    exact .halted rfl (.inr ⟨_, hfetches.failure_fits _ rfl⟩)
  | give hstage hchunks =>
    obtain ⟨starts, hfetches⟩ := h.of_fetching hstage
    exact .gave rfl hfetches hchunks

end QueryRun

/-- In every run the dialogues have the properties that they keep by themselves. -/
theorem WarehouseClient.follow_fits {now : Conversation σ} {turns : List (Turn σ)}
    (hkeep : client.DialoguesKeep around sql limit main chunk)
    (h : client.follow around concurrency limit turns (client.begin sql limit now) = some later) :
    later.Fits client limit main chunk :=
  follow_keeps (fun _ _ hturn hfits => hturn.fits hkeep hfits) h
    (.starting rfl hkeep.begin fun _ => rfl)

end SemanticLayer
