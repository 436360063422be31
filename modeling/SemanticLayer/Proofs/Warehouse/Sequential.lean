import SemanticLayer.Execution.Script
import SemanticLayer.Proofs.Warehouse.Schedule

/-!
A query whose chunks are fetched one after another is one of the runs in which they take turns.
-/

namespace SemanticLayer

variable {δ σ : Type}

/-- The dialogue that is at its end with an outcome. -/
def Dialogue.ofOutcome {α : Type} : Except Halt α → Dialogue δ α
  | .ok result => .done result
  | .error why => .halted why

/-- The chunk that is settled with an outcome. -/
def Worker.ofOutcome : Except Halt (List Row) → Worker δ
  | .ok rows => .finished rows
  | .error _ => .stopped

theorem Worker.isTalking_ofOutcome (outcome : Except Halt (List Row)) :
    (ofOutcome outcome : Worker δ).isTalking = false := by
  cases outcome <;> rfl

/-- The first reason for which one of the chunks halted. -/
def firstHalt : List (Except Halt (List Row)) → Option Halt
  | [] => none
  | .ok _ :: rest => firstHalt rest
  | .error why :: _ => some why

theorem firstHalt_cons (outcome : Except Halt (List Row)) (rest : List (Except Halt (List Row))) :
    firstHalt (outcome :: rest) = (firstHalt [outcome]).or (firstHalt rest) := by
  cases outcome <;> rfl

theorem mapM_outcomes (outcomes : List (Except Halt (List Row))) :
    (∃ why, firstHalt outcomes = some why ∧ outcomes.mapM id = .error why) ∨
      ∃ chunks, firstHalt outcomes = none ∧ outcomes.mapM id = .ok chunks ∧
        (outcomes.map fun outcome => (.ofOutcome outcome : Worker δ)).mapM Worker.rows? =
          some chunks := by
  induction outcomes with
  | nil => exact .inr ⟨[], rfl, rfl, rfl⟩
  | cons outcome rest ih =>
    cases outcome with
    | error why => exact .inl ⟨why, rfl, rfl⟩
    | ok rows =>
      rcases ih with ⟨why, hfirst, hrest⟩ | ⟨chunks, hfirst, hrest, hworkers⟩
      · refine .inl ⟨why, hfirst, ?_⟩
        rw [List.mapM_cons, hrest]
        rfl
      · refine .inr ⟨rows :: chunks, hfirst, ?_, ?_⟩
        · rw [List.mapM_cons, hrest]
          rfl
        · rw [List.map_cons, List.mapM_cons, hworkers]
          rfl

namespace WarehouseClient

variable [Duration δ] {client : WarehouseClient δ} {around : Surroundings δ σ} {concurrency : Nat}
  {limit : Option Int}

theorem follow_append (first rest : List (Turn σ)) (run : QueryRun δ σ) :
    client.follow around concurrency limit (first ++ rest) run =
      (client.follow around concurrency limit first run).bind
        (client.follow around concurrency limit rest) := by
  induction first generalizing run with
  | nil => rfl
  | cons turn first ih =>
    rw [List.cons_append, follow, follow, Option.bind_assoc]
    exact congrArg _ (funext ih)

/-- There are turns that lead from one run to another. -/
def Leads (client : WarehouseClient δ) (around : Surroundings δ σ) (concurrency : Nat)
    (limit : Option Int) (run later : QueryRun δ σ) : Prop :=
  ∃ turns, client.follow around concurrency limit turns run = some later

theorem Leads.refl (run : QueryRun δ σ) : client.Leads around concurrency limit run run :=
  ⟨[], rfl⟩

theorem Leads.trans {one two three : QueryRun δ σ} (h : client.Leads around concurrency limit one two)
    (hlast : client.Leads around concurrency limit two three) :
    client.Leads around concurrency limit one three := by
  obtain ⟨first, hfirst⟩ := h
  obtain ⟨rest, hrest⟩ := hlast
  exact ⟨first ++ rest, by rw [follow_append, hfirst]; exact hrest⟩

theorem Leads.turn {run later : QueryRun δ σ} (turn : Turn σ)
    (h : client.turn around concurrency limit run turn = some later) :
    client.Leads around concurrency limit run later :=
  ⟨[turn], by rw [follow, h]; rfl⟩

variable (client around limit)

/-- The query can go on alone to the end of its own dialogue. -/
theorem leads_query (concurrency : Nat) (dialogue : Dialogue δ JobResult) (now : Conversation σ)
    (log : List (Speaker × Spoken)) :
    ∃ last, client.Leads around concurrency limit ⟨.starting dialogue, now, log⟩
      ⟨.starting (.ofOutcome (dialogue.run around now).1), (dialogue.run around now).2, last⟩ := by
  induction dialogue generalizing now log with
  | done result => exact ⟨log, .refl _⟩
  | halted why => exact ⟨log, .refl _⟩
  | ask call next ih =>
    obtain ⟨last, h⟩ := ih (now.exchange around call).1 (now.exchange around call).2 _
    exact ⟨last, .trans (.turn .query rfl) h⟩
  | renew next ih =>
    obtain ⟨last, h⟩ := ih (now.renew around) _
    exact ⟨last, .trans (.turn .query rfl) h⟩
  | pause time next ih =>
    obtain ⟨last, h⟩ := ih (now.pause around time) _
    exact ⟨last, .trans (.turn .query rfl) h⟩
  | look next ih =>
    obtain ⟨last, h⟩ := ih (around.isCancelled now.world) now _
    exact ⟨last, .trans (.turn .query rfl) h⟩
  | deliver rows next ih =>
    obtain ⟨last, h⟩ := ih (now.deliver around rows) _
    exact ⟨last, .trans (.turn .query rfl) h⟩

variable {before : List (Worker δ)} (job : JobResult)

/-- The first chunk that is not settled may take its turn. -/
theorem turn_chunk (hbefore : ∀ worker ∈ before, worker.isTalking = false)
    (hconcurrency : 0 < concurrency) (rest : List (Worker δ)) (failure : Option Halt)
    (dialogue : Dialogue δ (List Row)) (now : Conversation σ) (log : List (Speaker × Spoken)) :
    client.turn around concurrency limit
        ⟨.fetching job (before ++ .talking dialogue :: rest) failure, now, log⟩
        (.chunk before.length) =
      some (chunkTurn around job (before ++ .talking dialogue :: rest) failure before.length
        dialogue ⟨.fetching job (before ++ .talking dialogue :: rest) failure, now, log⟩) := by
  have hfound : (before ++ .talking dialogue :: rest)[before.length]? =
      some (.talking dialogue) := by
    simp
  have hnone : ((before ++ .talking dialogue :: rest).take before.length).countP
      (·.isTalking) = 0 := by
    rw [List.take_left, List.countP_eq_zero]
    exact fun worker hworker => by simp [hbefore worker hworker]
  simp only [turn, hfound, hnone, if_pos hconcurrency]

theorem leads_chunk (hbefore : ∀ worker ∈ before, worker.isTalking = false)
    (hconcurrency : 0 < concurrency) (rest : List (Worker δ)) (failure : Option Halt)
    (dialogue : Dialogue δ (List Row)) (now : Conversation σ) (log : List (Speaker × Spoken)) :
    ∃ last, client.Leads around concurrency limit
      ⟨.fetching job (before ++ .talking dialogue :: rest) failure, now, log⟩
      ⟨.fetching job (before ++ .ofOutcome (dialogue.run around now).1 :: rest)
          (failure.or (firstHalt [(dialogue.run around now).1])),
        (dialogue.run around now).2, last⟩ := by
  have hset : ∀ worker worker' : Worker δ,
      (before ++ worker :: rest).set before.length worker' = before ++ worker' :: rest := by
    simp
  -- No chunk before this one is under way, so that it may take all turns of its dialogue.
  have hturn := turn_chunk client around limit job hbefore hconcurrency rest failure
  induction dialogue generalizing now log with
  | done result =>
    refine ⟨log, .turn _ ((hturn _ _ _).trans ?_)⟩
    simp [chunkTurn, hset, Dialogue.run, Worker.ofOutcome, firstHalt]
  | halted why =>
    refine ⟨log, .turn _ ((hturn _ _ _).trans ?_)⟩
    simp [chunkTurn, hset, Dialogue.run, Worker.ofOutcome, firstHalt]
  | ask call next ih =>
    obtain ⟨last, h⟩ := ih (now.exchange around call).1 (now.exchange around call).2
      (log ++ [(some before.length, .asked call)])
    refine ⟨last, .trans (.turn _ ((hturn _ _ _).trans ?_)) h⟩
    simp [chunkTurn, hset, Dialogue.step, Dialogue.spoken]
  | renew next ih =>
    obtain ⟨last, h⟩ := ih (now.renew around) log
    refine ⟨last, .trans (.turn _ ((hturn _ _ _).trans ?_)) h⟩
    simp [chunkTurn, hset, Dialogue.step, Dialogue.spoken]
  | pause time next ih =>
    obtain ⟨last, h⟩ := ih (now.pause around time) log
    refine ⟨last, .trans (.turn _ ((hturn _ _ _).trans ?_)) h⟩
    simp [chunkTurn, hset, Dialogue.step, Dialogue.spoken]
  | look next ih =>
    obtain ⟨last, h⟩ := ih (around.isCancelled now.world) now log
    refine ⟨last, .trans (.turn _ ((hturn _ _ _).trans ?_)) h⟩
    simp [chunkTurn, hset, Dialogue.step, Dialogue.spoken]
  | deliver rows next ih =>
    obtain ⟨last, h⟩ := ih (now.deliver around rows) (log ++ [(some before.length, .handed rows)])
    refine ⟨last, .trans (.turn _ ((hturn _ _ _).trans ?_)) h⟩
    simp [chunkTurn, hset, Dialogue.step, Dialogue.spoken]

theorem leads_chunks (hbefore : ∀ worker ∈ before, worker.isTalking = false)
    (hconcurrency : 0 < concurrency) (failure : Option Halt)
    (dialogues : List (Dialogue δ (List Row))) (now : Conversation σ)
    (log : List (Speaker × Spoken)) :
    ∃ last, client.Leads around concurrency limit
      ⟨.fetching job (before ++ dialogues.map .talking) failure, now, log⟩
      ⟨.fetching job (before ++ (Dialogue.runEach around dialogues now).1.map .ofOutcome)
          (failure.or (firstHalt (Dialogue.runEach around dialogues now).1)),
        (Dialogue.runEach around dialogues now).2, last⟩ := by
  induction dialogues generalizing before failure now log with
  | nil =>
    refine ⟨log, ?_⟩
    simp only [Dialogue.runEach, firstHalt, Option.or_none]
    exact .refl _
  | cons dialogue rest ih =>
    obtain ⟨between, hfirst⟩ := leads_chunk client around limit job hbefore hconcurrency
      (rest.map .talking) failure dialogue now log
    have hsettled : ∀ worker ∈ before ++ [.ofOutcome (dialogue.run around now).1],
        worker.isTalking = false := by
      intro worker hworker
      rcases List.mem_append.1 hworker with hworker | hworker
      · exact hbefore worker hworker
      · exact List.mem_singleton.1 hworker ▸ Worker.isTalking_ofOutcome _
    obtain ⟨last, hrest⟩ := ih hsettled (failure.or (firstHalt [(dialogue.run around now).1]))
      (dialogue.run around now).2 between
    refine ⟨last, ?_⟩
    simp only [List.append_assoc, List.singleton_append] at hrest
    simp only [List.map_cons, Dialogue.runEach]
    rw [firstHalt_cons, ← Option.or_assoc]
    exact hfirst.trans hrest

/-- When all chunks are settled, the query can end. -/
theorem leads_close (outcomes : List (Except Halt (List Row))) (now : Conversation σ)
    (log : List (Speaker × Spoken)) :
    client.Leads around concurrency limit
      ⟨.fetching job (outcomes.map .ofOutcome) (firstHalt outcomes), now, log⟩
      ⟨.over (((outcomes.mapM id).map (result limit job)).mapError now.fault), now, log⟩ := by
  rcases mapM_outcomes (δ := δ) outcomes with
    ⟨why, hfirst, hresult⟩ | ⟨chunks, hfirst, hresult, hworkers⟩
  · have hsettled : (outcomes.map fun outcome => (.ofOutcome outcome : Worker δ)).any
        (·.isTalking) = false := by
      simp [Worker.isTalking_ofOutcome]
    rw [hfirst, hresult]
    exact .turn .close (by simp only [turn, closed, hsettled]; rfl)
  · rw [hfirst, hresult]
    exact .turn .close (by simp only [turn, closed, hworkers]; rfl)

/-- Whatever a query comes to when its chunks are fetched one after another, it can come to when they
take turns. -/
theorem query_followed {concurrency : Nat} (hconcurrency : 0 < concurrency) (sql : String)
    (now : Conversation σ) :
    ∃ turns log, client.follow around concurrency limit turns (client.begin sql limit now) =
      some ⟨.over (client.query around sql limit now).1, (client.query around sql limit now).2,
        log⟩ := by
  obtain ⟨log, hstart⟩ := leads_query client around limit concurrency (client.start sql limit)
    { now with delivered := 0 } []
  unfold query
  generalize (client.start sql limit).run around { now with delivered := 0 } = started at hstart ⊢
  obtain ⟨outcome, later⟩ := started
  cases outcome with
  | error why =>
    obtain ⟨turns, hturns⟩ := hstart.trans (.turn .query rfl)
    exact ⟨turns, log, hturns⟩
  | ok job =>
    dsimp only
    have hopened := hstart.trans (.turn .query rfl)
    cases hstarts : client.chunkStarts limit job with
    | error fault =>
      obtain ⟨turns, hturns⟩ := hopened
      refine ⟨turns, log, hturns.trans ?_⟩
      simp only [queryTurn, Dialogue.ofOutcome, opened, hstarts]
    | ok starts =>
      dsimp only
      have hfetching : client.queryTurn around limit (.ofOutcome (.ok job))
            ⟨.starting (.ofOutcome (.ok job)), later, log⟩ =
          ⟨.fetching job (starts.map fun start => .talking (client.fetchChunk limit job start)) none,
            later, log⟩ := by
        simp only [queryTurn, Dialogue.ofOutcome, opened, hstarts]
      have hbefore : ∀ worker ∈ ([] : List (Worker δ)), worker.isTalking = false := by simp
      obtain ⟨last, hchunks⟩ := leads_chunks client around limit job hbefore hconcurrency none
        (starts.map (client.fetchChunk limit job)) later log
      rw [hfetching] at hopened
      rw [List.map_map, List.nil_append, List.nil_append, Option.none_or] at hchunks
      generalize Dialogue.runEach around (starts.map (client.fetchChunk limit job)) later = chunks
        at hchunks ⊢
      obtain ⟨outcomes, ended⟩ := chunks
      obtain ⟨turns, hturns⟩ :=
        (hopened.trans hchunks).trans (leads_close client around limit job outcomes ended last)
      refine ⟨turns, last, hturns.trans ?_⟩
      cases outcomes.mapM id <;> rfl

end WarehouseClient

/-! ### Four rows -/

/-- Four rows, of which one comes with the job and the others come one at a time. -/
def fourRows : ServedTable :=
  { fields := .list [.object [("name", .text "id"), ("type", .text "STRING")]]
    rows := [[.text "a"], [.text "b"], [.text "c"], [.text "d"]], firstPage := 1, pageSize := 1 }

/-- Surroundings that serve the rows and cancel the query after a number of pages. -/
def servingFourRows (pages : Nat) : Surroundings Rat Nat :=
  { send := fun _ call taken => (fourRows.reply call, taken), pause := fun _ taken => taken
    isCancelled := fun taken => pages ≤ taken, deliver := fun _ taken => taken + 1
    environment := fun _ _ => none }

/-- A client that fetches two rows with each chunk. -/
def pairwise : WarehouseClient Rat :=
  { project := "p", apiBase := "", queryTimeout := 10, maxRetries := 0, initialBackoff := 1
    pollInitial := 1, pollMax := 1, chunkSize := 2 }

/-- A conversation in which nothing was said. -/
def silence : Conversation Nat := ⟨0, ⟨"TOKEN", some "t"⟩, 0⟩

example : ((pairwise.query (servingFourRows 9) "" none silence).1.map (·.rows)).toOption =
    some [[("id", .text "a")], [("id", .text "b")], [("id", .text "c")], [("id", .text "d")]] := by
  cbv

end SemanticLayer
