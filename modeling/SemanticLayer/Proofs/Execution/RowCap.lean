import SemanticLayer.Execution.Basic
import SemanticLayer.Proofs.Plan.Ordering
import SemanticLayer.Proofs.Plan.Template
import SemanticLayer.Proofs.Warehouse.Paging
import SemanticLayer.Settings.Startup

/-!
The greatest number of rows. Settings without errors have limits that leave room for a row. Every
plan made with such limits ends with a limit of its own within them; and whatever an engine sends,
no more rows are taken from it, whether the statement was planned or written by hand.
-/

namespace SemanticLayer

/-! ### Limits -/

/-- Limits that leave room for a row. -/
structure RowLimits.Sound (limits : RowLimits) : Prop where
  default_pos : 1 ≤ limits.default
  default_le : limits.default ≤ limits.max

namespace RowLimits

variable {limits : RowLimits}

theorem Sound.max_pos (h : limits.Sound) : 1 ≤ limits.max :=
  h.default_pos.trans h.default_le

/-- Whatever is asked for, the limit of a plan is within the limits. -/
theorem Sound.resolve (h : limits.Sound) (requested : Option Int) :
    1 ≤ limits.resolve requested ∧ limits.resolve requested ≤ limits.max := by
  have hmax := h.max_pos
  cases requested with
  | none => exact ⟨h.default_pos, h.default_le⟩
  | some n =>
    unfold RowLimits.resolve
    dsimp only
    omega

theorem sound_iff : StartupCheck.limitErrors limits = [] ↔ limits.Sound := by
  unfold StartupCheck.limitErrors
  constructor
  · intro h
    split at h
    · cases h
    · split at h
      · rename_i hdefault
        simp only [Bool.and_eq_true, decide_eq_true_eq] at hdefault
        exact ⟨hdefault.1, hdefault.2⟩
      · cases h
  · intro h
    have hmax := h.max_pos
    rw [if_neg (by omega), if_pos (by simp [h.default_pos, h.default_le])]

end RowLimits

/-- Settings without errors can be read, and their limits leave room for a row. -/
theorem StartupCheck.exists_settings {env : Environment}
    (h : (StartupCheck.settings env).errors = []) :
    ∃ settings, Settings.read env = .ok settings ∧ settings.limits.Sound := by
  unfold StartupCheck.settings at h
  split at h
  · cases h
  · rename_i settings hread
    exact ⟨settings, hread, RowLimits.sound_iff.1 (List.append_eq_nil_iff.1 h).1⟩

theorem Settings.readInteger_max {env : Environment} {settings : Settings}
    (h : Settings.read env = .ok settings) :
    Settings.readInteger env "QUERY_MAX_LIMIT" 5000 = .ok settings.limits.max := by
  unfold Settings.read at h
  simp only [bind_eq_ok, pure_eq_ok] at h
  obtain ⟨severity, -, default, -, max, hmax, distinctLimit, -, rfl⟩ := h
  exact hmax

/-! ### Statements -/

/-- The limit stands at the end of a statement. -/
theorem SelectStatement.write_ends (statement : SelectStatement) :
    ∃ before, statement.write = before ++ "\nLIMIT " ++ toString statement.limit := by
  obtain ⟨lines, hlines, hne⟩ : ∃ lines,
      statement.lines = lines ++ ["LIMIT " ++ toString statement.limit] ∧ lines ≠ [] := by
    rw [lines_eq, linesAfter, ← List.append_assoc, ← List.append_assoc]
    exact ⟨_, rfl, List.append_ne_nil_of_left_ne_nil
      (List.append_ne_nil_of_left_ne_nil statement.linesBefore_ne_nil _) _⟩
  have hbreak : "\nLIMIT " = "\n" ++ "LIMIT " := by decide
  refine ⟨"\n".intercalate lines, ?_⟩
  rw [write, hlines, String.intercalate_append_of_ne_nil hne (List.cons_ne_nil _ _),
    String.intercalate_singleton, hbreak]
  simp only [String.append_assoc]

/-- A plan ends with its limit. -/
theorem QueryPlan.sql_ends {limits : RowLimits} {catalog : Catalog} {spec : QuerySpec}
    {plan : QueryPlan} (h : QueryPlan.build limits catalog spec = .ok plan) :
    ∃ before, plan.sql = before ++ "\nLIMIT " ++ toString (limits.resolve spec.limit) := by
  obtain ⟨stages, -, rfl⟩ := build_eq_ok h
  exact (stages.statement limits spec).write_ends

/-! ### Rows -/

variable {δ σ : Type}

theorem length_cut_le {α : Type} {n : Int} (hn : 1 ≤ n) (items : List α) :
    ((cut n items).length : Int) ≤ n := by
  unfold cut
  rw [if_neg (by omega)]
  have htake := List.length_take_le n.toNat items
  omega

theorem someLimit_some {n : Int} (hn : 1 ≤ n) : someLimit (some n) = some n :=
  someLimit_of_pos fun _ h => Option.some.inj h ▸ hn

/-- The result of a query has no more rows than it wants, however many came. -/
theorem WarehouseClient.length_result_le {n : Int} (hn : 1 ≤ n) (job : JobResult)
    (chunks : List (List Row)) : ((result (some n) job chunks).rows.length : Int) ≤ n := by
  simp only [result, someLimit_some hn]
  exact length_cut_le hn _

section Queries

variable [Duration δ] {n : Int} {client : WarehouseClient δ} {around : Surroundings δ σ}

theorem WarehouseClient.length_query_le (hn : 1 ≤ n) {sql : String} {now later : Conversation σ}
    {result : QueryResult}
    (h : client.query around sql (some n) now = (.ok result, later)) :
    (result.rows.length : Int) ≤ n := by
  unfold WarehouseClient.query at h
  dsimp only at h
  split at h
  · cases h
  · split at h
    · cases h
    · split at h
      · cases h
      · obtain ⟨hresult, -⟩ := Prod.mk.inj h
        rw [← Except.ok.inj hresult]
        exact length_result_le hn _ _

/-- The query has not come to more rows than that. -/
def QueryRun.AtMost (n : Int) (run : QueryRun δ σ) : Prop :=
  ∀ result, run.stage = .over (.ok result) → (result.rows.length : Int) ≤ n

/-- A query that comes to its end cuts its rows; no other turn gives a result. -/
theorem QueryRun.Turns.atMost (hn : 1 ≤ n) {run later : QueryRun δ σ}
    (hturn : run.Turns client around (some n) later) (h : run.AtMost n) : later.AtMost n := by
  intro result hresult
  cases hturn with
  | outside change => exact h result hresult
  | @opened job hstage =>
    unfold WarehouseClient.opened at hresult
    dsimp only at hresult
    split at hresult <;> cases hresult
  | give hstage hchunks =>
    cases hresult
    exact WarehouseClient.length_result_le hn _ _
  | halted hstage => cases hresult
  | query hstage => cases hresult
  | finish hstage hworker => cases hresult
  | fail hstage hworker => cases hresult
  | chunk hstage hworker => cases hresult
  | stop hstage hworker => cases hresult
  | report hstage => cases hresult

/-- However the chunks of a query take turns, its result has no more rows than it wants. -/
theorem WarehouseClient.length_follow_le (hn : 1 ≤ n) {concurrency : Nat} {sql : String}
    {turns : List (Turn σ)} {now : Conversation σ} {run : QueryRun δ σ} {result : QueryResult}
    (h : client.follow around concurrency (some n) turns (client.begin sql (some n) now) =
      some run)
    (hresult : run.result? = some (.ok result)) : (result.rows.length : Int) ≤ n := by
  have hbegin : (client.begin sql (some n) now).AtMost n := by
    rintro result ⟨⟩
  have hlast : run.AtMost n := follow_keeps (fun _ _ hturn => hturn.atMost hn) h hbegin
  refine hlast result ?_
  unfold QueryRun.result? at hresult
  split at hresult
  · rename_i hstage
    rw [hstage, Option.some.inj hresult]
  · cases hresult

end Queries

/-! ### Executions -/

namespace Engines

variable {engines : Engines δ σ} {limits : RowLimits} {now later : Conversation σ}

/-- The store reads no more rows than it is asked to. -/
def FetchesAtMost (engines : Engines δ σ) : Prop :=
  ∀ statement world result next, engines.store statement world = (.ok result, next) →
    ∀ n, 1 ≤ n → statement.fetch = some n → (result.rows.length : Int) ≤ n

theorem length_runOnStore_le (hfetch : engines.FetchesAtMost) {n : Int} (hn : 1 ≤ n)
    {statement : StoreStatement} (hstatement : statement.fetch = some n) {answer : QueryAnswer}
    (h : engines.runOnStore statement now = (.ok answer, later)) :
    (answer.rows.length : Int) ≤ n := by
  unfold runOnStore at h
  cases hstore : engines.store statement now.world with
  | mk outcome world =>
    rw [hstore] at h
    obtain ⟨hanswer, -⟩ := Prod.mk.inj h
    cases outcome with
    | error message => cases hanswer
    | ok result =>
      rw [← Except.ok.inj hanswer, ResultSet.answer, List.length_map]
      exact hfetch statement now.world result world hstore n hn hstatement

variable [Duration δ]

theorem length_runOnWarehouse_le {client : WarehouseClient δ} {sql : String} {n : Int}
    (hn : 1 ≤ n) {answer : QueryAnswer}
    (h : engines.runOnWarehouse client sql (some n) now = (.ok answer, later)) :
    (answer.rows.length : Int) ≤ n := by
  unfold runOnWarehouse at h
  cases hquery : client.query engines.around sql (some n) now with
  | mk outcome last =>
    rw [hquery] at h
    obtain ⟨hanswer, rfl⟩ := Prod.mk.inj h
    obtain ⟨result, rfl, rfl⟩ := map_eq_ok.1 hanswer
    exact WarehouseClient.length_query_le hn hquery

/-- Whatever a plan says, no more rows are taken from its engine than the limits allow. -/
theorem length_runPlan_le (hfetch : engines.FetchesAtMost) (hlimits : limits.Sound)
    {plan : QueryPlan} {answer : QueryAnswer}
    (h : engines.runPlan limits plan now = (.ok answer, later)) :
    (answer.rows.length : Int) ≤ limits.max := by
  unfold runPlan at h
  split at h
  · exact length_runOnStore_le hfetch hlimits.max_pos (someLimit_some hlimits.max_pos) h
  · split at h
    · exact length_runOnWarehouse_le hlimits.max_pos h
    · cases h

theorem length_execute_le (hfetch : engines.FetchesAtMost) (hlimits : limits.Sound)
    {catalog : Catalog} {request : ExecuteRequest} {execution : Execution}
    (h : engines.execute limits catalog request now = (.ok execution, later)) :
    (execution.answer.rows.length : Int) ≤ limits.max := by
  unfold execute at h
  split at h
  · cases h
  · rename_i plan hplan
    cases hrun : engines.runPlan limits plan now with
    | mk outcome last =>
      rw [hrun] at h
      obtain ⟨hexecution, -⟩ := Prod.mk.inj h
      obtain ⟨answer, rfl, rfl⟩ := map_eq_ok.1 hexecution
      exact length_runPlan_le hfetch hlimits hrun

end Engines

/-- What it means that limits bound the rows of all queries. -/
structure RowLimits.Caps (limits : RowLimits) : Prop where
  /-- Every plan that is made of a request ends with a limit of at least one row. -/
  planned : ∀ catalog spec plan, QueryPlan.build limits catalog spec = .ok plan →
    ∃ before n, plan.sql = before ++ "\nLIMIT " ++ toString n ∧ 1 ≤ n ∧ n ≤ limits.max
  /-- An execution that gives an answer, planned or written by hand, tells how many rows it has. -/
  executed : ∀ {δ σ : Type} [Duration δ] (engines : Engines δ σ), engines.FetchesAtMost →
    ∀ catalog request now execution later,
      engines.execute limits catalog request now = (.ok execution, later) →
      (execution.answer.rows.length : Int) ≤ limits.max ∧
        execution.toJson.field "rows" = rowsJson execution.answer.rows ∧
        execution.toJson.field "rowCount" = .int execution.answer.rows.length
  /-- The same holds of a query of the warehouse whose chunks take turns. -/
  interleaved : ∀ {δ σ : Type} [Duration δ] (client : WarehouseClient δ)
    (around : Surroundings δ σ) concurrency sql turns now run result,
      client.follow around concurrency (some limits.max) turns
        (client.begin sql (some limits.max) now) = some run →
      run.result? = some (.ok result) → (result.rows.length : Int) ≤ limits.max

theorem RowLimits.Sound.caps {limits : RowLimits} (h : limits.Sound) : limits.Caps where
  planned catalog spec plan hplan := by
    obtain ⟨before, hsql⟩ := QueryPlan.sql_ends hplan
    exact ⟨before, _, hsql, h.resolve spec.limit⟩
  executed engines hfetch catalog request now execution later hexecute :=
    ⟨Engines.length_execute_le hfetch h hexecute, rfl, rfl⟩
  interleaved client around concurrency sql turns now run result hrun hresult :=
    WarehouseClient.length_follow_le h.max_pos hrun hresult

/-- Where the settings have no errors, the greatest number of rows is the one that is set, and it
bounds the plans and the answers of all queries. -/
theorem Settings.caps_rows {env : Environment} (h : (StartupCheck.settings env).errors = []) :
    ∃ settings, Settings.read env = .ok settings ∧
      Settings.readInteger env "QUERY_MAX_LIMIT" 5000 = .ok settings.limits.max ∧
      settings.limits.Caps := by
  obtain ⟨settings, hread, hsound⟩ := StartupCheck.exists_settings h
  exact ⟨settings, hread, Settings.readInteger_max hread, hsound.caps⟩

/-- Surroundings with room for two rows. -/
def twoRowEnvironment : Environment := fun key =>
  if key == "QUERY_MAX_LIMIT" then some "2"
  else if key == "QUERY_DEFAULT_LIMIT" then some "1"
  else none

/-- A store with five rows, of which it reads as many as it is asked to. -/
def fiveRowEngines : Engines Rat Unit where
  store statement world :=
    let rows := List.replicate 5 [Json.int 7]
    (.ok ⟨["id"], (statement.fetch.map fun n => cut n rows).getD rows⟩, world)
  warehouse := none
  around :=
    { send := fun _ _ world => (.lost "no network", world), pause := fun _ world => world
      isCancelled := fun _ => false, deliver := fun _ world => world
      environment := fun _ _ => none }

/-- All names, however many. -/
def namesRequest : ExecuteRequest where
  toQuerySpec := { orderedNamesSpec "name" with limit := some 1000000 }
  rawSql := none

theorem fiveRowEngines_fetchesAtMost : fiveRowEngines.FetchesAtMost := by
  rintro statement world result next hstore n hn hfetch
  simp only [fiveRowEngines, hfetch, Option.map_some, Option.getD_some, Prod.mk.injEq,
    Except.ok.injEq] at hstore
  rw [← hstore.1]
  exact length_cut_le hn _

/-- Two of the five rows are taken. -/
theorem Settings.caps_rows_two :
    (StartupCheck.settings twoRowEnvironment).errors = [] ∧
      ∃ settings execution later, Settings.read twoRowEnvironment = .ok settings ∧
        settings.limits.max = 2 ∧
        fiveRowEngines.execute settings.limits residentsCatalog namesRequest
          ⟨(), ⟨"token", none⟩, 0⟩ = (.ok execution, later) ∧
        (execution.answer.rows.length : Int) ≤ 2 := by
  have herrors : (StartupCheck.settings twoRowEnvironment).errors = [] := by decide +kernel
  have hlimits : (Settings.read twoRowEnvironment).toOption.map Settings.limits = some ⟨1, 2⟩ := by
    decide +kernel
  have hanswered : (fiveRowEngines.execute ⟨1, 2⟩ residentsCatalog namesRequest
      ⟨(), ⟨"token", none⟩, 0⟩).1.toOption.map (·.answer.rows.length) = some 2 := by
    decide +kernel
  obtain ⟨settings, hread, -, hcaps⟩ := Settings.caps_rows herrors
  rw [hread] at hlimits
  have htwo : settings.limits = ⟨1, 2⟩ := Option.some.inj hlimits
  cases hexecute : fiveRowEngines.execute settings.limits residentsCatalog namesRequest
      ⟨(), ⟨"token", none⟩, 0⟩ with
  | mk outcome later =>
    cases outcome with
    | error fault =>
      rw [← htwo, hexecute] at hanswered
      cases hanswered
    | ok execution =>
      have hrows := (hcaps.executed fiveRowEngines fiveRowEngines_fetchesAtMost residentsCatalog
        namesRequest _ execution later hexecute).1
      refine ⟨herrors, settings, execution, later, hread, by rw [htwo], hexecute, ?_⟩
      rwa [htwo] at hrows

end SemanticLayer
