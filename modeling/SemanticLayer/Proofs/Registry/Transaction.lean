import SemanticLayer.Proofs.Outcome
import SemanticLayer.Registry.Transaction

/-!
What transactions do to the rows, and what of the rows they depend on. Both are shown statement by
statement: one rule for each way of putting a transaction together.
-/

namespace SemanticLayer

/-- Every statement can be run. -/
structure Registry.Intact (registry : Registry) : Prop where
  dropped : registry.dropped = []
  fails : ∀ count, registry.fails count = false

/-- The registry when its store fails at the statement with a number, too. -/
def Registry.failingAt (registry : Registry) (count : Nat) : Registry :=
  { registry with fails := fun number => registry.fails number || number == count }

/-- How many statements of a transaction are run: all of them, or those up to the first that fails.
-/
def Registry.statements {α : Type} (registry : Registry) (work : Transaction α) : Nat :=
  (work registry ⟨registry.rows, 0⟩).2.statements

namespace Transaction

variable {α β : Type} {registry one two : Registry}

theorem bind_run (x : Transaction α) (f : α → Transaction β) (registry : Registry)
    (state : TransactionState) :
    (x >>= f) registry state =
      match x registry state with
      | (.ok a, later) => f a registry later
      | (.error fault, later) => (.error fault, later) := by
  change (match x registry state with
    | (a, later) => ExceptT.bindCont (fun a => f a registry) a later) = _
  split
  rename_i result later hrun
  rw [hrun]
  cases result <;> rfl

/-- A transaction runs alike in two registries if all of its parts do. -/
theorem bind_eq {x : Transaction α} {f : α → Transaction β} (hx : x one = x two)
    (hf : ∀ a, f a one = f a two) : (x >>= f) one = (x >>= f) two := by
  funext state
  rw [bind_run, bind_run, hx]
  simp only [hf]

theorem read_run (registry : Registry) (state : TransactionState) :
    (read : Transaction Registry) registry state = (.ok registry, state) := rfl

/-- In a store that does not fail a statement reads what there is. -/
theorem select_run (hintact : registry.Intact)
    (tables : List RegistryTable) (body : RegistryRows → α) (state : TransactionState) :
    select tables body registry state =
      (.ok (body state.rows), ⟨state.rows, state.statements + 1⟩) := by
  unfold select statement
  simp [hintact.dropped, hintact.fails]

theorem change_run (hintact : registry.Intact)
    (tables : List RegistryTable) (body : RegistryRows → Except RegistryFault RegistryRows)
    (state : TransactionState) :
    change tables body registry state =
      match body state.rows with
      | .error fault => (.error fault, ⟨state.rows, state.statements + 1⟩)
      | .ok changed => (.ok (), ⟨changed, state.statements + 1⟩) := by
  unfold change statement
  simp only [hintact.dropped, hintact.fails, Bool.false_or]
  rw [if_neg (by simp)]
  cases body state.rows <;> rfl

/-! ### What a transaction leaves -/

/-- If the transaction succeeds on rows with the first property, its result and the rows that it
leaves have the second one. -/
def Ensures (registry : Registry) (before : RegistryRows → Prop)
    (after : α → RegistryRows → Prop) (work : Transaction α) : Prop :=
  ∀ state result later, before state.rows → work registry state = (.ok result, later) →
    after result later.rows

variable {p : RegistryRows → Prop}

theorem Ensures.pure {q : α → RegistryRows → Prop} {a : α} (h : ∀ rows, p rows → q a rows) :
    Ensures registry p q (pure a) := by
  rintro state _ _ hbefore hrun
  cases hrun
  exact h _ hbefore

theorem Ensures.throw {q : α → RegistryRows → Prop} {fault : RegistryFault} :
    Ensures registry p q (throw fault : Transaction α) := by
  intro state _ _ _ hrun
  cases hrun

theorem Ensures.read : Ensures registry p (fun found rows => found = registry ∧ p rows) read := by
  rintro state _ _ hbefore hrun
  cases hrun
  exact ⟨rfl, hbefore⟩

theorem Ensures.mono {q r : α → RegistryRows → Prop} {work : Transaction α}
    (h : Ensures registry p q work) (hafter : ∀ a rows, q a rows → r a rows) :
    Ensures registry p r work :=
  fun state result later hbefore hrun => hafter _ _ (h state result later hbefore hrun)

theorem Ensures.weaken {p' : RegistryRows → Prop} {q : α → RegistryRows → Prop}
    {work : Transaction α} (h : Ensures registry p q work) (hbefore : ∀ rows, p' rows → p rows) :
    Ensures registry p' q work :=
  fun state result later hrows hrun => h state result later (hbefore _ hrows) hrun

theorem Ensures.bind {q : α → RegistryRows → Prop} {r : β → RegistryRows → Prop}
    {x : Transaction α} {f : α → Transaction β} (hx : Ensures registry p q x)
    (hf : ∀ a, Ensures registry (q a) r (f a)) : Ensures registry p r (x >>= f) := by
  intro state result later hbefore hrun
  rw [bind_run] at hrun
  cases hfirst : x registry state with
  | mk outcome between =>
    rw [hfirst] at hrun
    cases outcome with
    | error fault => cases hrun
    | ok a => exact hf a between result later (hx state a between hbefore hfirst) hrun

theorem Ensures.statement {q : α → RegistryRows → Prop} {tables : List RegistryTable}
    {body : RegistryRows → Except RegistryFault (α × RegistryRows)}
    (h : ∀ rows a changed, p rows → body rows = .ok (a, changed) → q a changed) :
    Ensures registry p q (statement tables body) := by
  intro state result later hbefore hrun
  unfold Transaction.statement at hrun
  dsimp only at hrun
  split at hrun
  · cases hrun
  · split at hrun
    · cases hrun
    · rename_i hbody
      cases hrun
      exact h _ _ _ hbefore hbody

theorem Ensures.select {q : α → RegistryRows → Prop} {tables : List RegistryTable}
    {body : RegistryRows → α} (h : ∀ rows, p rows → q (body rows) rows) :
    Ensures registry p q (select tables body) := by
  refine .statement fun rows a changed hbefore hbody => ?_
  cases hbody
  exact h rows hbefore

theorem Ensures.change {q : RegistryRows → Prop} {tables : List RegistryTable}
    {body : RegistryRows → Except RegistryFault RegistryRows}
    (h : ∀ rows changed, p rows → body rows = .ok changed → q changed) :
    Ensures registry p (fun _ => q) (change tables body) := by
  refine .statement fun rows _ changed hbefore hbody => ?_
  cases hresult : body rows with
  | error fault => simp [hresult, Except.map] at hbody
  | ok other =>
    simp only [hresult, Except.map, Except.ok.injEq, Prod.mk.injEq, true_and] at hbody
    exact h rows changed hbefore (hresult.trans (congrArg _ hbody))

theorem Ensures.forM {f : α → Transaction PUnit} {items : List α}
    (h : ∀ item ∈ items, Ensures registry p (fun _ => p) (f item)) :
    Ensures registry p (fun _ => p) (items.forM f) := by
  induction items with
  | nil => exact .pure fun _ hrows => hrows
  | cons item rest ih =>
    rw [List.forM_eq_forM, List.forM_cons]
    exact (h item (by simp)).bind fun _ => ih fun other hother => h other (by simp [hother])

/-- A run over items does for each of them what its own step does, if the steps of others keep it.
-/
theorem Ensures.forM_each {q : α → RegistryRows → Prop} {f : α → Transaction PUnit} {items : List α}
    (hitem : ∀ item ∈ items, Ensures registry p (fun _ rows => p rows ∧ q item rows) (f item))
    (hkeep : ∀ item ∈ items, ∀ other ∈ items,
      Ensures registry (fun rows => p rows ∧ q other rows) (fun _ => q other) (f item)) :
    Ensures registry p (fun _ rows => p rows ∧ ∀ item ∈ items, q item rows) (items.forM f) := by
  suffices hall : ∀ later done : List α, (∀ item ∈ done ++ later, item ∈ items) →
      Ensures registry (fun rows => p rows ∧ ∀ item ∈ done, q item rows)
        (fun _ rows => p rows ∧ ∀ item ∈ done ++ later, q item rows) (later.forM f) by
    intro state result left hbefore hrun
    exact hall items [] (fun _ h => h) state result left ⟨hbefore, by simp⟩ hrun
  intro later
  induction later with
  | nil => exact fun done _ => .pure fun rows hrows => by simpa using hrows
  | cons item rest ih =>
    intro done hsub
    rw [List.forM_eq_forM, List.forM_cons]
    have hmem : item ∈ items := hsub item (by simp)
    have hstep : Ensures registry (fun rows => p rows ∧ ∀ other ∈ done, q other rows)
        (fun _ rows => p rows ∧ ∀ other ∈ done ++ [item], q other rows) (f item) := by
      intro state result left hbefore hrun
      obtain ⟨hp, hown⟩ := hitem item hmem state result left hbefore.1 hrun
      refine ⟨hp, fun other hother => ?_⟩
      rcases List.mem_append.1 hother with hdone | hsame
      · exact hkeep item hmem other (hsub other (by simp [hdone])) state result left
          ⟨hbefore.1, hbefore.2 other hdone⟩ hrun
      · exact List.mem_singleton.1 hsame ▸ hown
    refine hstep.bind fun _ => ?_
    have hrest := ih (done ++ [item]) (by simpa using hsub)
    simpa using hrest

/-- What a transaction that succeeds leaves is kept, and nothing of one that fails. -/
theorem Ensures.commit {q : α → RegistryRows → Prop} {work : Transaction α}
    (h : Ensures registry p q work) (hbefore : p registry.rows) :
    (∃ result rows, registry.commit work = (.ok result, { registry with rows }) ∧ q result rows) ∨
      ∃ fault, registry.commit work = (.error fault, registry) := by
  unfold Registry.commit
  cases hrun : work registry ⟨registry.rows, 0⟩ with
  | mk outcome later =>
    cases outcome with
    | error fault => exact .inr ⟨fault, rfl⟩
    | ok result => exact .inl ⟨result, later.rows, rfl, h _ result later hbefore hrun⟩

theorem Ensures.of_commit {q : α → RegistryRows → Prop} {work : Transaction α} {result : α}
    {after : Registry} (hcommit : registry.commit work = (.ok result, after))
    (h : Ensures registry p q work) (hbefore : p registry.rows) :
    ∃ rows, after = { registry with rows } ∧ q result rows := by
  rcases h.commit hbefore with ⟨other, rows, hother, hq⟩ | ⟨fault, hfault⟩
  · obtain ⟨hsame, rfl⟩ := Prod.mk.inj (hcommit.symm.trans hother)
    exact ⟨rows, rfl, Except.ok.inj hsame ▸ hq⟩
  · cases hcommit.symm.trans hfault

/-! ### Success -/

/-- On rows with the property the transaction succeeds. -/
def Succeeds (registry : Registry) (before : RegistryRows → Prop) (work : Transaction α) : Prop :=
  ∀ state, before state.rows → ∃ result later, work registry state = (.ok result, later)

theorem Succeeds.pure {a : α} : Succeeds registry p (pure a) :=
  fun state _ => ⟨a, state, rfl⟩

theorem Succeeds.read : Succeeds registry p read :=
  fun state _ => ⟨registry, state, rfl⟩

/-- The rest has to succeed on the rows that the first part leaves. -/
theorem Succeeds.bind {q : α → RegistryRows → Prop} {x : Transaction α} {f : α → Transaction β}
    (hx : Succeeds registry p x) (hq : Ensures registry p q x)
    (hf : ∀ a, Succeeds registry (q a) (f a)) : Succeeds registry p (x >>= f) := by
  intro state hbefore
  obtain ⟨a, between, hfirst⟩ := hx state hbefore
  obtain ⟨result, later, hrest⟩ := hf a between (hq state a between hbefore hfirst)
  refine ⟨result, later, ?_⟩
  rw [bind_run, hfirst]
  exact hrest

theorem Succeeds.statement (hintact : registry.Intact) {tables : List RegistryTable}
    {body : RegistryRows → Except RegistryFault (α × RegistryRows)}
    (h : ∀ rows, p rows → ∃ result, body rows = .ok result) :
    Succeeds registry p (statement tables body) := by
  intro state hbefore
  obtain ⟨⟨a, rows⟩, hbody⟩ := h state.rows hbefore
  refine ⟨a, { rows, statements := state.statements + 1 }, ?_⟩
  unfold Transaction.statement
  simp [hintact.dropped, hintact.fails, hbody]

theorem Succeeds.select (hintact : registry.Intact) {tables : List RegistryTable}
    {body : RegistryRows → α} : Succeeds registry p (select tables body) :=
  .statement hintact fun rows _ => ⟨(body rows, rows), rfl⟩

theorem Succeeds.change (hintact : registry.Intact) {tables : List RegistryTable}
    {body : RegistryRows → Except RegistryFault RegistryRows}
    (h : ∀ rows, p rows → ∃ changed, body rows = .ok changed) :
    Succeeds registry p (change tables body) := by
  refine .statement hintact fun rows hrows => ?_
  obtain ⟨changed, hchange⟩ := h rows hrows
  exact ⟨((), changed), by rw [hchange]; rfl⟩

theorem Succeeds.forM {f : α → Transaction PUnit} {items : List α}
    (hs : ∀ item ∈ items, Succeeds registry p (f item))
    (he : ∀ item ∈ items, Ensures registry p (fun _ => p) (f item)) :
    Succeeds registry p (items.forM f) := by
  induction items with
  | nil => exact .pure
  | cons item rest ih =>
    rw [List.forM_eq_forM, List.forM_cons]
    refine (hs item (by simp)).bind (he item (by simp)) fun _ => ih ?_ ?_
    · exact fun other hother => hs other (by simp [hother])
    · exact fun other hother => he other (by simp [hother])

theorem Succeeds.commit {work : Transaction α} (h : Succeeds registry p work)
    (hbefore : p registry.rows) : ∃ result after, registry.commit work = (.ok result, after) := by
  obtain ⟨result, later, hrun⟩ := h ⟨registry.rows, 0⟩ hbefore
  unfold Registry.commit
  rw [hrun]
  exact ⟨result, _, rfl⟩

/-! ### How a transaction fails -/

/-- On rows with the property the transaction fails with such faults only. -/
def Faults (registry : Registry) (before : RegistryRows → Prop) (faults : RegistryFault → Prop)
    (work : Transaction α) : Prop :=
  ∀ state fault later, before state.rows → work registry state = (.error fault, later) →
    faults fault

variable {faults : RegistryFault → Prop}

theorem Faults.pure {a : α} : Faults registry p faults (pure a) := by
  intro state fault later _ hrun
  cases hrun

theorem Faults.throw {fault : RegistryFault} (h : ∀ rows, p rows → faults fault) :
    Faults registry p faults (throw fault : Transaction α) := by
  intro state _ _ hbefore hrun
  cases hrun
  exact h _ hbefore

theorem Faults.read : Faults registry p faults read := by
  intro state fault later _ hrun
  cases hrun

/-- The rest fails on the rows that the first part leaves. -/
theorem Faults.bind {q : α → RegistryRows → Prop} {x : Transaction α} {f : α → Transaction β}
    (hx : Faults registry p faults x) (hq : Ensures registry p q x)
    (hf : ∀ a, Faults registry (q a) faults (f a)) : Faults registry p faults (x >>= f) := by
  intro state fault later hbefore hrun
  rw [bind_run] at hrun
  cases hfirst : x registry state with
  | mk outcome between =>
    rw [hfirst] at hrun
    cases outcome with
    | error other =>
      cases hrun
      exact hx state fault _ hbefore hfirst
    | ok a => exact hf a between fault later (hq state a between hbefore hfirst) hrun

theorem Faults.statement {tables : List RegistryTable}
    {body : RegistryRows → Except RegistryFault (α × RegistryRows)}
    (hunavailable : faults .unavailable) (h : ∀ rows, p rows → FailsOnly faults (body rows)) :
    Faults registry p faults (statement tables body) := by
  intro state fault later hbefore hrun
  unfold Transaction.statement at hrun
  dsimp only at hrun
  split at hrun
  · cases hrun
    exact hunavailable
  · split at hrun
    · rename_i hbody
      cases hrun
      exact h _ hbefore _ hbody
    · cases hrun

theorem Faults.select {tables : List RegistryTable} {body : RegistryRows → α}
    (hunavailable : faults .unavailable) : Faults registry p faults (select tables body) :=
  Faults.statement hunavailable fun _ _ => .ok

theorem Faults.change {tables : List RegistryTable}
    {body : RegistryRows → Except RegistryFault RegistryRows}
    (hunavailable : faults .unavailable) (h : ∀ rows, p rows → FailsOnly faults (body rows)) :
    Faults registry p faults (change tables body) :=
  Faults.statement hunavailable fun rows hrows => (h rows hrows).map

theorem Faults.forM {f : α → Transaction PUnit} {items : List α}
    (h : ∀ item ∈ items, Faults registry p faults (f item))
    (he : ∀ item ∈ items, Ensures registry p (fun _ => p) (f item)) :
    Faults registry p faults (items.forM f) := by
  induction items with
  | nil => exact .pure
  | cons item rest ih =>
    rw [List.forM_eq_forM, List.forM_cons]
    refine (h item (by simp)).bind (he item (by simp)) fun _ => ih ?_ ?_
    · exact fun other hother => h other (by simp [hother])
    · exact fun other hother => he other (by simp [hother])

/-- A transaction that fails changes nothing of the registry. -/
theorem Faults.commit {work : Transaction α} {fault : RegistryFault} {after : Registry}
    (h : Faults registry p faults work) (hbefore : p registry.rows)
    (hcommit : registry.commit work = (.error fault, after)) :
    after = registry ∧ faults fault := by
  unfold Registry.commit at hcommit
  cases hrun : work registry ⟨registry.rows, 0⟩ with
  | mk outcome later =>
    rw [hrun] at hcommit
    cases outcome with
    | error other =>
      cases hcommit
      exact ⟨rfl, h _ _ _ hbefore hrun⟩
    | ok result => cases hcommit

/-! ### A store that fails at one of the statements -/

/-- The transaction goes on as far as the store lets it: it runs as ever if it does not get to the
statement at which the store fails, and if it gets there it fails. -/
structure Stops (registry : Registry) (count : Nat) (work : Transaction α) : Prop where
  grows : ∀ state, state.statements ≤ (work registry state).2.statements
  same : ∀ state, (work registry state).2.statements ≤ count →
    work (registry.failingAt count) state = work registry state
  stops : ∀ state, state.statements ≤ count → count < (work registry state).2.statements →
    (work (registry.failingAt count) state).1 = .error .unavailable

variable {count : Nat}

theorem Stops.pure {a : α} : Stops registry count (pure a) where
  grows _ := Nat.le_refl _
  same _ _ := rfl
  stops _ hle hlt := absurd hlt (Nat.not_lt.2 hle)

theorem Stops.throw {fault : RegistryFault} :
    Stops registry count (throw fault : Transaction α) where
  grows _ := Nat.le_refl _
  same _ _ := rfl
  stops _ hle hlt := absurd hlt (Nat.not_lt.2 hle)

theorem Stops.bind {x : Transaction α} {f : α → Transaction β} (hx : Stops registry count x)
    (hf : ∀ a, Stops registry count (f a)) : Stops registry count (x >>= f) := by
  constructor
  · intro state
    have hfirst := hx.grows state
    rw [bind_run]
    cases hrun : x registry state with
    | mk outcome between =>
      rw [hrun] at hfirst
      cases outcome with
      | error fault => exact hfirst
      | ok a => exact Nat.le_trans hfirst ((hf a).grows between)
  · intro state hle
    rw [bind_run, bind_run] at *
    cases hrun : x registry state with
    | mk outcome between =>
      rw [hrun] at hle
      cases outcome with
      | error fault => rw [hx.same state (by rwa [hrun]), hrun]
      | ok a =>
        have hbetween : between.statements ≤ count := Nat.le_trans ((hf a).grows between) hle
        rw [hx.same state (by rwa [hrun]), hrun]
        exact (hf a).same between hle
  · intro state hle hlt
    rw [bind_run] at *
    cases hrun : x registry state with
    | mk outcome between =>
      rw [hrun] at hlt
      by_cases hbetween : between.statements ≤ count
      · rw [hx.same state (by rwa [hrun]), hrun]
        cases outcome with
        | error fault => exact absurd hlt (Nat.not_lt.2 hbetween)
        | ok a => exact (hf a).stops between hbetween hlt
      · -- The store fails within the first part already.
        have hfirst := hx.stops state hle (by rw [hrun]; exact Nat.lt_of_not_le hbetween)
        cases hother : x (registry.failingAt count) state with
        | mk other later =>
          rw [hother] at hfirst
          cases hfirst
          rfl

theorem Stops.statement {tables : List RegistryTable}
    {body : RegistryRows → Except RegistryFault (α × RegistryRows)} :
    Stops registry count (statement tables body) := by
  have hcounted (store : Registry) (state : TransactionState) :
      (Transaction.statement tables body store state).2.statements = state.statements + 1 := by
    unfold Transaction.statement
    dsimp only
    split
    · rfl
    · split <;> rfl
  constructor
  · intro state
    rw [hcounted]
    exact Nat.le_succ _
  · intro state hle
    rw [hcounted] at hle
    have hne : (state.statements == count) = false := by
      simp
      omega
    unfold Transaction.statement Registry.failingAt
    simp only [hne, Bool.or_false]
  · intro state hle hlt
    rw [hcounted] at hlt
    have heq : (state.statements == count) = true := by
      simp
      omega
    unfold Transaction.statement Registry.failingAt
    simp only [heq, Bool.or_true, Bool.true_or, if_true]

theorem Stops.select {tables : List RegistryTable} {body : RegistryRows → α} :
    Stops registry count (select tables body) := .statement

theorem Stops.change {tables : List RegistryTable}
    {body : RegistryRows → Except RegistryFault RegistryRows} :
    Stops registry count (change tables body) := .statement

/-- What is given to the rest of a transaction may not depend on when the store fails. -/
theorem Stops.read {f : Registry → Transaction β}
    (hsame : f (registry.failingAt count) = f registry) (h : Stops registry count (f registry)) :
    Stops registry count (read >>= f) := by
  constructor
  · intro state
    exact h.grows state
  · intro state hle
    rw [bind_run, read_run] at *
    dsimp only
    rw [hsame]
    exact h.same state hle
  · intro state hle hlt
    rw [bind_run, read_run] at *
    dsimp only
    rw [hsame]
    exact h.stops state hle hlt

theorem Stops.forM {f : α → Transaction PUnit} {items : List α}
    (h : ∀ item ∈ items, Stops registry count (f item)) :
    Stops registry count (items.forM f) := by
  induction items with
  | nil => exact .pure
  | cons item rest ih =>
    rw [List.forM_eq_forM, List.forM_cons]
    exact (h item (by simp)).bind fun _ => ih fun other hother => h other (by simp [hother])

theorem Stops.commit {work : Transaction α} (h : Stops registry count work)
    (hcount : count < registry.statements work) :
    (registry.failingAt count).commit work = (.error .unavailable, registry.failingAt count) := by
  have hstops := h.stops ⟨registry.rows, 0⟩ (Nat.zero_le _) hcount
  unfold Registry.commit
  cases hrun : work (registry.failingAt count) ⟨(registry.failingAt count).rows, 0⟩ with
  | mk outcome later =>
    have houtcome : outcome = .error .unavailable := (congrArg Prod.fst hrun).symm.trans hstops
    rw [houtcome]

/-! ### What a transaction depends on -/

/-- Transactions fare alike in the two registries: statements fail at the same places, and the same
identifiers are given. -/
structure SameStore (one two : Registry) : Prop where
  dropped : one.dropped = two.dropped
  fails : one.fails = two.fails
  tableId : one.tableId = two.tableId

/-- On rows that are related by the first relation the transaction has the same outcome in both
registries and leaves rows that are related by the second one. -/
def Alike (one two : Registry) (before : RegistryRows → RegistryRows → Prop)
    (after : α → RegistryRows → RegistryRows → Prop) (work : Transaction α) : Prop :=
  ∀ first second count, before first second →
    (∃ result left right statements, work one ⟨first, count⟩ = (.ok result, ⟨left, statements⟩) ∧
      work two ⟨second, count⟩ = (.ok result, ⟨right, statements⟩) ∧ after result left right) ∨
    ∃ fault, (work one ⟨first, count⟩).1 = .error fault ∧ (work two ⟨second, count⟩).1 = .error fault

variable {b : RegistryRows → RegistryRows → Prop}

theorem Alike.pure {q : α → RegistryRows → RegistryRows → Prop} {a : α}
    (h : ∀ first second, b first second → q a first second) : Alike one two b q (pure a) :=
  fun first second count hrows => .inl ⟨a, first, second, count, rfl, rfl, h _ _ hrows⟩

theorem Alike.throw {q : α → RegistryRows → RegistryRows → Prop} {fault : RegistryFault} :
    Alike one two b q (throw fault : Transaction α) :=
  fun _ _ _ _ => .inr ⟨fault, rfl, rfl⟩

theorem Alike.bind {q : α → RegistryRows → RegistryRows → Prop}
    {r : β → RegistryRows → RegistryRows → Prop} {x : Transaction α} {f : α → Transaction β}
    (hx : Alike one two b q x) (hf : ∀ a, Alike one two (q a) r (f a)) :
    Alike one two b r (x >>= f) := by
  intro first second count hrows
  rw [bind_run, bind_run]
  rcases hx first second count hrows with
    ⟨a, left, right, statements, hone, htwo, hafter⟩ | ⟨fault, hone, htwo⟩
  · rw [hone, htwo]
    exact hf a left right statements hafter
  · refine .inr ⟨fault, ?_, ?_⟩
    · cases hrun : x one ⟨first, count⟩ with
      | mk outcome later => simp_all
    · cases hrun : x two ⟨second, count⟩ with
      | mk outcome later => simp_all

/-- What is given to the rest of a transaction may depend on the registry only through what is the
same in both. -/
theorem Alike.read {r : β → RegistryRows → RegistryRows → Prop} {f : Registry → Transaction β}
    (hsame : f one = f two) (h : Alike one two b r (f one)) : Alike one two b r (read >>= f) := by
  intro first second count hrows
  rw [bind_run, bind_run, read_run, read_run]
  dsimp only
  rw [← hsame]
  exact h first second count hrows

theorem Alike.statement (hstore : SameStore one two)
    {q : α → RegistryRows → RegistryRows → Prop} {tables : List RegistryTable}
    {body : RegistryRows → Except RegistryFault (α × RegistryRows)}
    (h : ∀ first second, b first second →
      (∃ a left right, body first = .ok (a, left) ∧ body second = .ok (a, right) ∧
        q a left right) ∨ ∃ fault, body first = .error fault ∧ body second = .error fault) :
    Alike one two b q (statement tables body) := by
  intro first second count hrows
  unfold Transaction.statement
  dsimp only
  rw [← hstore.dropped, ← hstore.fails]
  split
  · exact .inr ⟨.unavailable, rfl, rfl⟩
  · rcases h first second hrows with ⟨a, left, right, hone, htwo, hafter⟩ | ⟨fault, hone, htwo⟩
    · rw [hone, htwo]
      exact .inl ⟨a, left, right, count + 1, rfl, rfl, hafter⟩
    · rw [hone, htwo]
      exact .inr ⟨fault, rfl, rfl⟩

theorem Alike.select (hstore : SameStore one two) {q : α → RegistryRows → RegistryRows → Prop}
    {tables : List RegistryTable} {body : RegistryRows → α}
    (h : ∀ first second, b first second →
      body first = body second ∧ q (body first) first second) :
    Alike one two b q (select tables body) := by
  refine .statement hstore fun first second hrows => .inl ?_
  obtain ⟨heq, hafter⟩ := h first second hrows
  exact ⟨body first, first, second, rfl, by rw [heq], hafter⟩

theorem Alike.change (hstore : SameStore one two) {q : RegistryRows → RegistryRows → Prop}
    {tables : List RegistryTable} {body : RegistryRows → Except RegistryFault RegistryRows}
    (h : ∀ first second, b first second →
      (∃ left right, body first = .ok left ∧ body second = .ok right ∧ q left right) ∨
        ∃ fault, body first = .error fault ∧ body second = .error fault) :
    Alike one two b (fun _ => q) (change tables body) := by
  refine .statement hstore fun first second hrows => ?_
  rcases h first second hrows with ⟨left, right, hone, htwo, hafter⟩ | ⟨fault, hone, htwo⟩
  · exact .inl ⟨(), left, right, by rw [hone]; rfl, by rw [htwo]; rfl, hafter⟩
  · exact .inr ⟨fault, by rw [hone]; rfl, by rw [htwo]; rfl⟩

theorem Alike.mono {q r : α → RegistryRows → RegistryRows → Prop} {work : Transaction α}
    (h : Alike one two b q work) (hafter : ∀ a left right, q a left right → r a left right) :
    Alike one two b r work := by
  intro first second count hrows
  rcases h first second count hrows with
    ⟨a, left, right, statements, hone, htwo, hq⟩ | hfault
  · exact .inl ⟨a, left, right, statements, hone, htwo, hafter a left right hq⟩
  · exact .inr hfault

theorem Alike.forM {f : α → Transaction PUnit} {items : List α}
    (h : ∀ item ∈ items, Alike one two b (fun _ => b) (f item)) :
    Alike one two b (fun _ => b) (items.forM f) := by
  induction items with
  | nil => exact .pure fun _ _ hrows => hrows
  | cons item rest ih =>
    rw [List.forM_eq_forM, List.forM_cons]
    exact (h item (by simp)).bind fun _ => ih fun other hother => h other (by simp [hother])

theorem Alike.commit {q : α → RegistryRows → RegistryRows → Prop} {work : Transaction α}
    (h : Alike one two b q work) (hrows : b one.rows two.rows) :
    (one.commit work).1 = (two.commit work).1 := by
  unfold Registry.commit
  rcases h one.rows two.rows 0 hrows with
    ⟨a, left, right, statements, hone, htwo, -⟩ | ⟨fault, hone, htwo⟩
  · rw [hone, htwo]
  · cases hfirst : work one ⟨one.rows, 0⟩ with
    | mk outcome later =>
      cases hsecond : work two ⟨two.rows, 0⟩ with
      | mk other last => simp_all

end Transaction

end SemanticLayer
