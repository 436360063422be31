import SemanticLayer.Proofs.Registry.Loading

/-!
Calls for default models that run at the same time. A call looks for the default model of its
workspace, adds one if it finds none, and looks again; between these statements the other calls may
run theirs. The key that only one model can have makes all calls of a workspace agree: whoever adds
the model first, the others leave it as it is and read it.
-/

namespace SemanticLayer

/-- A call for the default model of a workspace, with what the model gets if it is this call that
makes it. -/
structure DefaultCall where
  workspaceId : String
  name : String
  modelId : String
  now : String
  deriving Repr, DecidableEq

namespace DefaultCall

/-- How far a call has come: which statement it runs next, or how it has ended. -/
inductive Stage where
  | looking
  | adding
  | rereading
  | returned (model : DataModel)
  | failed (fault : RegistryFault)
  deriving Repr, DecidableEq

/-- How many statements the call still runs, at most. -/
def Stage.left : Stage → Nat
  | .looking => 3
  | .adding => 2
  | .rereading => 1
  | .returned _ | .failed _ => 0

/-- What the call returns or fails with, once it has ended. -/
def Stage.outcome? : Stage → Option (Except RegistryFault DataModel)
  | .returned model => some (.ok model)
  | .failed fault => some (.error fault)
  | _ => none

/-- Runs the next statement of a call. -/
def advance (call : DefaultCall) (rows : RegistryRows) : Stage → Stage × RegistryRows
  | .looking =>
    match rows.defaultModel? call.workspaceId with
    | some model => (.returned model, rows)
    | none => (.adding, rows)
  | .adding =>
    match rows.addDefaultModel call.modelId call.workspaceId call.name call.now with
    | .ok changed => (.rereading, changed)
    | .error fault => (.failed fault, rows)
  | .rereading =>
    match rows.defaultModel? call.workspaceId with
    | some model => (.returned model, rows)
    | none => (.failed .lostModel, rows)
  | ended => (ended, rows)

/-- The model that the call adds. -/
def record (call : DefaultCall) : ModelRecord :=
  { id := call.modelId, workspaceId := call.workspaceId, name := call.name, isDefault := true
    createdAt := some call.now, updatedAt := some call.now, defaultKey := some call.workspaceId }

end DefaultCall

/-- The rows and the calls that are under way. -/
structure DefaultCallers where
  rows : RegistryRows
  callers : List (DefaultCall × DefaultCall.Stage)

namespace DefaultCallers

/-- No statement of the calls has been run yet. -/
def start (rows : RegistryRows) (calls : List DefaultCall) : DefaultCallers :=
  ⟨rows, calls.map (·, .looking)⟩

/-- The caller at a place runs its next statement. -/
def turn (state : DefaultCallers) (place : Nat) : DefaultCallers :=
  match state.callers[place]? with
  | none => state
  | some (call, stage) =>
    let (stage, rows) := call.advance state.rows stage
    ⟨rows, state.callers.set place (call, stage)⟩

/-- The callers take turns as scheduled. -/
def run (state : DefaultCallers) (schedule : List Nat) : DefaultCallers :=
  schedule.foldl turn state

end DefaultCallers

/-- No model has the identifier of one of the calls, and no other call has it. -/
structure FreshIds (calls : List DefaultCall) (rows : RegistryRows) : Prop where
  distinct : (calls.map DefaultCall.modelId).Nodup
  unused : ∀ call ∈ calls, rows.hasModel call.modelId = false

/-- The rows that calls for default models can leave: at first there are no default models, then
any calls take turns in any order, and perhaps not all of them end. -/
inductive RegistryRows.DefaultsMade : RegistryRows → Prop
  | start {rows : RegistryRows}
      (h : ∀ record ∈ rows.models, record.isDefault = false ∧ record.defaultKey = none) :
      DefaultsMade rows
  | calls {rows : RegistryRows} {calls : List DefaultCall} (h : DefaultsMade rows)
      (hfresh : FreshIds calls rows) (schedule : List Nat) :
      DefaultsMade ((DefaultCallers.start rows calls).run schedule).rows

/-! ### Default models -/

namespace RegistryRows

variable {rows : RegistryRows} {workspaceId : String}

/-- The models that are default models of the workspace. -/
def defaultModels (rows : RegistryRows) (workspaceId : String) : List ModelRecord :=
  rows.models.filter fun record => record.workspaceId == workspaceId && record.isDefault

/-- Default models, and they alone, have the identifier of their workspace as their key, and a
workspace has no more than one of them. -/
structure DefaultsKeyed (rows : RegistryRows) : Prop where
  key : ∀ record ∈ rows.models,
    record.defaultKey = if record.isDefault then some record.workspaceId else none
  once : ∀ workspaceId, (rows.defaultModels workspaceId).length ≤ 1

theorem defaultModel_eq : rows.defaultModel? workspaceId =
    (oldest? (rows.defaultModels workspaceId)).map (·.toDataModel) := rfl

theorem defaultModel_eq_none_iff :
    rows.defaultModel? workspaceId = none ↔ rows.defaultModels workspaceId = [] := by
  rw [defaultModel_eq, Option.map_eq_none_iff]
  constructor
  · intro hnone
    by_contra hsome
    have holdest := oldest_isSome hsome
    rw [hnone] at holdest
    cases holdest
  · intro hnil
    rw [hnil]
    rfl

theorem isDefault_of_defaultModel {model : DataModel}
    (h : rows.defaultModel? workspaceId = some model) :
    model.isDefault = true ∧ model.workspaceId = workspaceId := by
  obtain ⟨record, hrecord, rfl⟩ := Option.map_eq_some_iff.1 h
  have hdefault := (List.mem_filter.1 (mem_of_oldest hrecord)).2
  simp only [Bool.and_eq_true, beq_iff_eq] at hdefault
  exact ⟨hdefault.2, hdefault.1⟩

/-- The key of a workspace is taken if the workspace has a default model. -/
theorem DefaultsKeyed.any_defaultKey (h : rows.DefaultsKeyed) :
    rows.models.any (·.defaultKey == some workspaceId) =
      (rows.defaultModel? workspaceId).isSome := by
  have hkey : ∀ record ∈ rows.models, (record.defaultKey == some workspaceId) =
      (record.workspaceId == workspaceId && record.isDefault) := by
    intro record hrecord
    rw [h.key record hrecord]
    cases record.isDefault <;> simp
  rw [Bool.eq_iff_iff, Option.isSome_iff_ne_none, ne_eq, defaultModel_eq_none_iff, defaultModels,
    List.filter_eq_nil_iff, List.any_eq_true]
  push Not
  constructor
  · rintro ⟨record, hrecord, htaken⟩
    exact ⟨record, hrecord, hkey record hrecord ▸ htaken⟩
  · rintro ⟨record, hrecord, hdefault⟩
    exact ⟨record, hrecord, (hkey record hrecord).trans hdefault⟩

end RegistryRows

/-! ### One statement -/

namespace DefaultCall

variable {call other : DefaultCall} {rows changed : RegistryRows} {stage : Stage}
  {workspaceId : String}

/-- What a statement of the call does to the rows: nothing, or it adds the default model of a
workspace that has none. -/
inductive Extends (call : DefaultCall) (rows : RegistryRows) : RegistryRows → Prop
  | same : Extends call rows rows
  | added (hnone : rows.defaultModels call.workspaceId = [])
      (hid : rows.hasModel call.modelId = false) :
      Extends call rows { rows with models := rows.models ++ [call.record] }

/-- What is true of a call at a stage. A call that has not added its model yet can do so under its
own identifier, and one that has tried finds a model. No call fails. -/
def Fits (call : DefaultCall) (rows : RegistryRows) : Stage → Prop
  | .looking | .adding => rows.hasModel call.modelId = false
  | .rereading => (rows.defaultModel? call.workspaceId).isSome = true
  | .returned model => rows.defaultModel? call.workspaceId = some model
  | .failed _ => False

theorem defaultModels_append_self :
    RegistryRows.defaultModels { rows with models := rows.models ++ [call.record] }
      call.workspaceId = rows.defaultModels call.workspaceId ++ [call.record] := by
  simp [RegistryRows.defaultModels, record]

theorem defaultModels_append_other (h : workspaceId ≠ call.workspaceId) :
    RegistryRows.defaultModels { rows with models := rows.models ++ [call.record] } workspaceId =
      rows.defaultModels workspaceId := by
  simp [RegistryRows.defaultModels, record, h.symm]

/-- A model is added just where the workspace has no default model. -/
theorem addDefaultModel_cases (hkeyed : rows.DefaultsKeyed)
    (hid : rows.hasModel call.modelId = false) :
    ∃ changed, rows.addDefaultModel call.modelId call.workspaceId call.name call.now =
        .ok changed ∧ call.Extends rows changed ∧
      (changed.defaultModel? call.workspaceId).isSome = true := by
  unfold RegistryRows.addDefaultModel RegistryRows.addModel
  simp only [Option.isSome_some, Bool.true_and, hkeyed.any_defaultKey, hid, Bool.false_eq_true,
    if_false]
  split
  · rename_i hsome
    exact ⟨rows, rfl, .same, hsome⟩
  · rename_i hnone
    have hnil : rows.defaultModels call.workspaceId = [] := by
      rwa [← RegistryRows.defaultModel_eq_none_iff, ← Option.not_isSome_iff_eq_none]
    have hadded : call.Extends rows { rows with models := rows.models ++ [call.record] } :=
      .added hnil hid
    refine ⟨_, rfl, hadded, ?_⟩
    rw [RegistryRows.defaultModel_eq, Option.isSome_map]
    apply oldest_isSome
    exact defaultModels_append_self.trans_ne (by simp)

/-- A statement of a call leaves the keys in order, and the call is true to its next stage. -/
theorem advance_fits (hkeyed : rows.DefaultsKeyed) (h : call.Fits rows stage) :
    call.Extends rows (call.advance rows stage).2 ∧
      call.Fits (call.advance rows stage).2 (call.advance rows stage).1 := by
  cases stage with
  | looking =>
    unfold advance
    dsimp only
    split
    · rename_i model hmodel
      exact ⟨.same, hmodel⟩
    · exact ⟨.same, h⟩
  | adding =>
    obtain ⟨changed, hadd, hextends, hsome⟩ := addDefaultModel_cases hkeyed h
    simp only [advance, hadd]
    exact ⟨hextends, hsome⟩
  | rereading =>
    obtain ⟨model, hmodel⟩ := Option.isSome_iff_exists.1 h
    simp only [advance, hmodel]
    exact ⟨.same, hmodel⟩
  | returned model => exact ⟨.same, h⟩
  | failed fault => exact absurd h id

theorem advance_left : (call.advance rows stage).1.left ≤ stage.left - 1 := by
  cases stage with
  | looking =>
    unfold advance
    dsimp only
    split <;> simp [Stage.left]
  | adding =>
    unfold advance
    dsimp only
    split <;> simp [Stage.left]
  | rereading =>
    unfold advance
    dsimp only
    split <;> simp [Stage.left]
  | returned model => exact Nat.zero_le _
  | failed fault => exact Nat.zero_le _

theorem Extends.keyed (h : call.Extends rows changed) (hkeyed : rows.DefaultsKeyed) :
    changed.DefaultsKeyed := by
  cases h with
  | same => exact hkeyed
  | added hnone hid =>
    constructor
    · intro model hmodel
      rcases List.mem_append.1 hmodel with hmodel | hmodel
      · exact hkeyed.key model hmodel
      · rw [List.mem_singleton.1 hmodel]
        rfl
    · intro workspaceId
      by_cases hworkspace : workspaceId = call.workspaceId
      · rw [hworkspace, defaultModels_append_self, hnone]
        simp
      · rw [defaultModels_append_other hworkspace]
        exact hkeyed.once workspaceId

/-- The default model of a workspace stays the same. -/
theorem Extends.defaultModel_eq_some {model : DataModel} (h : call.Extends rows changed)
    (hmodel : rows.defaultModel? workspaceId = some model) :
    changed.defaultModel? workspaceId = some model := by
  cases h with
  | same => exact hmodel
  | added hnone hid =>
    have hworkspace : workspaceId ≠ call.workspaceId := by
      rintro rfl
      rw [RegistryRows.defaultModel_eq_none_iff.2 hnone] at hmodel
      cases hmodel
    rw [RegistryRows.defaultModel_eq, defaultModels_append_other hworkspace]
    exact hmodel

/-- The other calls stay true to their stages. -/
theorem Extends.fits (h : call.Extends rows changed) (hne : other.modelId ≠ call.modelId)
    (hother : other.Fits rows stage) : other.Fits changed stage := by
  have hunused (hid : rows.hasModel other.modelId = false) :
      changed.hasModel other.modelId = false := by
    cases h with
    | same => exact hid
    | added =>
      unfold RegistryRows.hasModel at hid ⊢
      simp [hid, record, hne.symm]
  cases stage with
  | looking => exact hunused hother
  | adding => exact hunused hother
  | rereading =>
    obtain ⟨model, hmodel⟩ := Option.isSome_iff_exists.1 hother
    exact Option.isSome_iff_exists.2 ⟨model, h.defaultModel_eq_some hmodel⟩
  | returned model => exact h.defaultModel_eq_some hother
  | failed fault => exact hother

/-- Models of workspaces other than that of the call stay as they are. -/
theorem Extends.filter_models (h : call.Extends rows changed)
    (hworkspace : workspaceId ≠ call.workspaceId) :
    changed.models.filter (·.workspaceId == workspaceId) =
      rows.models.filter (·.workspaceId == workspaceId) := by
  cases h with
  | same => rfl
  | added => simp [record, hworkspace.symm]

end DefaultCall

/-! ### A call that is left alone -/

open Transaction

/-- A call that takes all turns does what the transaction does: it ends in the same way, and leaves
the same rows. -/
theorem ensureDefault_eq_run {registry : Registry} (hintact : registry.Intact)
    (workspaceId name now : String) (state : TransactionState) :
    let call : DefaultCall := ⟨workspaceId, name, defaultModelId workspaceId, now⟩
    let alone := (DefaultCallers.start state.rows [call]).run [0, 0, 0]
    let done := ensureDefault workspaceId name now registry state
    alone.callers.map (fun caller => caller.2.outcome?) = [some done.1] ∧
      alone.rows = done.2.rows := by
  intro call alone done
  have hturn (rows : RegistryRows) (stage : DefaultCall.Stage) :
      DefaultCallers.turn ⟨rows, [(call, stage)]⟩ 0 =
        ⟨(call.advance rows stage).2, [(call, (call.advance rows stage).1)]⟩ := rfl
  have halone :
      alone = (((DefaultCallers.mk state.rows [(call, .looking)]).turn 0).turn 0).turn 0 := rfl
  have hdone : done = ensureDefault workspaceId name now registry state := rfl
  unfold ensureDefault at hdone
  rw [bind_run, select_run hintact] at hdone
  rw [hturn, hturn, hturn] at halone
  cases hfirst : state.rows.defaultModel? workspaceId with
  | some model =>
    simp only [halone, DefaultCall.advance, call, hfirst]
    rw [hfirst] at hdone
    rw [hdone]
    exact ⟨rfl, rfl⟩
  | none =>
    rw [hfirst] at hdone
    dsimp only at hdone
    rw [bind_run, change_run hintact] at hdone
    cases hadd : state.rows.addDefaultModel (defaultModelId workspaceId) workspaceId name now with
    | error fault =>
      simp only [halone, DefaultCall.advance, call, hfirst, hadd]
      rw [hadd] at hdone
      rw [hdone]
      exact ⟨rfl, rfl⟩
    | ok changed =>
      rw [hadd] at hdone
      dsimp only at hdone
      rw [bind_run, select_run hintact] at hdone
      cases hagain : changed.defaultModel? workspaceId with
      | some model =>
        simp only [halone, DefaultCall.advance, call, hfirst, hadd, hagain]
        rw [hagain] at hdone
        rw [hdone]
        exact ⟨rfl, rfl⟩
      | none =>
        simp only [halone, DefaultCall.advance, call, hfirst, hadd, hagain]
        rw [hagain] at hdone
        rw [hdone]
        exact ⟨rfl, rfl⟩

/-! ### Calls that take turns -/

namespace DefaultCallers

variable {state : DefaultCallers} {call : DefaultCall} {stage : DefaultCall.Stage}
  {calls : List DefaultCall} {rows : RegistryRows} {place : Nat}

/-- The calls have identifiers of their own, and each of them is true to its stage. -/
structure Consistent (state : DefaultCallers) : Prop where
  keyed : state.rows.DefaultsKeyed
  distinct : (state.callers.map fun caller => caller.1.modelId).Nodup
  fits : ∀ (place : Nat) (call : DefaultCall) (stage : DefaultCall.Stage),
    state.callers[place]? = some (call, stage) → call.Fits state.rows stage

theorem turn_eq (h : state.callers[place]? = some (call, stage)) :
    state.turn place = ⟨(call.advance state.rows stage).2,
      state.callers.set place (call, (call.advance state.rows stage).1)⟩ := by
  unfold turn
  rw [h]

theorem turn_of_none (h : state.callers[place]? = none) : state.turn place = state := by
  unfold turn
  rw [h]

/-- A turn is one statement of the call whose turn it is, and no other call moves. -/
theorem callers_turn (h : state.callers[place]? = some (call, stage)) (other : Nat) :
    (state.turn other).callers[place]? = some (call,
      if other = place then (call.advance state.rows stage).1 else stage) := by
  by_cases hother : other = place
  · subst hother
    have hlt : other < state.callers.length := (List.getElem?_eq_some_iff.1 h).1
    rw [turn_eq h, if_pos rfl, List.getElem?_set_self hlt]
  · rw [if_neg hother]
    cases hcaller : state.callers[other]? with
    | none => rw [turn_of_none hcaller, h]
    | some caller =>
      rw [turn_eq hcaller, List.getElem?_set_ne hother, h]

theorem calls_turn (state : DefaultCallers) (place : Nat) :
    (state.turn place).callers.map Prod.fst = state.callers.map Prod.fst := by
  cases hcaller : state.callers[place]? with
  | none => rw [turn_of_none hcaller]
  | some caller =>
    rw [turn_eq hcaller, List.map_set]
    apply List.ext_getElem?
    intro other
    rw [List.getElem?_set]
    split
    · subst other
      have hlt : place < (state.callers.map Prod.fst).length := by
        rw [List.length_map]
        exact (List.getElem?_eq_some_iff.1 hcaller).1
      rw [if_pos hlt, List.getElem?_map, hcaller]
      rfl
    · rfl

theorem extends_turn (hstate : state.Consistent)
    (h : state.callers[place]? = some (call, stage)) :
    call.Extends state.rows (state.turn place).rows := by
  rw [turn_eq h]
  exact (DefaultCall.advance_fits hstate.keyed (hstate.fits place call stage h)).1

theorem Consistent.turn (hstate : state.Consistent) (place : Nat) :
    (state.turn place).Consistent := by
  cases hcaller : state.callers[place]? with
  | none => rwa [turn_of_none hcaller]
  | some caller =>
    obtain ⟨call, stage⟩ := caller
    have hextends := extends_turn hstate hcaller
    refine ⟨hextends.keyed hstate.keyed, ?_, ?_⟩
    · have hids := congrArg (List.map DefaultCall.modelId) (calls_turn state place)
      rw [List.map_map, List.map_map] at hids
      exact hids.symm ▸ hstate.distinct
    · intro otherPlace other otherStage hother
      by_cases hplace : otherPlace = place
      · subst hplace
        rw [callers_turn hcaller, if_pos rfl] at hother
        obtain ⟨rfl, rfl⟩ := Prod.mk.inj (Option.some.inj hother)
        rw [turn_eq hcaller]
        exact (DefaultCall.advance_fits hstate.keyed (hstate.fits _ _ _ hcaller)).2
      · have hold : state.callers[otherPlace]? = some (other, otherStage) := by
          rw [turn_eq hcaller, List.getElem?_set_ne (Ne.symm hplace)] at hother
          exact hother
        refine hextends.fits ?_ (hstate.fits otherPlace other otherStage hold)
        intro heq
        apply hplace
        have hlt : otherPlace < (state.callers.map fun caller => caller.1.modelId).length := by
          rw [List.length_map]
          exact (List.getElem?_eq_some_iff.1 hold).1
        apply (List.getElem?_inj hlt hstate.distinct).1
        rw [List.getElem?_map, List.getElem?_map, hold, hcaller]
        exact congrArg some heq

theorem Consistent.run (hstate : state.Consistent) (schedule : List Nat) :
    (state.run schedule).Consistent := by
  induction schedule generalizing state with
  | nil => exact hstate
  | cons place rest ih => exact ih (hstate.turn place)

/-- Each turn of a call brings it nearer to its end. -/
theorem callers_run (h : state.callers[place]? = some (call, stage)) (schedule : List Nat) :
    ∃ later, (state.run schedule).callers[place]? = some (call, later) ∧
      later.left ≤ stage.left - schedule.count place := by
  induction schedule generalizing state stage with
  | nil => exact ⟨stage, h, by simp⟩
  | cons other rest ih =>
    obtain ⟨later, hlater, hleft⟩ := ih (callers_turn h other)
    refine ⟨later, hlater, ?_⟩
    by_cases hother : other = place
    · rw [if_pos hother] at hleft
      have hadvance : (call.advance state.rows stage).1.left ≤ stage.left - 1 :=
        DefaultCall.advance_left
      rw [hother, List.count_cons_self]
      omega
    · rw [if_neg hother] at hleft
      rwa [List.count_cons_of_ne hother]

/-- Of all that is stored, a turn changes only the models, to which it may add that of a call. -/
theorem rows_turn (hstate : state.Consistent) (place : Nat) :
    ∃ added, (state.turn place).rows =
        { state.rows with models := state.rows.models ++ added } ∧
      ∀ record ∈ added, ∃ call ∈ state.callers.map Prod.fst, record = call.record := by
  cases hcaller : state.callers[place]? with
  | none =>
    rw [turn_of_none hcaller]
    exact ⟨[], by simp, by simp⟩
  | some caller =>
    have hextends := extends_turn hstate hcaller
    generalize (state.turn place).rows = changed at hextends ⊢
    cases hextends with
    | same => exact ⟨[], by simp, by simp⟩
    | added =>
      refine ⟨[caller.1.record], rfl, ?_⟩
      intro record hrecord
      rw [List.mem_singleton.1 hrecord]
      exact ⟨caller.1, List.mem_map_of_mem (List.mem_of_getElem? hcaller), rfl⟩

theorem rows_run (hstate : state.Consistent) (schedule : List Nat) :
    ∃ added, (state.run schedule).rows =
        { state.rows with models := state.rows.models ++ added } ∧
      ∀ record ∈ added, ∃ call ∈ state.callers.map Prod.fst, record = call.record := by
  induction schedule generalizing state with
  | nil => exact ⟨[], by simp [run], by simp⟩
  | cons place rest ih =>
    obtain ⟨first, hfirst, hfirstRecords⟩ := rows_turn hstate place
    obtain ⟨added, hrows, hrecords⟩ := ih (hstate.turn place)
    rw [calls_turn] at hrecords
    refine ⟨first ++ added, ?_, ?_⟩
    · change ((state.turn place).run rest).rows = _
      rw [hrows, hfirst, List.append_assoc]
    · intro record hrecord
      rcases List.mem_append.1 hrecord with hrecord | hrecord
      · exact hfirstRecords record hrecord
      · exact hrecords record hrecord

theorem consistent_start (hkeyed : rows.DefaultsKeyed) (hfresh : FreshIds calls rows) :
    (start rows calls).Consistent := by
  refine ⟨hkeyed, ?_, ?_⟩
  · unfold start
    rw [List.map_map]
    exact hfresh.distinct
  · intro place call stage hcaller
    unfold start at hcaller
    rw [List.getElem?_map] at hcaller
    obtain ⟨other, hother, heq⟩ := Option.map_eq_some_iff.1 hcaller
    obtain ⟨rfl, rfl⟩ := Prod.mk.inj heq
    exact hfresh.unused other (List.mem_of_getElem? hother)

end DefaultCallers

theorem RegistryRows.DefaultsMade.keyed {rows : RegistryRows} (h : rows.DefaultsMade) :
    rows.DefaultsKeyed := by
  induction h with
  | @start rows h =>
    constructor
    · intro record hrecord
      rw [(h record hrecord).1, (h record hrecord).2]
      rfl
    · intro workspaceId
      have hnil : rows.defaultModels workspaceId = [] := by
        apply List.filter_eq_nil_iff.2
        intro record hrecord
        simp [(h record hrecord).1]
      rw [hnil]
      exact Nat.zero_le 1
  | calls _ hfresh schedule ih =>
    exact ((DefaultCallers.consistent_start ih hfresh).run schedule).keyed

/-- What calls for default models come to when they take turns, at whatever moment. -/
structure DefaultCallers.Converges (rows : RegistryRows) (calls : List DefaultCall)
    (schedule : List Nat) (after : DefaultCallers) : Prop where
  /-- No workspace has two default models. -/
  once : ∀ workspaceId, (after.rows.defaultModels workspaceId).length ≤ 1
  /-- A call is over after three turns at most, and then it has returned a model. -/
  ends : ∀ (place : Nat) (call : DefaultCall), calls[place]? = some call →
    3 ≤ schedule.count place → ∃ model, after.callers[place]? = some (call, .returned model)
  never_fails : ∀ (place : Nat) (call : DefaultCall) (fault : RegistryFault),
    after.callers[place]? ≠ some (call, .failed fault)
  /-- What has been returned is the default model of the workspace. -/
  returned : ∀ (place : Nat) (call : DefaultCall) (model : DataModel),
    after.callers[place]? = some (call, .returned model) →
      after.rows.defaultModel? call.workspaceId = some model ∧ model.isDefault = true ∧
        model.workspaceId = call.workspaceId
  same : ∀ (place other : Nat) (one two : DefaultCall) (model more : DataModel),
    after.callers[place]? = some (one, .returned model) →
    after.callers[other]? = some (two, .returned more) →
    one.workspaceId = two.workspaceId → model.id = more.id
  /-- The next statement of a call changes no model of another workspace. -/
  others : ∀ (place : Nat) (call : DefaultCall) (stage : DefaultCall.Stage) (workspaceId : String),
    after.callers[place]? = some (call, stage) → workspaceId ≠ call.workspaceId →
    (after.turn place).rows.models.filter (·.workspaceId == workspaceId) =
      after.rows.models.filter (·.workspaceId == workspaceId)
  /-- All that was stored before is stored still, and of models only those of calls are new. -/
  stored : ∃ added, after.rows = { rows with models := rows.models ++ added } ∧
    ∀ record ∈ added, ∃ call ∈ calls, record = call.record

/-- Any number of calls for default models of any workspaces, whose statements are run in any order,
agree on one default model for each workspace. -/
theorem DefaultCallers.run_converges {rows : RegistryRows} {calls : List DefaultCall}
    (hrows : rows.DefaultsMade) (hfresh : FreshIds calls rows) (schedule : List Nat) :
    Converges rows calls schedule ((start rows calls).run schedule) := by
  have hstart : (start rows calls).Consistent := consistent_start hrows.keyed hfresh
  have hafter := hstart.run schedule
  have hcalls : (start rows calls).callers.map Prod.fst = calls := by
    simp [start, Function.comp_def]
  have hdefault (place : Nat) (call : DefaultCall) (model : DataModel)
      (hcaller : ((start rows calls).run schedule).callers[place]? =
        some (call, .returned model)) :
      ((start rows calls).run schedule).rows.defaultModel? call.workspaceId = some model :=
    hafter.fits place call _ hcaller
  refine ⟨hafter.keyed.once, ?_, ?_, ?_, ?_, ?_, ?_⟩
  · intro place call hcall hturns
    have hfirst : (start rows calls).callers[place]? = some (call, .looking) := by
      simp [start, hcall]
    obtain ⟨later, hlater, hleft⟩ := callers_run hfirst schedule
    have hfits := hafter.fits place call later hlater
    have hzero : later.left = 0 := by
      simp only [DefaultCall.Stage.left] at hleft ⊢
      omega
    cases later with
    | returned model => exact ⟨model, hlater⟩
    | failed fault => exact absurd hfits id
    | looking => cases hzero
    | adding => cases hzero
    | rereading => cases hzero
  · intro place call fault hcaller
    exact hafter.fits place call _ hcaller
  · intro place call model hcaller
    have hmodel := hdefault place call model hcaller
    exact ⟨hmodel, RegistryRows.isDefault_of_defaultModel hmodel⟩
  · intro place other one two model more hone htwo hworkspace
    have hmodel := hdefault place one model hone
    rw [hworkspace, hdefault other two more htwo] at hmodel
    rw [Option.some.inj hmodel]
  · intro place call stage workspaceId hcaller hworkspace
    exact (extends_turn hafter hcaller).filter_models hworkspace
  · obtain ⟨added, hrows, hrecords⟩ := rows_run hstart schedule
    rw [hcalls] at hrecords
    exact ⟨added, hrows, hrecords⟩

/-- Two calls that both find no model, and one of another workspace. -/
def racingCalls : List DefaultCall :=
  [⟨"main", "Sales", "one", "2024-05-01"⟩, ⟨"main", "Orders", "two", "2024-05-02"⟩,
    ⟨"other", "Staff", "three", "2024-05-03"⟩]

/-- Whoever adds its model first, here the second call, makes the model that the first one returns.
-/
theorem DefaultCallers.run_converges_racing :
    let after := (start .empty racingCalls).run [0, 1, 1, 0, 2, 0, 1, 2, 2]
    Converges .empty racingCalls [0, 1, 1, 0, 2, 0, 1, 2, 2] after ∧
      after.rows.models.map (·.id) = ["two", "three"] ∧
      ∃ model more, after.callers[0]? = some (racingCalls[0], .returned model) ∧
        after.callers[1]? = some (racingCalls[1], .returned more) ∧ model.id = more.id := by
  intro after
  have hrows : RegistryRows.empty.DefaultsMade := .start (by decide)
  have hfresh : FreshIds racingCalls .empty := ⟨by decide, by decide⟩
  have hafter : Converges .empty racingCalls [0, 1, 1, 0, 2, 0, 1, 2, 2] after :=
    run_converges hrows hfresh [0, 1, 1, 0, 2, 0, 1, 2, 2]
  obtain ⟨model, hmodel⟩ := hafter.ends 0 racingCalls[0] rfl (by decide)
  obtain ⟨more, hmore⟩ := hafter.ends 1 racingCalls[1] rfl (by decide)
  exact ⟨hafter, by decide +kernel, model, more, hmodel, hmore,
    hafter.same 0 1 _ _ model more hmodel hmore rfl⟩

end SemanticLayer
