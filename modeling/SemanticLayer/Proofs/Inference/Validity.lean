import SemanticLayer.Proofs.Inference.Profiling

/-!
Which relationships are evaluated as valid. A request is refused for many-to-many, for columns of
different types, for values that have nothing in common, for a cardinality that turns out to be
many-to-many, and for tables that cannot be joined when a query runs; for nothing else. What was
asked for counts only where the inference leaves the cardinality open.
-/

namespace SemanticLayer

/-- Tables can be joined when a query runs if they are on one engine and both have a name there. -/
theorem runtimeObstacle_eq_none_iff {one two : Table} :
    runtimeObstacle one two = none ↔ one.engine = two.engine ∧
      (presentText one.runtimeRef).isSome = true ∧ (presentText two.runtimeRef).isSome = true := by
  unfold runtimeObstacle
  by_cases hengine : one.engine = two.engine
  · cases presentText one.runtimeRef <;> cases presentText two.runtimeRef <;> simp [hengine]
  · simp [hengine]

namespace Evaluation

variable {one two : Table} {requested : Option Cardinality} {inference : PairInference}

/-- The cardinality that a request asks for. One with an empty code asks for nothing. -/
def asked (requested : Option Cardinality) : Option Cardinality :=
  requested.filter fun cardinality => !cardinality.code.isEmpty

theorem asked_ne (h : requested ≠ some .manyToMany) : asked requested ≠ some .manyToMany := by
  intro hasked
  exact h (Option.filter_eq_some_iff.1 hasked).1

theorem status_valid_or_invalid (one two : Table) (requested : Option Cardinality)
    (inference : PairInference) :
    (ofInference one two requested inference).status = validStatus ∨
      (ofInference one two requested inference).status = invalidStatus := by
  rw [status_eq]
  split
  · exact .inr rfl
  · exact .inl rfl

theorem status_ofInference :
    (ofInference one two requested inference).status = validStatus ↔
      inference.rejection = none ∧
      (ofInference one two requested inference).cardinality ≠ .manyToMany ∧
      runtimeObstacle one two = none := by
  unfold ofInference
  dsimp only
  generalize (inference.cardinality.or _).getD .manyToOne = cardinality
  have hstatus : invalidStatus ≠ validStatus := by decide
  cases inference.rejection with
  | some rejection => simp [hstatus]
  | none =>
    by_cases hmany : cardinality = .manyToMany
    · simp [hmany, hstatus]
    · cases runtimeObstacle one two <;> simp [hmany, hstatus]

/-- What is asked for plays no part where the inference shows a cardinality. -/
theorem ofInference_of_isSome (h : inference.cardinality.isSome = true)
    (other : Option Cardinality) :
    ofInference one two requested inference = ofInference one two other inference := by
  obtain ⟨cardinality, hcardinality⟩ := Option.isSome_iff_exists.1 h
  unfold ofInference
  dsimp only
  rw [hcardinality, Option.some_or, Option.some_or]

/-- Where the inference shows none, what is asked for is taken, and nothing else depends on it. -/
theorem ofInference_of_none (h : inference.cardinality = none)
    (hrequested : requested ≠ some .manyToMany) :
    ofInference one two requested inference =
      { ofInference one two none inference with
        cardinality := (asked requested).getD .manyToOne } := by
  have hmany : ((asked requested).getD .manyToOne == .manyToMany) = false := by
    refine beq_false_of_ne fun hmany => ?_
    cases hasked : asked requested with
    | none =>
      rw [hasked] at hmany
      cases hmany
    | some cardinality =>
      rw [hasked, Option.getD_some] at hmany
      exact asked_ne hrequested (hasked.trans (congrArg some hmany))
  unfold asked at hmany ⊢
  unfold ofInference
  dsimp only
  rw [h, Option.none_or, hmany]
  rfl

end Evaluation

/-- What it takes for the relationship that is evaluated on two columns to be executable. -/
structure Evaluation.IsExecutable (evaluation : Evaluation) (profiler : Option Profiler)
    (one : Table) (first : Column) (two : Table) (second : Column)
    (requested : Option Cardinality) : Prop where
  requested : requested ≠ some .manyToMany
  kinds : DataKind.ofType first.type = DataKind.ofType second.type
  overlap : ∀ source ∈ profiler, canProfile one two = true → ∀ profile,
    (ProfileAnswers.ofRequests source one first two second .empty).profile? = some profile →
      profile.overlap.shared ≠ 0
  cardinality : evaluation.cardinality ≠ .manyToMany
  engines : one.engine = two.engine
  oneRef : (presentText one.runtimeRef).isSome = true
  twoRef : (presentText two.runtimeRef).isSome = true

section

variable {profiler : Option Profiler} {one two : Table} {oneName twoName : String}
  {first second : Column}

/-- Something is inferred on any two columns whose names need not say anything. -/
theorem exists_inferPair (profiler : Option Profiler) (one : Table) (first : Column) (two : Table)
    (second : Column) (cache : ProfileCache) :
    ∃ inference,
      ((inferPair profiler one first two second false).run cache).1 = some inference := by
  rw [inferPair_run, inferWith, Bool.false_and, if_neg Bool.false_ne_true]
  exact ⟨_, rfl⟩

/-- An inference is not rejected just if the columns are of one type, and the profiles, if they are
had, show a common value. -/
theorem inferPair_rejection_eq_none_iff {namingRequired : Bool} {cache : ProfileCache}
    {inference : PairInference}
    (h : ((inferPair profiler one first two second namingRequired).run cache).1 =
      some inference) :
    inference.rejection = none ↔ DataKind.ofType first.type = DataKind.ofType second.type ∧
      ∀ source ∈ profiler, canProfile one two = true → ∀ profile,
        (ProfileAnswers.ofRequests source one first two second cache).profile? = some profile →
          profile.overlap.shared ≠ 0 := by
  rw [inferPair_run] at h
  rw [eq_conclude_of_inferWith h, PairInference.rejection_conclude_eq_none_iff,
    bne_eq_false_iff_eq]
  refine and_congr_right fun _ => ?_
  cases profiler with
  | none => simp [PairProfile.ask?]
  | some source =>
    rw [PairProfile.ask?_run]
    cases canProfile one two <;> simp

theorem evaluateRelationship_of_columns (hfirst : one.findColumn? oneName = some first)
    (hsecond : two.findColumn? twoName = some second) {inference : PairInference}
    (hinference : ((inferPair profiler one first two second false).run .empty).1 = some inference)
    {requested : Option Cardinality} (hrequested : requested ≠ some .manyToMany) :
    evaluateRelationship profiler one oneName two twoName requested =
      .ok (.ofInference one two requested inference) := by
  unfold evaluateRelationship
  rw [hfirst, hsecond]
  dsimp only
  rw [if_neg (by simpa using hrequested)]
  generalize (inferPair profiler one first two second false).run ProfileCache.empty =
    outcome at hinference ⊢
  obtain ⟨found, later⟩ := outcome
  obtain rfl : found = some inference := hinference
  rfl

theorem evaluateRelationship_manyToMany (hfirst : one.findColumn? oneName = some first)
    (hsecond : two.findColumn? twoName = some second) :
    evaluateRelationship profiler one oneName two twoName (some .manyToMany) = .ok .forced := by
  unfold evaluateRelationship
  rw [hfirst, hsecond]
  rfl

end

/-- Any two columns that are there are evaluated, as valid just if the relationship is executable.
Whatever is asked for short of many-to-many, the evaluation is the same where the inference shows a
cardinality; where it shows none, it has the cardinality that was asked for, or else many-to-one,
and nothing else depends on that. -/
theorem evaluateRelationship_valid_iff (profiler : Option Profiler) {one two : Table}
    {oneName twoName : String} {first second : Column}
    (hfirst : one.findColumn? oneName = some first)
    (hsecond : two.findColumn? twoName = some second) :
    let evaluate := evaluateRelationship profiler one oneName two twoName
    (∀ requested, ∃ evaluation, evaluate requested = .ok evaluation ∧
      (evaluation.status = validStatus ∨ evaluation.status = invalidStatus) ∧
      (evaluation.status = validStatus ↔
        evaluation.IsExecutable profiler one first two second requested)) ∧
    ∃ inference, ((inferPair profiler one first two second false).run .empty).1 = some inference ∧
      (∀ cardinality, inference.cardinality = some cardinality →
        ∃ evaluation, evaluation.cardinality = cardinality ∧
          ∀ requested, requested ≠ some .manyToMany → evaluate requested = .ok evaluation) ∧
      (inference.cardinality = none →
        ∃ evaluation : Evaluation, ∀ requested, requested ≠ some .manyToMany →
          evaluate requested = .ok { evaluation with
            cardinality := (Evaluation.asked requested).getD .manyToOne }) := by
  intro evaluate
  obtain ⟨inference, hinference⟩ := exists_inferPair profiler one first two second .empty
  have hevaluate (requested : Option Cardinality) (h : requested ≠ some .manyToMany) :
      evaluate requested = .ok (.ofInference one two requested inference) :=
    evaluateRelationship_of_columns hfirst hsecond hinference h
  refine ⟨fun requested => ?_, inference, hinference, fun cardinality hcardinality => ?_,
    fun hnone => ?_⟩
  · by_cases hrequested : requested = some .manyToMany
    · refine ⟨.forced, ?_, .inr rfl, ?_⟩
      · rw [hrequested]
        exact evaluateRelationship_manyToMany hfirst hsecond
      · refine iff_of_false (by decide) fun hexecutable => ?_
        exact hexecutable.requested hrequested
    · refine ⟨_, hevaluate requested hrequested, ?_, ?_⟩
      · exact Evaluation.status_valid_or_invalid one two requested inference
      · rw [Evaluation.status_ofInference, inferPair_rejection_eq_none_iff hinference,
          runtimeObstacle_eq_none_iff]
        constructor
        · rintro ⟨⟨hkinds, hoverlap⟩, hcardinality, hengines, hone, htwo⟩
          exact ⟨hrequested, hkinds, hoverlap, hcardinality, hengines, hone, htwo⟩
        · intro h
          exact ⟨⟨h.kinds, h.overlap⟩, h.cardinality, h.engines, h.oneRef, h.twoRef⟩
  · refine ⟨Evaluation.ofInference one two none inference, Evaluation.cardinality_ofInference hcardinality,
      fun requested hrequested => ?_⟩
    rw [hevaluate requested hrequested,
      Evaluation.ofInference_of_isSome (Option.isSome_iff_exists.2 ⟨_, hcardinality⟩) none]
  · refine ⟨Evaluation.ofInference one two none inference, fun requested hrequested => ?_⟩
    rw [hevaluate requested hrequested, Evaluation.ofInference_of_none hnone hrequested]

/-- Orders and users that are asked for one to one are evaluated as many to one, and as valid. -/
theorem evaluateRelationship_valid_iff_shop :
    ordersTable.findColumn? "user_id" = some ⟨"user_id", "int"⟩ ∧
      usersTable.findColumn? "id" = some ⟨"id", "int"⟩ ∧
      ∃ evaluation, evaluateRelationship (some twinProfiler) ordersTable "user_id" usersTable "id"
          (some .oneToOne) = .ok evaluation ∧
        evaluation.cardinality = .manyToOne ∧ evaluation.status = validStatus := by
  have hfirst : ordersTable.findColumn? "user_id" = some ⟨"user_id", "int"⟩ := by decide +kernel
  have hsecond : usersTable.findColumn? "id" = some ⟨"id", "int"⟩ := by decide +kernel
  obtain ⟨hevaluates, inference, hinference, hshown, -⟩ :=
    evaluateRelationship_valid_iff (some twinProfiler) hfirst hsecond
  have hcardinality : inference.cardinality = some .manyToOne := by
    have hmap := congrArg (Option.map PairInference.cardinality) hinference
    exact Option.some.inj (hmap.symm.trans (by decide +kernel))
  obtain ⟨evaluation, hmanyToOne, hall⟩ := hshown .manyToOne hcardinality
  have hevaluated := hall (some .oneToOne) (by decide)
  obtain ⟨same, hsame, -, hvalid⟩ := hevaluates (some .oneToOne)
  obtain rfl := Except.ok.inj (hevaluated.symm.trans hsame)
  refine ⟨hfirst, hsecond, evaluation, hevaluated, hmanyToOne, hvalid.2 ?_⟩
  refine ⟨by decide, by decide, ?_, ?_, rfl, rfl, rfl⟩
  · rintro source hsource - profile hprofile
    obtain rfl := Option.some.inj hsource
    have hshared := congrArg (Option.map fun found => found.overlap.shared) hprofile
    exact ne_of_eq_of_ne (Option.some.inj (hshared.symm.trans rfl)) (by decide : 2 ≠ 0)
  · rw [hmanyToOne]
    decide

end SemanticLayer
