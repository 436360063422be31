import SemanticLayer.Inference.Evaluation
import SemanticLayer.Proofs.Inference.Pair
import SemanticLayer.Proofs.Request.Relationship

/-!
What is evaluated is one of the four cardinalities, and it is valid only without a reason against
it. Many-to-many is always a reason.
-/

namespace SemanticLayer

theorem NamingEvidence.isCase_of_ofNames {one two : NamedColumn} {found : NamingEvidence}
    (h : ofNames one two = some found) :
    ∀ cardinality ∈ found.cardinality, cardinality.isCase = true := by
  unfold ofNames at h
  dsimp only at h
  split_ifs at h <;> cases h <;> simp [Cardinality.isCase]

theorem Cardinality.isCase_ofUnique (one two : Bool) : (ofUnique one two).isCase = true := by
  cases one <;> cases two <;> rfl

theorem PairInference.isCase_ofProfile {naming : NamingEvidence} {shared : Bool}
    {profile : PairProfile}
    (h : ∀ cardinality ∈ naming.cardinality, cardinality.isCase = true) :
    ∀ cardinality ∈ (ofProfile naming shared profile).cardinality, cardinality.isCase = true := by
  unfold ofProfile
  split
  · exact h
  · dsimp only
    split
    · exact h
    · rintro _ ⟨⟩
      exact Cardinality.isCase_ofUnique _ _

theorem PairInference.isCase_conclude {naming : NamingEvidence} {differ shared : Bool}
    {profile : Option PairProfile}
    (h : ∀ cardinality ∈ naming.cardinality, cardinality.isCase = true) :
    ∀ cardinality ∈ (conclude naming differ shared profile).cardinality,
      cardinality.isCase = true := by
  cases differ with
  | true => exact h
  | false =>
    cases profile with
    | none => exact h
    | some profile => exact isCase_ofProfile h

/-- What is inferred on two columns is one of the four cases or left open. -/
theorem inferPair_isCase {profiler : Option Profiler} {one two : Table} {first second : Column}
    {namingRequired : Bool} {cache : ProfileCache} {inference : PairInference}
    (h : ((inferPair profiler one first two second namingRequired).run cache).1 = some inference) :
    ∀ cardinality ∈ inference.cardinality, cardinality.isCase = true := by
  have hcase : ∀ cardinality ∈ (namingOf one first two second).cardinality,
      cardinality.isCase = true := by
    unfold namingOf
    cases hnames : NamingEvidence.ofNames ⟨one.name, first.name⟩ ⟨two.name, second.name⟩ with
    | none => simp [NamingEvidence.nothing]
    | some found => exact NamingEvidence.isCase_of_ofNames hnames
  rw [inferPair_run] at h
  rw [eq_conclude_of_inferWith h]
  exact PairInference.isCase_conclude hcase

/-- An evaluation says nothing that is not one of the four cases, nothing good of many-to-many, and
nothing against what is valid. -/
structure Evaluation.IsConsistent (evaluation : Evaluation) : Prop where
  isCase : evaluation.cardinality.isCase = true
  manyToMany : evaluation.cardinality = .manyToMany → evaluation.status = invalidStatus
  valid : evaluation.status = validStatus → evaluation.invalidReason = none

/-- The status says whether there is a reason against what is evaluated. -/
theorem Evaluation.status_eq (one two : Table) (requested : Option Cardinality)
    (inference : PairInference) :
    (ofInference one two requested inference).status =
      if (ofInference one two requested inference).invalidReason.isSome then invalidStatus
      else validStatus :=
  rfl

theorem Evaluation.isConsistent_ofInference {one two : Table} {requested : Option Cardinality}
    {inference : PairInference}
    (hrequested : ∀ cardinality ∈ requested, cardinality.isCase = true)
    (hinferred : ∀ cardinality ∈ inference.cardinality, cardinality.isCase = true) :
    (ofInference one two requested inference).IsConsistent := by
  refine ⟨?_, ?_, ?_⟩
  · unfold ofInference
    dsimp only
    cases hinference : inference.cardinality with
    | some cardinality => exact hinferred _ hinference
    | none =>
      cases hasked : requested.filter fun cardinality => !cardinality.code.isEmpty with
      | none => rfl
      | some cardinality => exact hrequested _ (Option.filter_eq_some_iff.1 hasked).1
  · intro hmany
    unfold ofInference at hmany ⊢
    dsimp only at hmany ⊢
    simp [hmany]
  · intro hstatus
    by_contra hreason
    rw [status_eq, if_pos (Option.isSome_iff_ne_none.2 hreason)] at hstatus
    exact absurd hstatus (by decide)

/-- What is evaluated without a request for many-to-many follows from an inference. -/
theorem evaluateRelationship_eq_ok {profiler : Option Profiler} {one two : Table}
    {oneColumn twoColumn : String} {requested : Option Cardinality} {evaluation : Evaluation}
    (h : evaluateRelationship profiler one oneColumn two twoColumn requested = .ok evaluation) :
    ∃ first second, one.findColumn? oneColumn = some first ∧
      two.findColumn? twoColumn = some second ∧
      (evaluation = .forced ∨
        evaluation = .ofInference one two requested
          (((inferPair profiler one first two second false).run ProfileCache.empty).1.getD
            (.ofNaming .nothing false))) := by
  unfold evaluateRelationship at h
  cases hfirst : one.findColumn? oneColumn with
  | none =>
    rw [hfirst] at h
    cases h
  | some first =>
    cases hsecond : two.findColumn? twoColumn with
    | none =>
      rw [hfirst, hsecond] at h
      cases h
    | some second =>
      rw [hfirst, hsecond] at h
      dsimp only at h
      by_cases hforced : (requested == some .manyToMany) = true
      · rw [if_pos hforced] at h
        exact ⟨first, second, rfl, rfl, .inl (Except.ok.inj h).symm⟩
      · rw [if_neg hforced] at h
        refine ⟨first, second, rfl, rfl, .inr ?_⟩
        generalize (inferPair profiler one first two second false).run ProfileCache.empty =
          outcome at h ⊢
        exact (Except.ok.inj h).symm

theorem isConsistent_of_evaluateRelationship {profiler : Option Profiler} {one two : Table}
    {oneColumn twoColumn : String} {requested : Option Cardinality} {evaluation : Evaluation}
    (hrequested : ∀ cardinality ∈ requested, cardinality.isCase = true)
    (h : evaluateRelationship profiler one oneColumn two twoColumn requested = .ok evaluation) :
    evaluation.IsConsistent := by
  obtain ⟨first, second, -, -, rfl | rfl⟩ := evaluateRelationship_eq_ok h
  · exact ⟨rfl, fun _ => rfl, fun hstatus => absurd hstatus (by decide)⟩
  · refine Evaluation.isConsistent_ofInference hrequested ?_
    cases hinference :
        ((inferPair profiler one first two second false).run ProfileCache.empty).1 with
    | none => simp [PairInference.ofNaming, NamingEvidence.nothing]
    | some inference => exact inferPair_isCase hinference

/-! ### Strong names -/

theorem PairInference.cardinality_ofProfile {naming : NamingEvidence} {shared : Bool}
    {profile : PairProfile} (hstrong : naming.strength = .strong) :
    (ofProfile naming shared profile).cardinality = naming.cardinality := by
  unfold ofProfile
  split
  · rfl
  · simp [hstrong]

theorem Evaluation.cardinality_ofInference {one two : Table} {requested : Option Cardinality}
    {inference : PairInference} {cardinality : Cardinality}
    (h : inference.cardinality = some cardinality) :
    (ofInference one two requested inference).cardinality = cardinality := by
  unfold ofInference
  rw [h]
  rfl

end SemanticLayer
