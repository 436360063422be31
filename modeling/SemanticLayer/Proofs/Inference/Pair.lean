import Mathlib.Tactic.SplitIfs
import SemanticLayer.Inference.Pair

/-!
What an inference that is not rejected weighs. Its confidence is the score of what names say and, if
there is one, of a profile, which decides the cardinality unless the names are strong.
-/

namespace SemanticLayer

/-! ### Scores -/

section

variable (reasons : List Reason) (cardinality : Option Cardinality) (agrees : Option Bool)
  (coverage : Option Float) (shared : Bool)

theorem confidence_nonneg :
    0 ≤ confidence true reasons cardinality agrees coverage shared :=
  Int.le_max_left _ _

theorem confidence_le_fullScore :
    confidence true reasons cardinality agrees coverage shared ≤ fullScore :=
  Int.max_le.2 ⟨by decide, Int.min_le_right _ _⟩

variable {reasons cardinality agrees coverage shared}

/-- The scale does not lift a score over a positive bound. -/
theorem confidence_lt {bound : Int} (hbound : 0 < bound)
    (hscore : rawScore reasons cardinality agrees coverage shared < bound) :
    confidence true reasons cardinality agrees coverage shared < bound :=
  Int.max_lt.2 ⟨hbound, Int.lt_of_le_of_lt (Int.min_le_left _ _) hscore⟩

end

theorem coveragePoints_le (coverage : Float) : coveragePoints coverage ≤ 15 := by
  unfold coveragePoints
  dsimp only
  split_ifs <;> omega

theorem coveragePoints_getD_le (coverage : Option Float) :
    (coverage.map coveragePoints).getD 0 ≤ 15 := by
  cases coverage with
  | none => decide
  | some coverage => exact coveragePoints_le coverage

theorem profilePoints_le (agrees : Option Bool) : profilePoints agrees ≤ 10 := by
  rcases agrees with _ | _ | _ <;> decide

theorem cardinalityPoints_le (cardinality : Option Cardinality) :
    cardinalityPoints cardinality ≤ 10 := by
  unfold cardinalityPoints
  split <;> decide

/-! ### What is weighed -/

/-- What decides the cardinality of an inference: strong names, or names alone where there is no
profile, or else a profile, which then agrees unless it shows many-to-many. -/
inductive PairInference.Decides (naming : NamingEvidence) :
    Option Cardinality → Option Bool → Option Float → Prop
  | names : Decides naming naming.cardinality none none
  | strongNames (agrees : Bool) (coverage : Float) (strong : naming.strength = .strong) :
      Decides naming naming.cardinality (some agrees) (some coverage)
  | profile (one two : Bool) (coverage : Float) (weak : naming.strength ≠ .strong) :
      Decides naming (some (.ofUnique one two)) (some (Cardinality.ofUnique one two != .manyToMany))
        (some coverage)

/-- The inference has the strength of the names, and its confidence is their score with a profile
that decides the cardinality or leaves it to them. -/
structure PairInference.Weighs (inference : PairInference) (naming : NamingEvidence)
    (shared : Bool) : Prop where
  strength : inference.strength = naming.strength
  scored : ∃ agrees coverage,
    PairInference.Decides naming inference.cardinality agrees coverage ∧
    inference.confidence =
      SemanticLayer.confidence true naming.reasons inference.cardinality agrees coverage shared

namespace PairInference

theorem weighs_ofNaming (naming : NamingEvidence) (shared : Bool) :
    (ofNaming naming shared).Weighs naming shared :=
  ⟨rfl, none, none, .names, rfl⟩

theorem weighs_ofProfile {naming : NamingEvidence} {shared : Bool} {profile : PairProfile}
    (h : (ofProfile naming shared profile).rejection = none) :
    (ofProfile naming shared profile).Weighs naming shared := by
  unfold ofProfile at h ⊢
  split at h
  · cases h
  · rename_i hshared
    rw [if_neg hshared]
    refine ⟨rfl, _, _, ?_, rfl⟩
    dsimp only
    by_cases hstrong : (naming.strength == .strong) = true
    · rw [if_pos hstrong, if_pos hstrong]
      exact .strongNames _ _ (beq_iff_eq.1 hstrong)
    · rw [if_neg hstrong, if_neg hstrong]
      exact .profile _ _ _ fun h => hstrong (beq_iff_eq.2 h)

variable {inference : PairInference} {naming : NamingEvidence} {shared : Bool}

theorem Weighs.confidence_mem (h : inference.Weighs naming shared) :
    0 ≤ inference.confidence ∧ inference.confidence ≤ fullScore := by
  obtain ⟨agrees, coverage, -, hconfidence⟩ := h.scored
  rw [hconfidence]
  exact ⟨confidence_nonneg .., confidence_le_fullScore ..⟩

end PairInference

/-- Whether it is weighed that one of two columns is an identifier that many tables share. -/
def NamingEvidence.weighsShared (naming : NamingEvidence) (first second : Column) : Bool :=
  naming.strength != .strong && (isSharedKey first.name || isSharedKey second.name)

/-- What is inferred from what names say, from whether the types of the columns differ, from whether
one is an identifier that many tables share, and from the profiles if they were had. -/
def PairInference.conclude (naming : NamingEvidence) (differ shared : Bool)
    (profile : Option PairProfile) : PairInference :=
  if differ then
    { cardinality := naming.cardinality, strength := naming.strength, confidence := 0,
      reasons := naming.reasons, rejection := some .typeMismatch, overlap := none }
  else
    match profile with
    | none => .ofNaming naming shared
    | some profile => .ofProfile naming shared profile

theorem PairInference.weighs_conclude {naming : NamingEvidence} {differ shared : Bool}
    {profile : Option PairProfile}
    (h : (conclude naming differ shared profile).rejection = none) :
    (conclude naming differ shared profile).Weighs naming shared := by
  cases differ with
  | true => cases h
  | false =>
    cases profile with
    | none => exact weighs_ofNaming naming shared
    | some profile => exact weighs_ofProfile h

section

variable (profiler : Option Profiler) (one : Table) (oneColumn : Column) (two : Table)
  (twoColumn : Column) (namingRequired : Bool) (cache : ProfileCache)

/-- What the names of two columns say, with no evidence where they say nothing. -/
def namingOf : NamingEvidence :=
  (NamingEvidence.ofNames ⟨one.name, oneColumn.name⟩ ⟨two.name, twoColumn.name⟩).getD .nothing

/-- What is inferred on two columns with the profiles that were had. -/
def inferWith (profile : Option PairProfile) : Option PairInference :=
  if namingRequired &&
      (NamingEvidence.ofNames ⟨one.name, oneColumn.name⟩ ⟨two.name, twoColumn.name⟩).isNone then
    none
  else
    let naming := namingOf one oneColumn two twoColumn
    some (.conclude naming (DataKind.ofType oneColumn.type != DataKind.ofType twoColumn.type)
      (naming.weighsShared oneColumn twoColumn) profile)

variable {one oneColumn two twoColumn namingRequired} in
theorem eq_conclude_of_inferWith {profile : Option PairProfile} {inference : PairInference}
    (h : inferWith one oneColumn two twoColumn namingRequired profile = some inference) :
    inference = .conclude (namingOf one oneColumn two twoColumn)
      (DataKind.ofType oneColumn.type != DataKind.ofType twoColumn.type)
      ((namingOf one oneColumn two twoColumn).weighsShared oneColumn twoColumn) profile := by
  unfold inferWith at h
  split at h
  · cases h
  · exact (Option.some.inj h).symm

/-- An inference depends on the profiles that are remembered only through those that are had. -/
theorem inferPair_run :
    ((inferPair profiler one oneColumn two twoColumn namingRequired).run cache).1 =
      inferWith one oneColumn two twoColumn namingRequired
        ((PairProfile.ask? profiler one oneColumn two twoColumn).run cache).1 := by
  unfold inferPair inferWith namingOf PairInference.conclude
  generalize NamingEvidence.ofNames ⟨one.name, oneColumn.name⟩ ⟨two.name, twoColumn.name⟩ = found
  generalize (DataKind.ofType oneColumn.type != DataKind.ofType twoColumn.type) = differ
  have hasked (naming : NamingEvidence) (shared : Bool) :
      ((do
          match ← PairProfile.ask? profiler one oneColumn two twoColumn with
          | none => return some (PairInference.ofNaming naming shared)
          | some profile => return some (PairInference.ofProfile naming shared profile) :
            StateM ProfileCache (Option PairInference)).run cache).1 =
        some (match ((PairProfile.ask? profiler one oneColumn two twoColumn).run cache).1 with
          | none => PairInference.ofNaming naming shared
          | some profile => PairInference.ofProfile naming shared profile) := by
    rw [StateT.run_bind]
    generalize (PairProfile.ask? profiler one oneColumn two twoColumn).run cache = asked
    obtain ⟨_ | profile, later⟩ := asked <;> rfl
  rcases found with _ | naming <;> cases namingRequired <;> cases differ <;>
    first | rfl | exact hasked _ _

end

/-- What is inferred where names are required weighs what the names say. -/
theorem inferPair_accepted {profiler : Option Profiler} {one two : Table} {first second : Column}
    {cache : ProfileCache} {inference : PairInference}
    (h : ((inferPair profiler one first two second true).run cache).1 = some inference)
    (haccepted : inference.rejection = none) :
    ∃ naming, NamingEvidence.ofNames ⟨one.name, first.name⟩ ⟨two.name, second.name⟩ = some naming ∧
      inference.Weighs naming (naming.weighsShared first second) := by
  rw [inferPair_run, inferWith, namingOf] at h
  cases hnames : NamingEvidence.ofNames ⟨one.name, first.name⟩ ⟨two.name, second.name⟩ with
  | none =>
    rw [hnames] at h
    exact absurd h.symm (Option.some_ne_none _)
  | some naming =>
    rw [hnames] at h
    obtain rfl := Option.some.inj h
    exact ⟨naming, rfl, PairInference.weighs_conclude haccepted⟩

end SemanticLayer
