import SemanticLayer.Proofs.Inference.Detection
import SemanticLayer.Proofs.Inference.Evaluation
import SemanticLayer.Proofs.Inference.Naming

/-!
What profiles change about an inference. They are asked for in turn, and if one of them cannot be had
everything stays as the names have it. Otherwise columns without a common value are rejected, and
weak names give way to what the profiles show, while strong names stay.
-/

namespace SemanticLayer

/-! ### What is asked for -/

/-- What a source says when it is asked for the profiles of two columns and for their overlap. -/
structure ProfileAnswers where
  one : Except ProfileFault ColumnProfile
  two : Except ProfileFault ColumnProfile
  overlap : Except ProfileFault OverlapProfile

namespace ProfileAnswers

/-- The three answers, each given from the profiles that are remembered after the ones before. -/
def ofRequests (source : Profiler) (one : Table) (oneColumn : Column) (two : Table)
    (twoColumn : Column) (cache : ProfileCache) : ProfileAnswers :=
  let first := (source.columnCached one oneColumn.name).run.run cache
  let second := (source.columnCached two twoColumn.name).run.run first.2
  let third := (source.overlapCached one oneColumn.name two twoColumn.name).run.run second.2
  ⟨first.1, second.1, third.1⟩

/-- The profiles, if none of the answers is a fault. -/
def profile? (answers : ProfileAnswers) : Option PairProfile :=
  match answers with
  | ⟨.ok one, .ok two, .ok overlap⟩ => some ⟨one, two, overlap⟩
  | _ => none

/-- One of the answers is a fault. -/
def Fails (answers : ProfileAnswers) : Prop :=
  ∃ fault, answers.one = .error fault ∨ answers.two = .error fault ∨ answers.overlap = .error fault

theorem Fails.profile? {answers : ProfileAnswers} (h : answers.Fails) :
    answers.profile? = none := by
  obtain ⟨one, two, overlap⟩ := answers
  obtain ⟨fault, rfl | rfl | rfl⟩ := h
  · rfl
  · cases one <;> rfl
  · cases one <;> cases two <;> rfl

end ProfileAnswers

namespace Profiling

variable {α β : Type} {x : Profiling α} {f : α → Profiling β} {cache after : ProfileCache}

theorem run_bind_of_ok {a : α} (h : x.run.run cache = (.ok a, after)) :
    (x >>= f).run.run cache = (f a).run.run after := by
  rw [ExceptT.run_bind, StateT.run_bind, h]
  rfl

theorem run_bind_of_error {fault : ProfileFault} (h : x.run.run cache = (.error fault, after)) :
    (x >>= f).run.run cache = (.error fault, after) := by
  rw [ExceptT.run_bind, StateT.run_bind, h]
  rfl

end Profiling

section

variable (source : Profiler) (one : Table) (oneColumn : Column) (two : Table)
  (twoColumn : Column) (cache : ProfileCache)

theorem PairProfile.ask_run :
    ((ask source one oneColumn two twoColumn).run.run cache).1.toOption =
      (ProfileAnswers.ofRequests source one oneColumn two twoColumn cache).profile? := by
  unfold ask ProfileAnswers.ofRequests
  dsimp only
  rcases hfirst : (source.columnCached one oneColumn.name).run.run cache with ⟨_ | first, after⟩
  · rw [Profiling.run_bind_of_error hfirst]
    rfl
  · rw [Profiling.run_bind_of_ok hfirst]
    rcases hsecond : (source.columnCached two twoColumn.name).run.run after with
      ⟨_ | second, later⟩
    · rw [Profiling.run_bind_of_error hsecond]
      rfl
    · rw [Profiling.run_bind_of_ok hsecond]
      rcases hthird : (source.overlapCached one oneColumn.name two twoColumn.name).run.run later
        with ⟨_ | overlap, last⟩
      · rw [Profiling.run_bind_of_error hthird]
        rfl
      · rw [Profiling.run_bind_of_ok hthird]
        rfl

/-- The profiles are had if the tables can be looked at and all three answers are given. -/
theorem PairProfile.ask?_run :
    ((ask? (some source) one oneColumn two twoColumn).run cache).1 =
      if canProfile one two then
        (ProfileAnswers.ofRequests source one oneColumn two twoColumn cache).profile?
      else none := by
  unfold ask?
  rw [← ask_run]
  dsimp only
  split <;> rfl

variable {source one oneColumn two twoColumn cache}

theorem PairProfile.ask?_run_of_profile {profile : PairProfile} (hopen : canProfile one two = true)
    (h : (ProfileAnswers.ofRequests source one oneColumn two twoColumn cache).profile? =
      some profile) :
    ((ask? (some source) one oneColumn two twoColumn).run cache).1 = some profile := by
  rw [ask?_run, hopen, if_pos rfl, h]

end

/-! ### What profiles make of names -/

theorem reasons_namingOf_subset (one : Table) (oneColumn : Column) (two : Table)
    (twoColumn : Column) :
    (namingOf one oneColumn two twoColumn).reasons ⊆ NamingEvidence.nameReasons := by
  unfold namingOf
  cases hnames : NamingEvidence.ofNames ⟨one.name, oneColumn.name⟩ ⟨two.name, twoColumn.name⟩ with
  | none => exact List.nil_subset _
  | some naming => exact NamingEvidence.reasons_subset hnames

theorem PairInference.conclude_some (naming : NamingEvidence) (shared : Bool)
    (profile : PairProfile) :
    conclude naming false shared (some profile) = ofProfile naming shared profile :=
  rfl

theorem PairInference.ofProfile_of_disjoint (naming : NamingEvidence) (shared : Bool)
    {profile : PairProfile} (h : profile.overlap.shared = 0) :
    ofProfile naming shared profile =
      { cardinality := naming.cardinality, strength := naming.strength, confidence := 0,
        reasons := naming.reasons ++ [.sameType], rejection := some .noOverlap,
        overlap := some profile.overlap } :=
  if_pos h

theorem PairInference.overlap_ofProfile (naming : NamingEvidence) (shared : Bool)
    (profile : PairProfile) :
    (ofProfile naming shared profile).overlap = some profile.overlap := by
  unfold ofProfile
  split <;> rfl

/-- An inference has the overlap and the strength of the names. Without a common value it is
rejected; otherwise the names decide the cardinality if they are strong, and the profiles do if they
are not. Profiles conflict with strong names if they show something else that is not one to one. -/
structure PairInference.Refines (inference : PairInference) (naming : NamingEvidence)
    (profile : PairProfile) : Prop where
  overlap : inference.overlap = some profile.overlap
  strength : inference.strength = naming.strength
  rejected : profile.overlap.shared = 0 →
    inference.rejection = some .noOverlap ∧ inference.confidence = 0
  accepted : profile.overlap.shared ≠ 0 → inference.rejection = none
  cardinality : profile.overlap.shared ≠ 0 → inference.cardinality =
    if naming.strength = .strong then naming.cardinality else some profile.cardinality
  conflict : profile.overlap.shared ≠ 0 →
    (Reason.profileConflict ∈ inference.reasons ↔ naming.strength = .strong ∧
      naming.cardinality ≠ some profile.cardinality ∧ profile.cardinality ≠ .oneToOne)

theorem PairInference.refines_ofProfile {naming : NamingEvidence} (shared : Bool)
    (profile : PairProfile) (hreasons : Reason.profileConflict ∉ naming.reasons) :
    (ofProfile naming shared profile).Refines naming profile := by
  by_cases hoverlap : profile.overlap.shared = 0
  · rw [ofProfile_of_disjoint _ _ hoverlap]
    exact ⟨rfl, rfl, fun _ => ⟨rfl, rfl⟩, absurd hoverlap, absurd hoverlap, absurd hoverlap⟩
  · unfold ofProfile
    rw [if_neg hoverlap]
    refine ⟨rfl, rfl, fun h => absurd h hoverlap, fun _ => rfl, fun _ => ?_, fun _ => ?_⟩
    · dsimp only
      simp only [beq_iff_eq]
    · dsimp only
      cases shared <;> by_cases hstrong : naming.strength = .strong <;>
        simp [hstrong, hreasons, eq_comm (a := some profile.cardinality)]

theorem PairInference.strength_ofProfile (naming : NamingEvidence) (shared : Bool)
    (profile : PairProfile) : (ofProfile naming shared profile).strength = naming.strength := by
  unfold ofProfile
  split <;> rfl

theorem PairInference.rejection_ofProfile (naming : NamingEvidence) (shared : Bool)
    (profile : PairProfile) :
    (ofProfile naming shared profile).rejection =
      if profile.overlap.shared = 0 then some .noOverlap else none := by
  unfold ofProfile
  split <;> rfl

/-- Columns of one type are not rejected unless values were looked at and none is common. -/
theorem PairInference.rejection_conclude_eq_none_iff {naming : NamingEvidence}
    {differ shared : Bool} {profile : Option PairProfile} :
    (conclude naming differ shared profile).rejection = none ↔
      differ = false ∧ ∀ found ∈ profile, found.overlap.shared ≠ 0 := by
  cases differ with
  | true => simp [conclude]
  | false =>
    cases profile with
    | none => simp [conclude, ofNaming]
    | some found => simp [conclude_some, rejection_ofProfile]

theorem PairInference.rejected_of_disjoint {naming : NamingEvidence} {differ shared : Bool}
    {profile : PairProfile} (h : profile.overlap.shared = 0) :
    (conclude naming differ shared (some profile)).rejection ≠ none := by
  rw [ne_eq, rejection_conclude_eq_none_iff]
  exact fun haccepted => haccepted.2 profile rfl h

/-- What is not rejected has a common value, if values were looked at. -/
theorem PairInference.shared_of_accepted {naming : NamingEvidence} {differ shared : Bool}
    {profile : Option PairProfile} (h : (conclude naming differ shared profile).rejection = none) :
    ∀ overlap ∈ (conclude naming differ shared profile).overlap, overlap.shared ≠ 0 := by
  cases differ with
  | true => cases h
  | false =>
    cases profile with
    | none => rintro overlap ⟨⟩
    | some profile =>
      rw [conclude_some, overlap_ofProfile]
      rintro overlap ⟨⟩ hdisjoint
      exact rejected_of_disjoint hdisjoint h

section

variable {profiler : Option Profiler} {source : Profiler} {one two : Table}
  {oneColumn twoColumn : Column} {namingRequired : Bool} {cache : ProfileCache}

theorem inferPair_shared_of_accepted {inference : PairInference}
    (h : ((inferPair profiler one oneColumn two twoColumn namingRequired).run cache).1 =
      some inference) (haccepted : inference.rejection = none) :
    ∀ overlap ∈ inference.overlap, overlap.shared ≠ 0 := by
  rw [inferPair_run] at h
  rw [eq_conclude_of_inferWith h] at haccepted ⊢
  exact PairInference.shared_of_accepted haccepted

/-- Profiles that cannot be had change nothing. -/
theorem inferPair_of_fails
    (h : (ProfileAnswers.ofRequests source one oneColumn two twoColumn cache).Fails ∨
      canProfile one two = false) :
    ((inferPair (some source) one oneColumn two twoColumn namingRequired).run cache).1 =
      ((inferPair none one oneColumn two twoColumn namingRequired).run cache).1 := by
  have hasked : ((PairProfile.ask? (some source) one oneColumn two twoColumn).run cache).1 =
      none := by
    rw [PairProfile.ask?_run]
    rcases h with hfails | hclosed
    · rw [hfails.profile?, ite_self]
    · rw [hclosed]
      rfl
  rw [inferPair_run, inferPair_run, hasked]
  rfl

/-- Profiles that are had refine what the names say, and leave a pair out only if the names do. -/
theorem inferPair_of_profiles {profile : PairProfile}
    (hkinds : DataKind.ofType oneColumn.type = DataKind.ofType twoColumn.type)
    (hopen : canProfile one two = true)
    (h : (ProfileAnswers.ofRequests source one oneColumn two twoColumn cache).profile? =
      some profile) :
    (((inferPair (some source) one oneColumn two twoColumn namingRequired).run cache).1.isSome =
        ((inferPair none one oneColumn two twoColumn namingRequired).run cache).1.isSome) ∧
      ∀ inference ∈
        ((inferPair (some source) one oneColumn two twoColumn namingRequired).run cache).1,
        inference.Refines (namingOf one oneColumn two twoColumn) profile := by
  rw [inferPair_run, inferPair_run, PairProfile.ask?_run_of_profile hopen h]
  constructor
  · unfold inferWith
    split
    · rfl
    · rw [Option.isSome_some, Option.isSome_some]
  · intro inference hinference
    rw [eq_conclude_of_inferWith hinference, hkinds, bne_self_eq_false,
      PairInference.conclude_some]
    exact PairInference.refines_ofProfile _ _ fun hmem =>
      absurd (reasons_namingOf_subset one oneColumn two twoColumn hmem) (by decide)

theorem inferPair_of_disjoint {profile : PairProfile} (hopen : canProfile one two = true)
    (h : (ProfileAnswers.ofRequests source one oneColumn two twoColumn cache).profile? =
      some profile) (hdisjoint : profile.overlap.shared = 0) :
    ∃ inference,
      ((inferPair (some source) one oneColumn two twoColumn false).run cache).1 = some inference ∧
        inference.rejection ≠ none := by
  rw [inferPair_run, PairProfile.ask?_run_of_profile hopen h, inferWith, Bool.false_and]
  exact ⟨_, rfl, PairInference.rejected_of_disjoint hdisjoint⟩

end

/-- What is rejected is not evaluated as valid. -/
theorem Evaluation.invalid_of_rejected {one two : Table} {requested : Option Cardinality}
    {inference : PairInference} (h : inference.rejection ≠ none) :
    (ofInference one two requested inference).status = invalidStatus := by
  obtain ⟨rejection, hrejection⟩ := Option.ne_none_iff_exists'.1 h
  unfold ofInference
  dsimp only
  rw [hrejection, Option.map_some, Option.some_or, Option.some_or, Option.isSome_some, if_pos rfl]

/-- Profiles refine names and never override strong ones. Where one of the three requests fails, or
the tables cannot be looked at, a pair of columns of one type is judged as without a source of
profiles; where all are answered, the answers refine what the names say. So no pair without a common
value is suggested or evaluated as valid. -/
theorem profiles_refine_names (source : Profiler) :
    (∀ one oneColumn two twoColumn namingRequired cache,
      DataKind.ofType oneColumn.type = DataKind.ofType twoColumn.type →
      let inferred := fun profiler =>
        ((inferPair profiler one oneColumn two twoColumn namingRequired).run cache).1
      let answers := ProfileAnswers.ofRequests source one oneColumn two twoColumn cache
      (answers.Fails ∨ canProfile one two = false → inferred (some source) = inferred none) ∧
      (canProfile one two = true → ∀ profile, answers.profile? = some profile →
        (inferred (some source)).isSome = (inferred none).isSome ∧
        ∀ inference ∈ inferred (some source),
          inference.Refines (namingOf one oneColumn two twoColumn) profile)) ∧
    (∀ catalog ids, ∀ suggestion ∈ suggestRelationships (some source) catalog ids,
      ∃ examination ∈ examinations (some source)
          (catalog.tables.filter fun table => table.isAmong ids),
        ∃ pair ∈ examination.pairs, ∃ cache inference, pair.inference = some inference ∧
          ((inferPair (some source) examination.one pair.oneColumn examination.two pair.twoColumn
            true).run cache).1 = some inference ∧
          suggestion = .ofInference catalog.model.id examination.one pair.oneColumn examination.two
            pair.twoColumn inference ∧
          inference.rejection = none ∧ ∀ overlap ∈ inference.overlap, overlap.shared ≠ 0) ∧
    ∀ one oneName two twoName requested evaluation first second,
      one.findColumn? oneName = some first → two.findColumn? twoName = some second →
      evaluateRelationship (some source) one oneName two twoName requested = .ok evaluation →
      canProfile one two = true →
      ∀ profile, (ProfileAnswers.ofRequests source one first two second .empty).profile? =
          some profile →
        profile.overlap.shared = 0 → evaluation.status = invalidStatus := by
  refine ⟨?_, ?_, ?_⟩
  · intro one oneColumn two twoColumn namingRequired cache hkinds
    exact ⟨inferPair_of_fails, fun hopen profile h => inferPair_of_profiles hkinds hopen h⟩
  · intro catalog ids suggestion hsuggestion
    obtain ⟨examination, hexamined, pair, hpair, inference, heligible, rfl⟩ :=
      Detection.exists_suggests_of_mem hsuggestion
    obtain ⟨cache, hinferred⟩ := examined_inference hexamined hpair
    rw [heligible.inferred] at hinferred
    exact ⟨examination, hexamined, pair, hpair, cache, inference, heligible.inferred,
      hinferred.symm, rfl, heligible.accepted,
      inferPair_shared_of_accepted hinferred.symm heligible.accepted⟩
  · intro one oneName two twoName requested evaluation first second hfirst hsecond hevaluation
      hopen profile hprofile hdisjoint
    obtain ⟨column, other, hcolumn, hother, rfl | rfl⟩ := evaluateRelationship_eq_ok hevaluation
    · rfl
    · obtain rfl := Option.some.inj (hfirst.symm.trans hcolumn)
      obtain rfl := Option.some.inj (hsecond.symm.trans hother)
      obtain ⟨inference, hinference, hrejected⟩ := inferPair_of_disjoint hopen hprofile hdisjoint
      rw [hinference, Option.getD_some]
      exact Evaluation.invalid_of_rejected hrejected

/-- A source that has profiles of columns but no overlaps. -/
def partialProfiler : Profiler where
  column _ _ := .ok ⟨3, 3, 3⟩
  overlap _ _ _ _ := .error .absent

/-- A source that shows no value in two columns. -/
def disjointProfiler : Profiler where
  column _ _ := .ok ⟨3, 3, 3⟩
  overlap _ _ _ _ := .ok ⟨3, 3, 0⟩

/-- A source that shows a user twice and an order of each user once. -/
def twinProfiler : Profiler where
  column table _ := .ok ⟨3, 3, if table.id == "users" then 2 else 3⟩
  overlap _ _ _ _ := .ok ⟨3, 2, 2⟩

theorem profiles_refine_names_shop :
    let inferred := fun profiler => ((inferPair profiler ordersTable ⟨"user_id", "int"⟩ usersTable
      ⟨"id", "int"⟩ true).run .empty).1
    inferred (some partialProfiler) = inferred none ∧
      (∃ inference ∈ inferred (some disjointProfiler),
        inference.rejection = some .noOverlap ∧ inference.confidence = 0) ∧
      (∃ inference ∈ inferred (some twinProfiler),
        inference.cardinality = some .manyToOne ∧ Reason.profileConflict ∈ inference.reasons) ∧
      ∃ evaluation, evaluateRelationship (some disjointProfiler) ordersTable "user_id" usersTable
        "id" none = .ok evaluation ∧ evaluation.status = invalidStatus := by
  intro inferred
  have hopen : canProfile ordersTable usersTable = true := by decide
  have hnaming : namingOf ordersTable ⟨"user_id", "int"⟩ usersTable ⟨"id", "int"⟩ =
      ⟨some .manyToOne, .strong, [.foreignKey, .tableReference, .primaryKey]⟩ := by
    decide +kernel
  have hfound : (inferred none).isSome = true := by decide +kernel
  have hpartial := (profiles_refine_names partialProfiler).1 ordersTable ⟨"user_id", "int"⟩
    usersTable ⟨"id", "int"⟩ true .empty rfl
  have hdisjoint := (profiles_refine_names disjointProfiler).1 ordersTable ⟨"user_id", "int"⟩
    usersTable ⟨"id", "int"⟩ true .empty rfl
  have htwin := (profiles_refine_names twinProfiler).1 ordersTable ⟨"user_id", "int"⟩
    usersTable ⟨"id", "int"⟩ true .empty rfl
  obtain ⟨hsome, hrefines⟩ := hdisjoint.2 hopen ⟨⟨3, 3, 3⟩, ⟨3, 3, 3⟩, ⟨3, 3, 0⟩⟩ rfl
  obtain ⟨htwinSome, htwinRefines⟩ := htwin.2 hopen ⟨⟨3, 3, 3⟩, ⟨3, 3, 2⟩, ⟨3, 2, 2⟩⟩
    (by decide +kernel)
  rw [hnaming] at hrefines htwinRefines
  obtain ⟨rejected, hrejected⟩ := Option.isSome_iff_exists.1 (hsome.trans hfound)
  obtain ⟨kept, hkept⟩ := Option.isSome_iff_exists.1 (htwinSome.trans hfound)
  obtain ⟨evaluation, hevaluation⟩ : ∃ evaluation, evaluateRelationship (some disjointProfiler)
      ordersTable "user_id" usersTable "id" none = .ok evaluation := ⟨_, rfl⟩
  have hstatus := (profiles_refine_names disjointProfiler).2.2 ordersTable "user_id" usersTable
    "id" none evaluation ⟨"user_id", "int"⟩ ⟨"id", "int"⟩ (by decide +kernel) (by decide +kernel)
    hevaluation hopen ⟨⟨3, 3, 3⟩, ⟨3, 3, 3⟩, ⟨3, 3, 0⟩⟩ rfl rfl
  refine ⟨hpartial.1 (.inl ⟨.absent, .inr (.inr rfl)⟩), ⟨rejected, hrejected, ?_⟩,
    ⟨kept, hkept, ?_, ?_⟩, evaluation, hevaluation, hstatus⟩
  · exact (hrefines rejected hrejected).rejected rfl
  · exact (htwinRefines kept hkept).cardinality (by decide)
  · exact ((htwinRefines kept hkept).conflict (by decide)).2 ⟨rfl, by decide, by decide⟩

end SemanticLayer
