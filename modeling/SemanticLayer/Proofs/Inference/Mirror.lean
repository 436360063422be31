import SemanticLayer.Proofs.Inference.Afresh
import SemanticLayer.Proofs.Inference.Naming
import SemanticLayer.Proofs.Inference.Profiling

/-!
Inference on two columns in both orders. One order shows the mirror image of the other, unless each
column is named after the identifier of the other table and the two are alike as keys of their own
tables: then names see the reference of the first column in either order, and only profiles that
replace the names bring the two orders together.
-/

namespace SemanticLayer

/-! ### Names in the other order -/

/-- What names say, seen from the other column. -/
def NamingEvidence.mirror (naming : NamingEvidence) : NamingEvidence :=
  { naming with cardinality := naming.cardinality.map Cardinality.reverse }

/-- Each column is named after the identifier of the other table, and either both or neither are
named like identifiers of their own tables. -/
def NamedColumn.Tied (one two : NamedColumn) : Prop :=
  one.refersTo two = true ∧ two.refersTo one = true ∧ one.isPrimaryKey = two.isPrimaryKey

instance (one two : NamedColumn) : Decidable (one.Tied two) :=
  inferInstanceAs (Decidable (_ ∧ _ ∧ _))

/-- A column that refers to a table is named like an identifier. -/
theorem NamedColumn.isId_of_refersTo {one two : NamedColumn} (h : one.refersTo two = true) :
    one.isId = true := by
  rw [isId, isIdShaped, Bool.or_eq_true, Bool.or_eq_true, Text.endsWith_iff, Text.endsWith_iff]
  exact (suffix_of_refersTo h).imp_left .inr

namespace NamingEvidence

variable {one two : NamedColumn}

theorem ofNames_mirror (h : ¬ one.Tied two) : ofNames two one = (ofNames one two).map mirror := by
  have hstrong : ¬ ((one.refersTo two && two.isPrimaryKey) = true ∧
      (two.refersTo one && one.isPrimaryKey) = true) := by
    rintro ⟨hone, htwo⟩
    obtain ⟨hone, hkey⟩ := Bool.and_eq_true_iff.1 hone
    obtain ⟨htwo, hkey'⟩ := Bool.and_eq_true_iff.1 htwo
    exact h ⟨hone, htwo, hkey'.trans hkey.symm⟩
  have hweak : ¬ ((one.refersTo two && two.isPrimaryKey) = true) →
      ¬ ((two.refersTo one && one.isPrimaryKey) = true) →
      ¬ ((one.refersTo two && two.isId) = true ∧ (two.refersTo one && one.isId) = true) := by
    rintro hone htwo ⟨hfirst, hsecond⟩
    obtain ⟨hfirst, -⟩ := Bool.and_eq_true_iff.1 hfirst
    obtain ⟨hsecond, -⟩ := Bool.and_eq_true_iff.1 hsecond
    rw [hfirst, Bool.true_and, Bool.not_eq_true] at hone
    rw [hsecond, Bool.true_and, Bool.not_eq_true] at htwo
    exact h ⟨hfirst, hsecond, htwo.trans hone.symm⟩
  unfold ofNames
  dsimp only
  rw [Bool.and_comm two.isPrimaryKey, Bool.and_comm two.isForeignKey]
  -- What is left of the names: no two questions that are asked one after the other and exchanged
  -- in the other order have the answer yes.
  generalize (one.refersTo two && two.isPrimaryKey) = first at hstrong hweak ⊢
  generalize (two.refersTo one && one.isPrimaryKey) = second at hstrong hweak ⊢
  generalize (one.refersTo two && two.isId) = third at hweak ⊢
  generalize (two.refersTo one && one.isId) = fourth at hweak ⊢
  generalize (one.isPrimaryKey && two.isPrimaryKey) = keys
  generalize (one.isForeignKey && two.isForeignKey) = foreign
  by_cases hsame : normalizeName one.column = normalizeName two.column
  · rw [hsame]
    generalize surrogateNames.contains (normalizeName two.column) = surrogate
    cases first <;> cases second <;> cases keys <;> cases third <;> cases fourth <;>
      cases surrogate <;> cases foreign <;> simp_all [mirror, Cardinality.reverse]
  · rw [beq_false_of_ne hsame, beq_false_of_ne (Ne.symm hsame)]
    cases first <;> cases second <;> cases keys <;> cases third <;> cases fourth <;>
      simp_all [mirror, Cardinality.reverse]

/-- In either order names see the reference of the first column. -/
theorem ofNames_of_tied (h : one.Tied two) :
    ∃ naming, ofNames one two = some naming ∧ ofNames two one = some naming ∧
      naming.cardinality = some .manyToOne ∧
      (naming.strength = .strong ↔ one.isPrimaryKey = true) := by
  obtain ⟨hone, htwo, hkeys⟩ := h
  have hbase : (normalizeName two.column == normalizeName one.column) =
      (normalizeName one.column == normalizeName two.column) := Bool.beq_comm ..
  unfold ofNames
  rw [hone, htwo, hkeys, NamedColumn.isId_of_refersTo hone, NamedColumn.isId_of_refersTo htwo, hbase]
  cases two.isPrimaryKey with
  | true => exact ⟨_, rfl, rfl, rfl, by simp⟩
  | false => exact ⟨_, rfl, rfl, rfl, by simp⟩

end NamingEvidence

/-! ### Profiles in the other order -/

/-- The same profiles, seen from the other column. -/
def PairProfile.mirror (profile : PairProfile) : PairProfile :=
  ⟨profile.two, profile.one, profile.overlap.reverse⟩

theorem Cardinality.ofUnique_comm (one two : Bool) :
    ofUnique two one = (ofUnique one two).reverse := by
  cases one <;> cases two <;> rfl

theorem PairProfile.cardinality_mirror (profile : PairProfile) :
    profile.mirror.cardinality = profile.cardinality.reverse :=
  Cardinality.ofUnique_comm _ _

theorem float_eq_of_toBits {x y : Float} (h : x.toBits = y.toBits) : x = y := by
  obtain ⟨⟨bits, valid⟩⟩ := x
  obtain ⟨⟨others, valid'⟩⟩ := y
  obtain rfl : bits = others := h
  rfl

theorem Decimal.orderKey_eq_zero {x : Float} :
    orderKey x = 0 ↔ x.toBits = 0 ∨ x.toBits = 0x8000000000000000 := by
  have hbound : x.toBits.toNat < 18446744073709551616 := x.toBits.toNat_lt
  have hpower : twoTo 63 = 9223372036854775808 := rfl
  rw [← UInt64.toNat_inj, ← UInt64.toNat_inj, orderKey, signed, isNegative, hpower]
  change _ ↔ _ = 0 ∨ _ = 9223372036854775808
  simp only [decide_eq_true_eq]
  split <;> omega

/-- Numbers of one key are the same, unless they are zeros. -/
theorem Decimal.toBits_of_orderKey {x y : Float} (h : orderKey x = orderKey y)
    (hzero : orderKey x ≠ 0) : x.toBits = y.toBits := by
  have hbound : x.toBits.toNat < 18446744073709551616 := x.toBits.toNat_lt
  have hbound' : y.toBits.toNat < 18446744073709551616 := y.toBits.toNat_lt
  have hpower : twoTo 63 = 9223372036854775808 := rfl
  rw [← UInt64.toNat_inj]
  simp only [orderKey, signed, isNegative, hpower, decide_eq_true_eq] at h hzero
  split at h <;> split at h <;> omega

theorem coveragePoints_of_orderKey_eq_zero {x : Float} (h : Decimal.orderKey x = 0) :
    coveragePoints x = -15 := by
  rcases Decimal.orderKey_eq_zero.1 h with hbits | hbits
  · obtain rfl : x = Float.ofBits 0 := float_eq_of_toBits hbits
    decide +kernel
  · obtain rfl : x = Float.ofBits 0x8000000000000000 := float_eq_of_toBits hbits
    decide +kernel

theorem coveragePoints_of_orderKey {x y : Float} (h : Decimal.orderKey x = Decimal.orderKey y) :
    coveragePoints x = coveragePoints y := by
  by_cases hzero : Decimal.orderKey x = 0
  · rw [coveragePoints_of_orderKey_eq_zero hzero,
      coveragePoints_of_orderKey_eq_zero (h.symm.trans hzero)]
  · rw [float_eq_of_toBits (Decimal.toBits_of_orderKey h hzero)]

/-- The coverage that counts is worth the same from either column. Of two equal coverages the one of
the first column is taken, which may be another zero. -/
theorem coveragePoints_reverse (overlap : OverlapProfile) (cardinality : Option Cardinality) :
    coveragePoints (overlap.reverse.coverage (cardinality.map Cardinality.reverse)) =
      coveragePoints (overlap.coverage cardinality) := by
  have hleft : overlap.reverse.leftCoverage = overlap.rightCoverage := rfl
  have hright : overlap.reverse.rightCoverage = overlap.leftCoverage := rfl
  have hsame (h : Decimal.orderKey overlap.leftCoverage = Decimal.orderKey overlap.rightCoverage) :
      coveragePoints overlap.leftCoverage = coveragePoints overlap.rightCoverage :=
    coveragePoints_of_orderKey h
  rcases cardinality with _ | _ | _ | _ | _ | _ <;>
    simp only [OverlapProfile.coverage, Option.map_none, Option.map_some, Cardinality.reverse, hleft,
      hright] <;>
    split <;> split <;> first | rfl | (apply hsame; omega) | exact (hsame (by omega)).symm

/-! ### Inferences in the other order -/

/-- Two inferences go by names of one strength and by the same overlap, and are rejected for the
same reason. -/
structure PairInference.Matches (there back : PairInference) : Prop where
  strength : back.strength = there.strength
  rejection : back.rejection = there.rejection
  overlap : back.overlap = there.overlap.map OverlapProfile.reverse

/-- Two inferences show the same from two sides. -/
structure PairInference.Mirrors (there back : PairInference) : Prop extends there.Matches back where
  cardinality : back.cardinality = there.cardinality.map Cardinality.reverse
  confidence : back.confidence = there.confidence

theorem cardinalityPoints_reverse (cardinality : Option Cardinality) :
    cardinalityPoints (cardinality.map Cardinality.reverse) = cardinalityPoints cardinality := by
  rcases cardinality with _ | _ | _ | _ | _ | _ <;> rfl

theorem confidence_reverse (reasons : List Reason) (cardinality : Option Cardinality)
    (agrees : Option Bool) (overlap : OverlapProfile) (shared : Bool) :
    confidence true reasons (cardinality.map Cardinality.reverse) agrees
        (some (overlap.reverse.coverage (cardinality.map Cardinality.reverse))) shared =
      confidence true reasons cardinality agrees (some (overlap.coverage cardinality)) shared := by
  unfold confidence rawScore
  rw [cardinalityPoints_reverse, Option.map_some, coveragePoints_reverse, Option.map_some]

theorem Cardinality.reverse_beq (one two : Cardinality) :
    (one.reverse == two.reverse) = (one == two) := by
  have hinjective : one.reverse = two.reverse ↔ one = two := by
    constructor
    · intro h
      rw [← reverse_reverse one, h, reverse_reverse]
    · exact congrArg reverse
  rw [Bool.eq_iff_iff, beq_iff_eq, beq_iff_eq, hinjective]

namespace PairInference

variable (naming : NamingEvidence) (differ shared : Bool)

/-- Names of one strength and profiles from two sides, whatever cardinality the names show. -/
theorem matches_ofProfile (other : NamingEvidence) (h : other.strength = naming.strength)
    (profile : PairProfile) :
    (ofProfile naming shared profile).Matches (ofProfile other shared profile.mirror) where
  strength := by rw [strength_ofProfile, strength_ofProfile, h]
  rejection := by
    rw [rejection_ofProfile, rejection_ofProfile]
    rfl
  overlap := by
    rw [overlap_ofProfile, overlap_ofProfile]
    rfl

theorem matches_conclude (other : NamingEvidence) (h : other.strength = naming.strength)
    (profile : Option PairProfile) :
    (conclude naming differ shared profile).Matches
      (conclude other differ shared (profile.map PairProfile.mirror)) := by
  cases differ with
  | true => exact ⟨h, rfl, rfl⟩
  | false =>
    cases profile with
    | none => exact ⟨h, rfl, rfl⟩
    | some profile => exact matches_ofProfile naming shared other h profile

theorem mirrors_ofNaming : (ofNaming naming shared).Mirrors (ofNaming naming.mirror shared) where
  toMatches := ⟨rfl, rfl, rfl⟩
  cardinality := rfl
  confidence := by
    unfold ofNaming NamingEvidence.mirror SemanticLayer.confidence rawScore
    rw [cardinalityPoints_reverse]

/-- What the profiles of a pair with a common value leave of the cardinality that names say. -/
theorem cardinality_mirror (profile : PairProfile) :
    (if naming.strength == .strong then naming.mirror.cardinality
      else some profile.mirror.cardinality) =
      (if naming.strength == .strong then naming.cardinality
        else some profile.cardinality).map Cardinality.reverse := by
  rw [PairProfile.cardinality_mirror]
  split <;> rfl

theorem agrees_mirror (profile : PairProfile) :
    (if naming.strength == .strong then
        some profile.mirror.cardinality == naming.mirror.cardinality ||
          profile.mirror.cardinality == .oneToOne
      else profile.mirror.cardinality != .manyToMany) =
      if naming.strength == .strong then
        some profile.cardinality == naming.cardinality || profile.cardinality == .oneToOne
      else profile.cardinality != .manyToMany := by
  have hone : (profile.cardinality.reverse == .oneToOne) = (profile.cardinality == .oneToOne) :=
    Cardinality.reverse_beq profile.cardinality .oneToOne
  have hmany : (profile.cardinality.reverse == .manyToMany) = (profile.cardinality == .manyToMany) :=
    Cardinality.reverse_beq profile.cardinality .manyToMany
  have hnames : (some profile.cardinality.reverse == naming.mirror.cardinality) =
      (some profile.cardinality == naming.cardinality) := by
    unfold NamingEvidence.mirror
    cases naming.cardinality with
    | none => rfl
    | some cardinality => exact Cardinality.reverse_beq _ _
  rw [PairProfile.cardinality_mirror, hnames, hone, bne, hmany, bne]

theorem mirrors_ofProfile (profile : PairProfile) :
    (ofProfile naming shared profile).Mirrors
      (ofProfile naming.mirror shared profile.mirror) := by
  have hmatches : (ofProfile naming shared profile).Matches
      (ofProfile naming.mirror shared profile.mirror) :=
    matches_ofProfile naming shared naming.mirror rfl profile
  by_cases hdisjoint : profile.overlap.shared = 0
  · have hdisjoint' : profile.mirror.overlap.shared = 0 := hdisjoint
    rw [ofProfile_of_disjoint naming shared hdisjoint,
      ofProfile_of_disjoint naming.mirror shared hdisjoint'] at hmatches ⊢
    exact ⟨hmatches, rfl, rfl⟩
  · have hshared : ¬ profile.mirror.overlap.shared = 0 := hdisjoint
    refine ⟨hmatches, ?_, ?_⟩
    · unfold ofProfile
      rw [if_neg hdisjoint, if_neg hshared]
      exact cardinality_mirror naming profile
    · unfold ofProfile
      rw [if_neg hdisjoint, if_neg hshared]
      refine Eq.trans ?_ (confidence_reverse naming.reasons _ _ profile.overlap shared)
      rw [← cardinality_mirror naming profile, ← agrees_mirror naming profile]
      rfl

theorem mirrors_conclude (profile : Option PairProfile) :
    (conclude naming differ shared profile).Mirrors
      (conclude naming.mirror differ shared (profile.map PairProfile.mirror)) := by
  cases differ with
  | true => exact ⟨⟨rfl, rfl, rfl⟩, rfl, rfl⟩
  | false =>
    cases profile with
    | none => exact mirrors_ofNaming naming shared
    | some profile => exact mirrors_ofProfile naming shared profile

variable {naming differ shared}

/-- Weak names leave no trace of their cardinality where there are profiles. -/
theorem ofProfile_mirror_of_weak {profile : PairProfile} (hweak : naming.strength ≠ .strong)
    (hshared : profile.overlap.shared ≠ 0) :
    ofProfile naming.mirror shared profile = ofProfile naming shared profile := by
  have hstrength : (naming.strength == .strong) = false := beq_false_of_ne hweak
  unfold ofProfile NamingEvidence.mirror
  rw [if_neg hshared, if_neg hshared]
  dsimp only
  simp only [hstrength, Bool.false_eq_true, if_false]

theorem not_mirrors_of_manyToOne {there back : PairInference}
    (hthere : there.cardinality = some .manyToOne) (hback : back.cardinality = some .manyToOne) :
    ¬ there.Mirrors back := by
  intro h
  have hcardinality := h.cardinality
  rw [hthere, hback] at hcardinality
  cases hcardinality

/-- Names that say the same in either order are mirrored just where profiles replace them. -/
theorem mirrors_iff_of_manyToOne (hcardinality : naming.cardinality = some .manyToOne)
    (profile : Option PairProfile) :
    (conclude naming differ shared profile).Mirrors
        (conclude naming differ shared (profile.map PairProfile.mirror)) ↔
      naming.strength ≠ .strong ∧ (conclude naming differ shared profile).rejection = none ∧
        (conclude naming differ shared profile).overlap.isSome = true := by
  cases differ with
  | true =>
    refine iff_of_false (not_mirrors_of_manyToOne hcardinality hcardinality) ?_
    rintro ⟨-, haccepted, -⟩
    cases haccepted
  | false =>
    cases profile with
    | none =>
      refine iff_of_false (not_mirrors_of_manyToOne hcardinality hcardinality) ?_
      rintro ⟨-, -, hoverlap⟩
      cases hoverlap
    | some profile =>
      rw [Option.map_some, conclude_some, conclude_some]
      by_cases hdisjoint : profile.overlap.shared = 0
      · have hdisjoint' : profile.mirror.overlap.shared = 0 := hdisjoint
        rw [ofProfile_of_disjoint naming shared hdisjoint,
          ofProfile_of_disjoint naming shared hdisjoint']
        refine iff_of_false (not_mirrors_of_manyToOne hcardinality hcardinality) ?_
        rintro ⟨-, haccepted, -⟩
        cases haccepted
      -- Strong names keep their cardinality against any profile; weak ones give way to it.
      · by_cases hstrong : naming.strength = .strong
        · refine iff_of_false (not_mirrors_of_manyToOne ?_ ?_) fun h => h.1 hstrong
          · rw [cardinality_ofProfile hstrong, hcardinality]
          · rw [cardinality_ofProfile hstrong, hcardinality]
        · have hshared : profile.mirror.overlap.shared ≠ 0 := hdisjoint
          have hmirror := mirrors_ofProfile naming shared profile
          rw [ofProfile_mirror_of_weak hstrong hshared] at hmirror
          refine iff_of_true hmirror ⟨hstrong, ?_, by rw [overlap_ofProfile, Option.isSome_some]⟩
          rw [rejection_ofProfile, if_neg hdisjoint]

end PairInference

/-! ### What is remembered of two columns -/

theorem canProfile_comm (one two : Table) : canProfile two one = canProfile one two := by
  unfold canProfile
  simp only [Bool.and_assoc, Bool.and_comm, Bool.and_left_comm]

/-- The source gives the overlap of two columns reversed in the other order, and it does not tell
columns apart that are remembered under one key. -/
structure Profiler.TwoSided (source : Profiler) (one : Table) (oneName : String) (two : Table)
    (twoName : String) : Prop where
  overlap : source.overlap two twoName one oneName =
    (source.overlap one oneName two twoName).map OverlapProfile.reverse
  column : ColumnKey.make one.id oneName = .make two.id twoName →
    source.column one oneName = source.column two twoName

theorem Profiler.TwoSided.symm {source : Profiler} {one two : Table} {oneName twoName : String}
    (h : source.TwoSided one oneName two twoName) : source.TwoSided two twoName one oneName where
  overlap := by
    rw [h.overlap]
    cases source.overlap one oneName two twoName with
    | error fault => rfl
    | ok overlap => exact congrArg Except.ok overlap.reverse_reverse.symm
  column hsame := (h.column hsame.symm).symm

/-- What is remembered of two columns is what the source gives for them. -/
structure ProfileCache.Serves (source : Profiler) (one : Table) (oneName : String) (two : Table)
    (twoName : String) (cache : ProfileCache) : Prop where
  first : ∀ profile, (ColumnKey.make one.id oneName, profile) ∈ cache.columns →
    source.column one oneName = .ok profile
  second : ∀ profile, (ColumnKey.make two.id twoName, profile) ∈ cache.columns →
    source.column two twoName = .ok profile
  overlap : ∀ profile, ((ColumnKey.make one.id oneName, ColumnKey.make two.id twoName), profile) ∈
    cache.overlaps → source.overlap one oneName two twoName = .ok profile
  reversed : ColumnKey.make one.id oneName ≠ ColumnKey.make two.id twoName → ∀ profile,
    ((ColumnKey.make two.id twoName, ColumnKey.make one.id oneName), profile) ∈ cache.overlaps →
      source.overlap two twoName one oneName = .ok profile

namespace ProfileCache

variable {source : Profiler} {one two : Table} {oneName twoName : String} {cache : ProfileCache}

theorem serves_empty : Serves source one oneName two twoName empty where
  first := by rintro _ ⟨⟩
  second := by rintro _ ⟨⟩
  overlap := by rintro _ ⟨⟩
  reversed := by rintro _ _ ⟨⟩

theorem Serves.counted {α : Type} (h : cache.Serves source one oneName two twoName)
    (found : Option α) : (cache.counted found).Serves source one oneName two twoName := by
  unfold ProfileCache.counted
  split
  · exact ⟨h.first, h.second, h.overlap, h.reversed⟩
  · exact h

/-- A profile may be remembered under a key if the source gives it for each of the two columns that
is looked up under it. -/
theorem Serves.putColumn (h : cache.Serves source one oneName two twoName) {key : ColumnKey}
    {profile : ColumnProfile}
    (hone : key = .make one.id oneName → source.column one oneName = .ok profile)
    (htwo : key = .make two.id twoName → source.column two twoName = .ok profile) :
    (cache.putColumn key profile).Serves source one oneName two twoName where
  first value hmem := by
    rcases mem_of_mem_setEntry hmem with heq | hmem
    · obtain ⟨hkey, rfl⟩ := Prod.mk.inj heq
      exact hone hkey.symm
    · exact h.first value hmem
  second value hmem := by
    rcases mem_of_mem_setEntry hmem with heq | hmem
    · obtain ⟨hkey, rfl⟩ := Prod.mk.inj heq
      exact htwo hkey.symm
    · exact h.second value hmem
  overlap := h.overlap
  reversed := h.reversed

theorem Serves.putOverlap (h : cache.Serves source one oneName two twoName)
    {profile : OverlapProfile} (hprofile : source.overlap one oneName two twoName = .ok profile) :
    (cache.putOverlap (.make one.id oneName) (.make two.id twoName) profile).Serves source one
      oneName two twoName where
  first := h.first
  second := h.second
  overlap value hmem := by
    rcases mem_of_mem_setEntry hmem with heq | hmem
    · obtain ⟨-, rfl⟩ := Prod.mk.inj heq
      exact hprofile
    · exact h.overlap value hmem
  reversed hdiffer value hmem := by
    rcases mem_of_mem_setEntry hmem with heq | hmem
    · exact absurd (Prod.mk.inj (Prod.mk.inj heq).1).2 hdiffer
    · exact h.reversed hdiffer value hmem

end ProfileCache

section

variable {source : Profiler} {one two : Table} {oneColumn twoColumn : Column}
  (h : source.TwoSided one oneColumn.name two twoColumn.name)

include h

/-- An overlap that is remembered for either order is the one that the source gives. -/
theorem ProfileCache.Serves.overlap?_eq {cache : ProfileCache}
    (hcache : cache.Serves source one oneColumn.name two twoColumn.name) {profile : OverlapProfile}
    (hfound : cache.overlap? (.make one.id oneColumn.name) (.make two.id twoColumn.name) =
      some profile) :
    source.overlap one oneColumn.name two twoColumn.name = .ok profile := by
  rcases Option.or_eq_some_iff.1 hfound with hdirect | ⟨hnone, hreversed⟩
  · exact hcache.overlap profile (mem_of_valueOf? hdirect)
  · obtain ⟨stored, hstored, rfl⟩ := Option.map_eq_some_iff.1 hreversed
    have hdiffer : ColumnKey.make one.id oneColumn.name ≠ .make two.id twoColumn.name := by
      intro hsame
      rw [hsame] at hnone hstored
      rw [hnone] at hstored
      cases hstored
    have hgiven := hcache.reversed hdiffer stored (mem_of_valueOf? hstored)
    rw [h.overlap] at hgiven
    cases hoverlap : source.overlap one oneColumn.name two twoColumn.name with
    | error fault =>
      rw [hoverlap] at hgiven
      cases hgiven
    | ok overlap =>
      rw [hoverlap] at hgiven
      rw [← Except.ok.inj hgiven, OverlapProfile.reverse_reverse]

theorem Profiler.columnCached_serves_first :
    Returns (ProfileCache.Serves source one oneColumn.name two twoColumn.name)
      (source.columnCached one oneColumn.name).run (source.column one oneColumn.name) := by
  rw [columnCached_eq]
  apply Profiling.remember_returns
  · intro cache profile hcache hfound
    exact hcache.first profile (mem_of_valueOf? hfound)
  · intro cache found hcache
    exact hcache.counted found
  · intro cache profile hcache hprofile
    exact hcache.putColumn (fun _ => hprofile) fun hsame => (h.column hsame).symm.trans hprofile

theorem Profiler.columnCached_serves_second :
    Returns (ProfileCache.Serves source one oneColumn.name two twoColumn.name)
      (source.columnCached two twoColumn.name).run (source.column two twoColumn.name) := by
  rw [columnCached_eq]
  apply Profiling.remember_returns
  · intro cache profile hcache hfound
    exact hcache.second profile (mem_of_valueOf? hfound)
  · intro cache found hcache
    exact hcache.counted found
  · intro cache profile hcache hprofile
    exact hcache.putColumn (fun hsame => (h.column hsame.symm).trans hprofile) fun _ => hprofile

theorem Profiler.overlapCached_serves :
    Returns (ProfileCache.Serves source one oneColumn.name two twoColumn.name)
      (source.overlapCached one oneColumn.name two twoColumn.name).run
      (source.overlap one oneColumn.name two twoColumn.name) := by
  rw [overlapCached_eq]
  apply Profiling.remember_returns
  · intro cache profile hcache
    exact hcache.overlap?_eq h
  · intro cache found hcache
    exact hcache.counted found
  · intro cache profile hcache
    exact hcache.putOverlap

theorem PairProfile.ask?_serves :
    Returns (ProfileCache.Serves source one oneColumn.name two twoColumn.name)
      (ask? (some source) one oneColumn two twoColumn)
      (afresh? (some source) one oneColumn two twoColumn) :=
  ask?_returns_of_cached (Profiler.columnCached_serves_first h)
    (Profiler.columnCached_serves_second h) (Profiler.overlapCached_serves h)

/-- Asked in the other order, a source gives the same profiles from the other side, or none. -/
theorem PairProfile.afresh?_comm :
    afresh? (some source) two twoColumn one oneColumn =
      (afresh? (some source) one oneColumn two twoColumn).map mirror := by
  have hafresh : (afresh source two twoColumn one oneColumn).toOption =
      (afresh source one oneColumn two twoColumn).toOption.map mirror := by
    unfold afresh
    rw [h.overlap]
    cases source.column one oneColumn.name <;> cases source.column two twoColumn.name <;>
      cases source.overlap one oneColumn.name two twoColumn.name <;> rfl
  unfold afresh?
  rw [canProfile_comm]
  cases canProfile one two with
  | true => exact hafresh
  | false => rfl

end

/-! ### Both orders -/

section

variable {profiler : Option Profiler} {one two : Table} {oneColumn twoColumn : Column}
  (namingRequired : Bool)

theorem namingOf_mirror
    (h : ¬ NamedColumn.Tied ⟨one.name, oneColumn.name⟩ ⟨two.name, twoColumn.name⟩) :
    namingOf two twoColumn one oneColumn = (namingOf one oneColumn two twoColumn).mirror := by
  unfold namingOf
  rw [NamingEvidence.ofNames_mirror h]
  cases NamingEvidence.ofNames ⟨one.name, oneColumn.name⟩ ⟨two.name, twoColumn.name⟩ <;> rfl

theorem weighsShared_comm (naming : NamingEvidence) (oneColumn twoColumn : Column) :
    naming.weighsShared twoColumn oneColumn = naming.weighsShared oneColumn twoColumn := by
  rw [NamingEvidence.weighsShared, NamingEvidence.weighsShared, Bool.or_comm]

/-- Names that do not say the same in either order lead to mirror images. -/
theorem inferWith_mirrors (profile : Option PairProfile)
    (h : ¬ NamedColumn.Tied ⟨one.name, oneColumn.name⟩ ⟨two.name, twoColumn.name⟩) :
    Option.Rel PairInference.Mirrors (inferWith one oneColumn two twoColumn namingRequired profile)
      (inferWith two twoColumn one oneColumn namingRequired (profile.map PairProfile.mirror)) := by
  have hdiffer : (DataKind.ofType twoColumn.type != DataKind.ofType oneColumn.type) =
      (DataKind.ofType oneColumn.type != DataKind.ofType twoColumn.type) := bne_comm
  unfold inferWith
  rw [namingOf_mirror h, NamingEvidence.ofNames_mirror h, Option.isNone_map, hdiffer]
  dsimp only
  rw [weighsShared_comm _ oneColumn twoColumn]
  generalize (DataKind.ofType oneColumn.type != DataKind.ofType twoColumn.type) = differ
  generalize namingOf one oneColumn two twoColumn = naming
  have hshared : naming.mirror.weighsShared oneColumn twoColumn =
      naming.weighsShared oneColumn twoColumn := rfl
  rw [hshared]
  split
  · exact .none
  · exact .some (PairInference.mirrors_conclude naming _ _ profile)

/-- Names that say the same in either order lead to inferences that match, and are mirror images just
where profiles replace the names. -/
theorem inferWith_of_tied (profile : Option PairProfile)
    (h : NamedColumn.Tied ⟨one.name, oneColumn.name⟩ ⟨two.name, twoColumn.name⟩) :
    ∃ there back, inferWith one oneColumn two twoColumn namingRequired profile = some there ∧
      inferWith two twoColumn one oneColumn namingRequired (profile.map PairProfile.mirror) =
        some back ∧
      there.Matches back ∧
      (there.Mirrors back ↔ NamedColumn.isPrimaryKey ⟨one.name, oneColumn.name⟩ = false ∧
        there.rejection = none ∧ there.overlap.isSome = true) := by
  obtain ⟨naming, hnames, hnames', hcardinality, hstrong⟩ := NamingEvidence.ofNames_of_tied h
  have hdiffer : (DataKind.ofType twoColumn.type != DataKind.ofType oneColumn.type) =
      (DataKind.ofType oneColumn.type != DataKind.ofType twoColumn.type) := bne_comm
  unfold inferWith namingOf
  rw [hnames, hnames', Option.isNone_some, Bool.and_false, if_neg Bool.false_ne_true,
    if_neg Bool.false_ne_true, Option.getD_some, hdiffer]
  dsimp only
  rw [weighsShared_comm _ oneColumn twoColumn]
  refine ⟨_, _, rfl, rfl, PairInference.matches_conclude naming _ _ naming rfl profile, ?_⟩
  rw [PairInference.mirrors_iff_of_manyToOne hcardinality, ne_eq, hstrong, Bool.not_eq_true]

/-- In the other order the same profiles are had, from the other side. -/
theorem PairProfile.ask?_mirror {forward backward : ProfileCache}
    (h : ∀ source ∈ profiler, source.TwoSided one oneColumn.name two twoColumn.name)
    (hforward : ∀ source ∈ profiler,
      forward.Serves source one oneColumn.name two twoColumn.name)
    (hbackward : ∀ source ∈ profiler,
      backward.Serves source two twoColumn.name one oneColumn.name) :
    ((ask? profiler two twoColumn one oneColumn).run backward).1 =
      ((ask? profiler one oneColumn two twoColumn).run forward).1.map mirror := by
  cases profiler with
  | none => rfl
  | some source =>
    have hsource := h source rfl
    rw [(ask?_serves hsource forward (hforward source rfl)).1,
      (ask?_serves hsource.symm backward (hbackward source rfl)).1, afresh?_comm hsource]

/-- Called from the other side, an inference on two columns has the same strength and the same
reason to be rejected, and it is the mirror image unless each column is named after the identifier
of the other table and the two are alike as keys of their own tables. Then it is the mirror image
just where a profile with a common value replaces weak names. -/
theorem inferPair_mirrors_iff (profiler : Option Profiler) (one : Table) (oneColumn : Column)
    (two : Table) (twoColumn : Column) (namingRequired : Bool) (forward backward : ProfileCache)
    (h : ∀ source ∈ profiler, source.TwoSided one oneColumn.name two twoColumn.name)
    (hforward : ∀ source ∈ profiler, forward.Serves source one oneColumn.name two twoColumn.name)
    (hbackward : ∀ source ∈ profiler,
      backward.Serves source two twoColumn.name one oneColumn.name) :
    let there := ((inferPair profiler one oneColumn two twoColumn namingRequired).run forward).1
    let back := ((inferPair profiler two twoColumn one oneColumn namingRequired).run backward).1
    Option.Rel PairInference.Matches there back ∧
      (Option.Rel PairInference.Mirrors there back ↔
        (NamedColumn.Tied ⟨one.name, oneColumn.name⟩ ⟨two.name, twoColumn.name⟩ →
          NamedColumn.isPrimaryKey ⟨one.name, oneColumn.name⟩ = false ∧
            ∃ inference ∈ there, inference.rejection = none ∧
              inference.overlap.isSome = true)) := by
  intro there back
  have hthere : there = inferWith one oneColumn two twoColumn namingRequired
      ((PairProfile.ask? profiler one oneColumn two twoColumn).run forward).1 := inferPair_run ..
  have hback : back = inferWith two twoColumn one oneColumn namingRequired
      (((PairProfile.ask? profiler one oneColumn two twoColumn).run forward).1.map
        PairProfile.mirror) := by
    rw [← PairProfile.ask?_mirror h hforward hbackward]
    exact inferPair_run ..
  -- Both orders infer from one profile: what was remembered plays no part any more.
  generalize ((PairProfile.ask? profiler one oneColumn two twoColumn).run forward).1 = profile
    at hthere hback
  by_cases htied : NamedColumn.Tied ⟨one.name, oneColumn.name⟩ ⟨two.name, twoColumn.name⟩
  · obtain ⟨_, _, hfirst, hsecond, hmatches, hmirrors⟩ :=
      inferWith_of_tied namingRequired profile htied
    rw [hthere, hback, hfirst, hsecond]
    refine ⟨.some hmatches, ?_⟩
    constructor
    · rintro (hmirror | _) -
      obtain ⟨hkey, hshown⟩ := hmirrors.1 hmirror
      exact ⟨hkey, _, rfl, hshown⟩
    · intro hshown
      obtain ⟨hkey, inference, hinference, hshown⟩ := hshown htied
      obtain rfl := Option.some.inj hinference
      exact .some (hmirrors.2 ⟨hkey, hshown⟩)
  · have hmirror := inferWith_mirrors namingRequired profile htied
    rw [← hthere, ← hback] at hmirror
    refine ⟨?_, iff_of_true hmirror fun htied' => absurd htied' htied⟩
    clear_value there back
    cases hmirror with
    | none => exact .none
    | some hmirror => exact .some hmirror.toMatches

end

/-- Users that keep the order they came with. -/
def referredUsersTable : Table :=
  { usersTable with columns := [⟨"id", "int"⟩, ⟨"order_id", "int"⟩] }

/-- A source that shows three identifiers in a column of that name and two values in any other. -/
def keyProfiler : Profiler where
  column _ name := .ok ⟨3, 3, if name == "id" then 3 else 2⟩
  overlap _ one _ two := .ok ⟨if one == "id" then 3 else 2, if two == "id" then 3 else 2, 2⟩

theorem inferPair_mirrors_iff_shop :
    let inferred := fun profiler one oneColumn two twoColumn =>
      ((inferPair (some profiler) one oneColumn two twoColumn true).run .empty).1
    Option.Rel PairInference.Mirrors
        (inferred keyProfiler ordersTable ⟨"user_id", "int"⟩ usersTable ⟨"id", "int"⟩)
        (inferred keyProfiler usersTable ⟨"id", "int"⟩ ordersTable ⟨"user_id", "int"⟩) ∧
      Option.Rel PairInference.Mirrors
        (inferred keyProfiler referredUsersTable ⟨"order_id", "int"⟩ ordersTable ⟨"user_id", "int"⟩)
        (inferred keyProfiler ordersTable ⟨"user_id", "int"⟩ referredUsersTable
          ⟨"order_id", "int"⟩) := by
  intro inferred
  have hsource {one two : Table} {oneName twoName : String}
      (hdiffer : ColumnKey.make one.id oneName ≠ .make two.id twoName) :
      ∀ source ∈ some keyProfiler, source.TwoSided one oneName two twoName := by
    rintro _ ⟨⟩
    exact ⟨rfl, fun hsame => absurd hsame hdiffer⟩
  have hempty {one two : Table} {oneName twoName : String} :
      ∀ source ∈ some keyProfiler, ProfileCache.empty.Serves source one oneName two twoName :=
    fun _ _ => ProfileCache.serves_empty
  constructor
  · refine (inferPair_mirrors_iff (some keyProfiler) ordersTable ⟨"user_id", "int"⟩ usersTable
      ⟨"id", "int"⟩ true .empty .empty (hsource (by decide +kernel)) hempty hempty).2.2 ?_
    intro htied
    exact absurd htied (by decide +kernel)
  · refine (inferPair_mirrors_iff (some keyProfiler) referredUsersTable ⟨"order_id", "int"⟩
      ordersTable ⟨"user_id", "int"⟩ true .empty .empty (hsource (by decide +kernel)) hempty
      hempty).2.2 ?_
    intro _
    have hinferred : (inferred keyProfiler referredUsersTable ⟨"order_id", "int"⟩ ordersTable
        ⟨"user_id", "int"⟩).any
        (fun inference => inference.rejection.isNone && inference.overlap.isSome) = true := by
      decide +kernel
    obtain ⟨inference, hfound, hshown⟩ := (Option.any_eq_true _ _).1 hinferred
    rw [Bool.and_eq_true, Option.isNone_iff_eq_none] at hshown
    exact ⟨by decide +kernel, inference, hfound, hshown⟩

/-- Two tables that refer to each other are not seen as mirror images. -/
theorem inferPair_not_mirrored :
    ¬ ∀ (source : Profiler) (one : Table) (oneColumn : Column) (two : Table) (twoColumn : Column),
      source.TwoSided one oneColumn.name two twoColumn.name →
      Option.Rel
        (fun there back => back.cardinality = there.cardinality.map Cardinality.reverse)
        ((inferPair (some source) one oneColumn two twoColumn true).run .empty).1
        ((inferPair (some source) two twoColumn one oneColumn true).run .empty).1 := by
  intro h
  have hrel := h partialProfiler referredUsersTable ⟨"order_id", "int"⟩ ordersTable
    ⟨"user_id", "int"⟩ ⟨rfl, fun _ => rfl⟩
  have hthere : ((inferPair (some partialProfiler) referredUsersTable ⟨"order_id", "int"⟩
      ordersTable ⟨"user_id", "int"⟩ true).run .empty).1.map (·.cardinality) =
        some (some .manyToOne) := by
    decide +kernel
  have hback : ((inferPair (some partialProfiler) ordersTable ⟨"user_id", "int"⟩
      referredUsersTable ⟨"order_id", "int"⟩ true).run .empty).1.map (·.cardinality) =
        some (some .manyToOne) := by
    decide +kernel
  generalize ((inferPair (some partialProfiler) referredUsersTable ⟨"order_id", "int"⟩
      ordersTable ⟨"user_id", "int"⟩ true).run .empty).1 = there at hrel hthere
  generalize ((inferPair (some partialProfiler) ordersTable ⟨"user_id", "int"⟩
      referredUsersTable ⟨"order_id", "int"⟩ true).run .empty).1 = back at hrel hback
  cases hrel with
  | none => cases hthere
  | some hcardinality =>
    rw [Option.map_some, Option.some.injEq] at hthere hback
    rw [hthere, hback] at hcardinality
    cases hcardinality

end SemanticLayer
