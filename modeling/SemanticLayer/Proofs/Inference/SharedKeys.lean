import SemanticLayer.Proofs.Inference.Detection
import SemanticLayer.Proofs.Inference.Naming

/-!
What is never suggested. However the profiles come out, the points never suffice for a relationship
without a direction, for one between two bare identifiers, or for one on an identifier that many
tables share, unless one of its columns refers to the other table.
-/

namespace SemanticLayer

/-! ### Scores and what they have to reach -/

/-- The most that names can get with a profile. -/
theorem rawScore_le (reasons : List Reason) (cardinality : Option Cardinality)
    (agrees : Option Bool) (coverage : Option Float) (shared : Bool) :
    rawScore reasons cardinality agrees coverage shared ≤
      55 + reasonPoints reasons + (if shared then -20 else 0) := by
  have hprofile := profilePoints_le agrees
  have hcoverage := coveragePoints_getD_le coverage
  have hcardinality := cardinalityPoints_le cardinality
  unfold rawScore
  omega

theorem requiredConfidence_pos (cardinality : Option Cardinality) (strength : Strength) :
    0 < requiredConfidence cardinality strength := by
  unfold requiredConfidence
  split <;> decide

theorem le_requiredConfidence_of_not_strong {strength : Strength} (h : strength ≠ .strong)
    (cardinality : Option Cardinality) : 72 ≤ requiredConfidence cardinality strength := by
  unfold requiredConfidence
  split
  · decide
  · decide
  · exact absurd rfl h
  · decide

theorem requiredConfidence_of_undirected {cardinality : Option Cardinality} (strength : Strength)
    (h : cardinality = some .manyToMany ∨ cardinality = none) :
    requiredConfidence cardinality strength = 86 := by
  rcases h with rfl | rfl <;> rfl

namespace PairInference

variable {inference : PairInference} {naming : NamingEvidence} {shared : Bool}
  {one two : NamedColumn} {name : String}

/-- Whether the confidence of an inference suffices for a suggestion. -/
def Suffices (inference : PairInference) : Prop :=
  requiredConfidence inference.cardinality inference.strength ≤ inference.confidence

/-- If the confidence suffices, so does the score. -/
theorem Weighs.score_of_suffices (h : inference.Weighs naming shared)
    (hsuffices : inference.Suffices) :
    ∃ agrees coverage, Decides naming inference.cardinality agrees coverage ∧
      requiredConfidence inference.cardinality naming.strength ≤
        rawScore naming.reasons inference.cardinality agrees coverage shared := by
  obtain ⟨agrees, coverage, hdecides, hconfidence⟩ := h.scored
  refine ⟨agrees, coverage, hdecides, ?_⟩
  by_contra hscore
  rw [Suffices, h.strength, hconfidence] at hsuffices
  exact absurd hsuffices
    (Int.not_le.2 (confidence_lt (requiredConfidence_pos _ _) (Int.not_le.1 hscore)))

/-- Only relationships with at most one row on one side get enough points. -/
theorem Weighs.cardinality_of_suffices (h : inference.Weighs naming shared)
    (hnames : NamingEvidence.ofNames one two = some naming) (hsuffices : inference.Suffices) :
    inference.cardinality = some .manyToOne ∨ inference.cardinality = some .oneToMany ∨
      inference.cardinality = some .oneToOne := by
  obtain ⟨agrees, coverage, hdecides, hscore⟩ := h.score_of_suffices hsuffices
  generalize inference.cardinality = cardinality at *
  cases hdecides with
  | strongNames agrees coverage strong =>
    exact NamingEvidence.cardinality_of_strong hnames strong
  | names =>
    by_cases hstrong : naming.strength = .strong
    · exact NamingEvidence.cardinality_of_strong hnames hstrong
    · rcases NamingEvidence.points_of_not_strong hnames hstrong with ⟨-, hdirected⟩ | ⟨hpoints, hopen⟩
      · exact hdirected
      · -- Without a profile, the names of many-to-many get at most fifty-five points.
        rw [requiredConfidence_of_undirected _ hopen] at hscore
        rcases hopen with hopen | hopen <;> rw [hopen] at hscore <;>
          simp only [rawScore, profilePoints, cardinalityPoints, Option.map_none,
            Option.getD_none] at hscore <;> split_ifs at hscore <;> omega
  | profile one two coverage weak =>
    have hpoints : reasonPoints naming.reasons ≤ 60 := by
      rcases NamingEvidence.points_of_not_strong hnames weak with ⟨hpoints, -⟩ | ⟨hpoints, -⟩ <;>
        omega
    have hcoverage := coveragePoints_le coverage
    cases one <;> cases two
    · -- A profile that shows many-to-many takes points away.
      rw [show Cardinality.ofUnique false false = .manyToMany from rfl,
        requiredConfidence_of_undirected _ (.inl rfl)] at hscore
      simp only [rawScore, cardinalityPoints, bne_self_eq_false, profilePoints,
        Option.map_some, Option.getD_some] at hscore
      split_ifs at hscore <;> omega
    · exact .inl rfl
    · exact .inr (.inl rfl)
    · exact .inr (.inr rfl)

/-- Two bare identifiers never get enough points. -/
theorem Weighs.not_suffices_of_surrogates (h : inference.Weighs naming shared)
    (hnames : NamingEvidence.ofNames one two = some naming) (hname : name ∈ surrogateNames)
    (hone : normalizeName one.column = name) (htwo : normalizeName two.column = name) :
    ¬ inference.Suffices := by
  intro hsuffices
  obtain ⟨agrees, coverage, -, hscore⟩ := h.score_of_suffices hsuffices
  rw [NamingEvidence.ofNames_surrogates hname hone htwo] at hnames
  cases hnames
  have hrequired : 72 ≤ requiredConfidence inference.cardinality .weak :=
    le_requiredConfidence_of_not_strong (by decide) _
  have hmost := rawScore_le [.primaryKey] inference.cardinality agrees coverage shared
  simp only [reasonPoints, Reason.points, List.foldr] at hmost
  dsimp only at hscore
  split_ifs at hmost <;> omega

/-- Two identifiers that many tables share never get enough points without strong names. -/
theorem Weighs.not_suffices_of_sharedKeys (h : inference.Weighs naming true)
    (hnames : NamingEvidence.ofNames one two = some naming) (hname : name ∈ sharedKeyNames)
    (hone : normalizeName one.column = name) (htwo : normalizeName two.column = name)
    (hweak : naming.strength ≠ .strong) : ¬ inference.Suffices := by
  intro hsuffices
  obtain ⟨agrees, coverage, -, hscore⟩ := h.score_of_suffices hsuffices
  obtain ⟨hpoints, -⟩ := NamingEvidence.points_of_sharedKeys hnames hname hone htwo hweak
  have hrequired := le_requiredConfidence_of_not_strong hweak inference.cardinality
  have hmost := rawScore_le naming.reasons inference.cardinality agrees coverage true
  rw [if_pos rfl] at hmost
  omega

end PairInference

/-! ### Suggestions -/

namespace Suggestion

def source (suggestion : Suggestion) : NamedColumn :=
  ⟨suggestion.fromTable, suggestion.fromColumn⟩

def target (suggestion : Suggestion) : NamedColumn :=
  ⟨suggestion.toTable, suggestion.toColumn⟩

variable (modelId : String) (one : Table) (oneColumn : Column) (two : Table) (twoColumn : Column)
  (inference : PairInference)

theorem ofInference_cardinality :
    (ofInference modelId one oneColumn two twoColumn inference).cardinality =
      manyFirst inference.cardinality :=
  rfl

/-- A suggestion joins the columns that were inferred on, in one order or the other. -/
theorem ofInference_ends :
    let suggestion := ofInference modelId one oneColumn two twoColumn inference
    (suggestion.source = ⟨one.name, oneColumn.name⟩ ∧
        suggestion.target = ⟨two.name, twoColumn.name⟩) ∨
      (suggestion.source = ⟨two.name, twoColumn.name⟩ ∧
        suggestion.target = ⟨one.name, oneColumn.name⟩) := by
  unfold ofInference source target
  dsimp only
  split
  · exact .inr ⟨rfl, rfl⟩
  · exact .inl ⟨rfl, rfl⟩

variable {modelId one oneColumn two twoColumn inference} {name : String}

theorem columns_of_ofInference
    (hsource : normalizeName
      (ofInference modelId one oneColumn two twoColumn inference).fromColumn = name)
    (htarget : normalizeName
      (ofInference modelId one oneColumn two twoColumn inference).toColumn = name) :
    normalizeName oneColumn.name = name ∧ normalizeName twoColumn.name = name := by
  unfold ofInference at hsource htarget
  dsimp only at hsource htarget
  by_cases hflipped : (inference.cardinality == some .oneToMany) = true
  · rw [if_pos hflipped] at hsource htarget
    exact ⟨htarget, hsource⟩
  · rw [if_neg hflipped] at hsource htarget
    exact ⟨hsource, htarget⟩

end Suggestion

/-- The strength of names is the same in either order. -/
theorem NamingEvidence.strong_comm {one two : NamedColumn} :
    (∃ naming, ofNames one two = some naming ∧ naming.strength = .strong) ↔
      ∃ naming, ofNames two one = some naming ∧ naming.strength = .strong := by
  have hstrength : (ofNames two one).map (·.strength) = (ofNames one two).map (·.strength) := by
    have hcomm := congrArg (Option.map (·.strength)) (ofNames_comm one two)
    rwa [Option.map_map, Option.map_map] at hcomm
  rw [← Option.map_eq_some_iff, ← Option.map_eq_some_iff, hstrength]

/-- Whatever profiles show or fail to show, no relationship without a direction is suggested but
one to one; none between two bare identifiers; and none between two identifiers of one name that
many tables share, unless the names are strong. -/
theorem suggestRelationships_noTraps {profiler : Option Profiler} {catalog : Catalog}
    {ids : List String} {suggestion : Suggestion}
    (h : suggestion ∈ suggestRelationships profiler catalog ids) :
    (suggestion.cardinality = some .manyToOne ∨ suggestion.cardinality = some .oneToOne) ∧
    (∀ name ∈ surrogateNames, ¬ (normalizeName suggestion.fromColumn = name ∧
      normalizeName suggestion.toColumn = name)) ∧
    ∀ name ∈ sharedKeyNames, normalizeName suggestion.fromColumn = name →
      normalizeName suggestion.toColumn = name →
      suggestion.strength = .strong ∧
      ∃ naming, NamingEvidence.ofNames suggestion.source suggestion.target = some naming ∧
        naming.strength = .strong := by
  obtain ⟨examination, hexamined, pair, hpair, inference, heligible, rfl⟩ :=
    Detection.exists_suggests_of_mem h
  obtain ⟨cache, hinferred⟩ := examined_inference hexamined hpair
  rw [heligible.inferred] at hinferred
  obtain ⟨naming, hnames, hweighs⟩ := inferPair_accepted hinferred.symm heligible.accepted
  have hsuffices : inference.Suffices := heligible.confident
  refine ⟨?_, fun name hname hcolumns => ?_, fun name hname hsource htarget => ?_⟩
  · rw [Suggestion.ofInference_cardinality]
    rcases hweighs.cardinality_of_suffices hnames hsuffices with hmany | hmany | hone
    · exact .inl (by rw [hmany]; rfl)
    · exact .inl (by rw [hmany]; rfl)
    · exact .inr (by rw [hone]; rfl)
  · obtain ⟨hone, htwo⟩ := Suggestion.columns_of_ofInference hcolumns.1 hcolumns.2
    exact hweighs.not_suffices_of_surrogates hnames hname hone htwo hsuffices
  · obtain ⟨hone, htwo⟩ := Suggestion.columns_of_ofInference hsource htarget
    have hstrong : naming.strength = .strong := by
      by_contra hweak
      have hshared : naming.weighsShared pair.oneColumn pair.twoColumn = true := by
        simp [NamingEvidence.weighsShared, hweak, isSharedKey, hone, hname]
      rw [hshared] at hweighs
      exact hweighs.not_suffices_of_sharedKeys hnames hname hone htwo hweak hsuffices
    refine ⟨hweighs.strength.trans hstrong, ?_⟩
    rcases Suggestion.ofInference_ends catalog.model.id examination.one pair.oneColumn
      examination.two pair.twoColumn inference with ⟨hfrom, hto⟩ | ⟨hfrom, hto⟩ <;> rw [hfrom, hto]
    · exact ⟨naming, hnames, hstrong⟩
    · exact NamingEvidence.strong_comm.1 ⟨naming, hnames, hstrong⟩

theorem suggestRelationships_noTraps_shop :
    ∃ suggestion ∈ suggestRelationships none shopCatalog [],
      (suggestion.cardinality = some .manyToOne ∨ suggestion.cardinality = some .oneToOne) ∧
      (∀ name ∈ surrogateNames, ¬ (normalizeName suggestion.fromColumn = name ∧
        normalizeName suggestion.toColumn = name)) ∧
      ∀ name ∈ sharedKeyNames, normalizeName suggestion.fromColumn = name →
        normalizeName suggestion.toColumn = name →
        suggestion.strength = .strong ∧
        ∃ naming, NamingEvidence.ofNames suggestion.source suggestion.target = some naming ∧
          naming.strength = .strong := by
  have hfound : (suggestRelationships none shopCatalog []).map (·.id) =
      ["orders:user_id|users:id"] := by
    decide +kernel
  obtain ⟨suggestion, hsuggestion, -⟩ := List.exists_of_mem_map
    (hfound ▸ List.mem_singleton_self _ :
      "orders:user_id|users:id" ∈ (suggestRelationships none shopCatalog []).map (·.id))
  exact ⟨suggestion, hsuggestion, suggestRelationships_noTraps hsuggestion⟩

end SemanticLayer
