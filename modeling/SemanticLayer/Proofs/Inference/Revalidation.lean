import SemanticLayer.Inference.Evaluation
import SemanticLayer.Plan.JoinGraph
import SemanticLayer.Proofs.Inference.Naming

/-!
Stored relationships that are read again. Strong names never show many-to-many, so what is shown of a
relationship differs from what is stored in nothing but a cardinality that is not many-to-many, and
which relationships queries may join along stays as it was stored.
-/

namespace SemanticLayer

namespace Relationship

variable {catalog : Catalog} {r : Relationship} {cardinality : Cardinality}

theorem withCardinality_of_ne (r : Relationship) (h : cardinality ≠ .manyToMany) :
    r.withCardinality cardinality = { r with cardinality } :=
  if_neg fun hmany => h (beq_iff_eq.1 hmany)

/-- What strong names show of a relationship, if both of its tables are found. -/
def strongCardinality? (catalog : Catalog) (r : Relationship) : Option Cardinality :=
  match catalog.resolve? r.fromTableId, catalog.resolve? r.toTableId with
  | some source, some target =>
    match NamingEvidence.ofNames ⟨source.name, r.fromColumn⟩ ⟨target.name, r.toColumn⟩ with
    | some ⟨some cardinality, .strong, _⟩ => some cardinality
    | _ => none
  | _, _ => none

theorem names_of_strongCardinality? (h : r.strongCardinality? catalog = some cardinality) :
    ∃ source target reasons, catalog.resolve? r.fromTableId = some source ∧
      catalog.resolve? r.toTableId = some target ∧
      NamingEvidence.ofNames ⟨source.name, r.fromColumn⟩ ⟨target.name, r.toColumn⟩ =
        some ⟨some cardinality, .strong, reasons⟩ := by
  unfold strongCardinality? at h
  split at h
  · rename_i source target hsource htarget
    split at h
    · rename_i shown reasons hnames
      obtain rfl := Option.some.inj h
      exact ⟨source, target, reasons, hsource, htarget, hnames⟩
    · cases h
  · cases h

theorem strongCardinality?_ne (h : r.strongCardinality? catalog = some cardinality) :
    cardinality ≠ .manyToMany := by
  obtain ⟨source, target, reasons, -, -, hnames⟩ := names_of_strongCardinality? h
  rintro rfl
  simpa using NamingEvidence.cardinality_of_strong hnames rfl

theorem revalidate_of_manyToMany (h : r.cardinality = .manyToMany) : r.revalidate catalog = r := by
  unfold revalidate
  rw [h]

theorem revalidate_of_strong (hmany : r.cardinality ≠ .manyToMany)
    (h : r.strongCardinality? catalog = some cardinality) :
    r.revalidate catalog = { r with cardinality } := by
  obtain ⟨source, target, reasons, hsource, htarget, hnames⟩ := names_of_strongCardinality? h
  have hread : r.revalidate catalog = r.withCardinality cardinality := by
    unfold revalidate
    rw [hsource, htarget]
    split
    · contradiction
    · rename_i found other hfound hother _
      obtain rfl := Option.some.inj hfound
      obtain rfl := Option.some.inj hother
      rw [hnames]
    · rename_i hopen
      exact (hopen source target rfl rfl).elim
  rw [hread, r.withCardinality_of_ne (strongCardinality?_ne h)]

theorem revalidate_of_none (h : r.strongCardinality? catalog = none) :
    r.revalidate catalog = r := by
  unfold revalidate
  split
  · rfl
  · rename_i source target hsource htarget _
    split
    · rename_i cardinality reasons hnames
      unfold strongCardinality? at h
      rw [hsource, htarget] at h
      dsimp only at h
      rw [hnames] at h
      cases h
    · rfl
  · rfl

theorem strongCardinality?_with (catalog : Catalog) (r : Relationship) (cardinality : Cardinality) :
    { r with cardinality }.strongCardinality? catalog = r.strongCardinality? catalog := by
  unfold strongCardinality?
  dsimp only

theorem revalidate_cases (catalog : Catalog) (r : Relationship) :
    r.revalidate catalog = r ∨ ∃ cardinality, r.cardinality ≠ .manyToMany ∧
      r.strongCardinality? catalog = some cardinality ∧
      r.revalidate catalog = { r with cardinality } := by
  by_cases hmany : r.cardinality = .manyToMany
  · exact .inl (revalidate_of_manyToMany hmany)
  · cases hstrong : r.strongCardinality? catalog with
    | none => exact .inl (revalidate_of_none hstrong)
    | some cardinality =>
      exact .inr ⟨cardinality, hmany, rfl, revalidate_of_strong hmany hstrong⟩

/-- What is shown of a stored relationship: a second reading shows the same, nothing but the
cardinality is another one, and it may be joined along as before. -/
structure ShownAs (catalog : Catalog) (r shown : Relationship) : Prop where
  again : shown.revalidate catalog = shown
  fields : shown = { r with cardinality := shown.cardinality }
  manyToMany : shown.cardinality = .manyToMany ↔ r.cardinality = .manyToMany
  joinable : shown.isJoinable = r.isJoinable

theorem shownAs_revalidate (catalog : Catalog) (r : Relationship) :
    r.ShownAs catalog (r.revalidate catalog) := by
  rcases revalidate_cases catalog r with hsame | ⟨cardinality, hmany, hstrong, hread⟩
  · rw [hsame]
    exact ⟨hsame, rfl, .rfl, rfl⟩
  · have hne := strongCardinality?_ne hstrong
    rw [hread]
    refine ⟨?_, rfl, iff_of_false hne hmany, ?_⟩
    · exact revalidate_of_strong hne ((strongCardinality?_with ..).trans hstrong)
    · unfold isJoinable
      rw [bne_iff_ne.2 hne, bne_iff_ne.2 hmany]

end Relationship

end SemanticLayer
