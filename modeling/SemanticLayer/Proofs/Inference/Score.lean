import Mathlib.Data.List.Perm.Subperm
import SemanticLayer.Proofs.Decimal.Order
import SemanticLayer.Proofs.Inference.Pair

/-!
More evidence for a relationship never lowers the confidence in it. Each part of the score grows with
its own piece of the evidence, and the scale keeps the order of scores.
-/

namespace SemanticLayer

/-! ### Reasons -/

theorem Reason.points_nonneg (reason : Reason) : 0 ≤ reason.points := by
  cases reason <;> simp [points]

theorem reasonPoints_cons (reason : Reason) (reasons : List Reason) :
    reasonPoints (reason :: reasons) = reason.points + reasonPoints reasons := rfl

theorem reasonPoints_of_perm {reasons others : List Reason} (h : reasons.Perm others) :
    reasonPoints reasons = reasonPoints others := by
  induction h with
  | nil => rfl
  | cons reason _ ih => rw [reasonPoints_cons, reasonPoints_cons, ih]
  | swap one two reasons =>
    simp only [reasonPoints_cons]
    omega
  | trans _ _ ih ihlater => exact ih.trans ihlater

theorem reasonPoints_of_sublist {reasons more : List Reason} (h : reasons.Sublist more) :
    reasonPoints reasons ≤ reasonPoints more := by
  induction h with
  | slnil => exact Int.le_refl _
  | cons reason _ ih =>
    have hpoints := reason.points_nonneg
    rw [reasonPoints_cons]
    omega
  | cons_cons reason _ ih =>
    rw [reasonPoints_cons, reasonPoints_cons]
    omega

/-- No reason takes points away. -/
theorem reasonPoints_le {reasons more : List Reason} (h : reasons.Subperm more) :
    reasonPoints reasons ≤ reasonPoints more := by
  obtain ⟨kept, hperm, hkept⟩ := h
  rw [← reasonPoints_of_perm hperm]
  exact reasonPoints_of_sublist hkept

/-! ### Profiles -/

/-- How far profiles speak for what the names say: against it, not at all, or for it. -/
def supportRank : Option Bool → Nat
  | some false => 0
  | none => 1
  | some true => 2

theorem profilePoints_mono {agrees other : Option Bool}
    (h : supportRank agrees ≤ supportRank other) : profilePoints agrees ≤ profilePoints other := by
  rcases agrees with _ | _ | _ <;> rcases other with _ | _ | _ <;> revert h <;> decide

/-- The thresholds are in order, so a coverage that passes one passes those below it. -/
theorem coveragePoints_mono {coverage greater : Float} (h : coverage ≤ greater) :
    coveragePoints coverage ≤ coveragePoints greater := by
  have hkey := Decimal.orderKey_le h
  obtain ⟨hdefined, hgreater⟩ := Decimal.isNaN_of_le h
  have hlow : Decimal.fractionKey 3 10 ≤ Decimal.fractionKey 6 10 := by decide +kernel
  have hhigh : Decimal.fractionKey 6 10 ≤ Decimal.fractionKey 9 10 := by decide +kernel
  simp only [coveragePoints, hdefined, hgreater, Bool.false_eq_true, if_false]
  split_ifs <;> omega

/-- The coverage is the same, or there is a greater one. -/
inductive CoverageRises : Option Float → Option Float → Prop
  | same (coverage : Option Float) : CoverageRises coverage coverage
  | raised {coverage greater : Float} (h : coverage ≤ greater) :
      CoverageRises (some coverage) (some greater)

theorem CoverageRises.points_le {coverage greater : Option Float}
    (h : CoverageRises coverage greater) :
    (coverage.map coveragePoints).getD 0 ≤ (greater.map coveragePoints).getD 0 := by
  cases h with
  | same => exact Int.le_refl _
  | raised h => exact coveragePoints_mono h

/-! ### Cardinalities -/

/-- How much of a direction a cardinality has: many-to-many and an open one have none. -/
def directionRank : Option Cardinality → Nat
  | some .manyToOne | some .oneToMany => 2
  | some .oneToOne => 1
  | _ => 0

theorem cardinalityPoints_eq (cardinality : Option Cardinality) :
    cardinalityPoints cardinality = 5 * directionRank cardinality := by
  rcases cardinality with _ | _ | _ | _ | _ | _ <;> rfl

/-! ### Evidence -/

/-- What the confidence in a relationship between columns of one type rests on. -/
structure Evidence where
  naming : NamingEvidence
  /-- The cardinality after profiling. -/
  cardinality : Option Cardinality
  /-- Whether the profiles agree with it, if there are any. -/
  agrees : Option Bool
  coverage : Option Float
  /-- A column is an identifier that many tables share. -/
  shared : Bool

namespace Evidence

def confidence (typesMatch : Bool) (evidence : Evidence) : Int :=
  SemanticLayer.confidence typesMatch evidence.naming.reasons evidence.cardinality evidence.agrees
    evidence.coverage evidence.shared

/-- The other evidence says at least as much in every respect. The cardinality that the names alone
suggest does not matter. -/
structure Strengthens (evidence stronger : Evidence) : Prop where
  reasons : evidence.naming.reasons.Subperm stronger.naming.reasons
  cardinality : directionRank evidence.cardinality ≤ directionRank stronger.cardinality
  agrees : supportRank evidence.agrees ≤ supportRank stronger.agrees
  coverage : CoverageRises evidence.coverage stronger.coverage
  shared : stronger.shared = true → evidence.shared = true

theorem Strengthens.rawScore_le {evidence stronger : Evidence} (h : evidence.Strengthens stronger) :
    rawScore evidence.naming.reasons evidence.cardinality evidence.agrees evidence.coverage
        evidence.shared ≤
      rawScore stronger.naming.reasons stronger.cardinality stronger.agrees stronger.coverage
        stronger.shared := by
  have hreasons := reasonPoints_le h.reasons
  have hagrees := profilePoints_mono h.agrees
  have hcoverage := h.coverage.points_le
  have hshared : (if evidence.shared then -20 else 0 : Int) ≤
      if stronger.shared then -20 else 0 := by
    have hkept := h.shared
    split_ifs <;> simp_all
  have hcardinality := h.cardinality
  unfold rawScore
  rw [cardinalityPoints_eq, cardinalityPoints_eq]
  omega

/-- The confidence lies on the scale, columns of different types leave none, and more evidence of any
kind never lowers it. -/
theorem confidence_bounded_monotone (typesMatch : Bool) (evidence : Evidence) :
    0 ≤ evidence.confidence typesMatch ∧ evidence.confidence typesMatch ≤ 99 ∧
      evidence.confidence false = 0 ∧
      ∀ stronger, evidence.Strengthens stronger →
        evidence.confidence typesMatch ≤ stronger.confidence typesMatch := by
  cases typesMatch with
  | false =>
    have hnone : ∀ other : Evidence, other.confidence false = 0 := fun _ => rfl
    simp [hnone]
  | true =>
    refine ⟨confidence_nonneg .., confidence_le_fullScore .., rfl, fun stronger h => ?_⟩
    have hscore := h.rawScore_le
    unfold confidence SemanticLayer.confidence
    rw [if_pos rfl, if_pos rfl]
    omega

/-- A guess from the name of one column, which the profiles contradict. -/
def guessed : Evidence :=
  ⟨⟨none, .weak, [.foreignKey]⟩, none, some false, some 0.2, true⟩

/-- A foreign key that is named after the table, and finds almost all of its values there. -/
def profiled : Evidence :=
  ⟨⟨some .manyToOne, .strong, [.tableReference, .primaryKey, .foreignKey]⟩, some .manyToOne,
    some true, some 0.95, false⟩

theorem confidence_bounded_monotone_profiled :
    guessed.Strengthens profiled ∧ guessed.confidence true = 0 ∧ profiled.confidence true = 99 ∧
      guessed.confidence true ≤ profiled.confidence true := by
  have h : guessed.Strengthens profiled :=
    { reasons := (List.Sublist.subperm (by decide))
      cardinality := by decide
      agrees := by decide
      coverage := .raised (by decide +kernel)
      shared := by decide }
  exact ⟨h, by decide +kernel, by decide +kernel,
    (confidence_bounded_monotone true guessed).2.2.2 profiled h⟩

end Evidence

end SemanticLayer
