import SemanticLayer.Proofs.Inference.SharedKeys

/-!
Suggestions from names alone do not depend on the order of tables and columns. Two tables suggest
the same in either order, up to the side that comes first, and suggestions that are equally good
show the same; so the best one shows the same whichever pair of columns is looked at first.
-/

namespace SemanticLayer

/-- What a suggestion shows apart from which table comes first and for which reasons. -/
structure Suggestion.Gist where
  id : String
  cardinality : Option Cardinality
  confidence : Int
  status : String
  invalidReason : Option String
  strength : Strength
  deriving Repr, DecidableEq

def Suggestion.gist (suggestion : Suggestion) : Suggestion.Gist :=
  ⟨suggestion.id, suggestion.cardinality, suggestion.confidence, suggestion.status,
    suggestion.invalidReason, suggestion.strength⟩

/-- The same table with its columns in another order. -/
structure Table.Reorders (one two : Table) : Prop where
  columns : one.columns.Perm two.columns
  others : two = { one with columns := two.columns }

/-- The same catalog with its tables and their columns in another order. -/
structure Catalog.Reorders (one two : Catalog) : Prop where
  model : one.model = two.model
  relationships : one.relationships = two.relationships
  tables : ∃ between, one.tables.Perm between ∧
    List.Forall₂ Table.Reorders between two.tables

/-! ### Inference from names alone -/

/-- What names alone show of two columns. -/
def namesInference? (one : Table) (oneColumn : Column) (two : Table) (twoColumn : Column) :
    Option PairInference :=
  ((inferPair none one oneColumn two twoColumn true).run ProfileCache.empty).1

/-- Without a source of profiles no inference depends on those before it. -/
theorem inferPair_none (one : Table) (oneColumn : Column) (two : Table) (twoColumn : Column) :
    inferPair none one oneColumn two twoColumn true =
      pure (namesInference? one oneColumn two twoColumn) := by
  unfold namesInference? inferPair
  cases NamingEvidence.ofNames ⟨one.name, oneColumn.name⟩ ⟨two.name, twoColumn.name⟩ with
  | none => rfl
  | some naming =>
    dsimp only
    split <;> rfl

/-- The examination of two tables by names alone. -/
def namesExamination (tables : Table × Table) : Examination where
  one := tables.1
  two := tables.2
  pairs := (columnPairs tables.1 tables.2).map fun columns =>
    ⟨columns.1, columns.2, namesInference? tables.1 columns.1 tables.2 columns.2⟩

theorem examinations_none (tables : List Table) :
    examinations none tables = (tablePairs tables).map namesExamination := by
  have hpair : ∀ one two : Table, ExaminedPair.examine none one two = fun columns =>
      pure ⟨columns.1, columns.2, namesInference? one columns.1 two columns.2⟩ := by
    intro one two
    funext columns
    rw [ExaminedPair.examine, inferPair_none, pure_bind]
  have hexamine : Examination.examine none = fun tables => pure (namesExamination tables) := by
    funext tables
    rw [Examination.examine, hpair, List.mapM_pure, pure_bind]
    rfl
  rw [examinations, hexamine, List.mapM_pure]
  rfl

/-! ### The other order -/

/-- What an inference decides, with the side of many rows first. -/
structure PairVerdict where
  cardinality : Option Cardinality
  strength : Strength
  confidence : Int
  rejection : Option Rejection

def PairInference.verdict (inference : PairInference) : PairVerdict :=
  ⟨manyFirst inference.cardinality, inference.strength, inference.confidence, inference.rejection⟩

theorem cardinalityPoints_manyFirst (cardinality : Option Cardinality) :
    cardinalityPoints (manyFirst cardinality) = cardinalityPoints cardinality := by
  rcases cardinality with _ | _ | _ | _ | _ | _ <;> rfl

theorem requiredConfidence_manyFirst (cardinality : Option Cardinality) (strength : Strength) :
    requiredConfidence (manyFirst cardinality) strength =
      requiredConfidence cardinality strength := by
  rcases cardinality with _ | _ | _ | _ | _ | _ <;> cases strength <;> rfl

/-- The verdict of names in the order that has the side of many rows first. -/
def NamingEvidence.verdict (oneColumn twoColumn : Column) (naming : NamingEvidence) : PairVerdict :=
  if DataKind.ofType oneColumn.type != DataKind.ofType twoColumn.type then
    ⟨naming.cardinality, naming.strength, 0, some .typeMismatch⟩
  else
    ⟨naming.cardinality, naming.strength,
      confidence true naming.reasons naming.cardinality none none
        (naming.weighsShared oneColumn twoColumn), none⟩

theorem NamingEvidence.verdict_comm (oneColumn twoColumn : Column) :
    verdict twoColumn oneColumn = verdict oneColumn twoColumn := by
  funext naming
  unfold verdict weighsShared
  rw [bne_comm, Bool.or_comm]

theorem PairInference.verdict_ofNaming (naming : NamingEvidence) (shared : Bool) :
    (ofNaming naming shared).verdict =
      ⟨naming.manyFirst.cardinality, naming.strength,
        SemanticLayer.confidence true naming.reasons naming.manyFirst.cardinality none none shared,
        none⟩ := by
  unfold ofNaming verdict NamingEvidence.manyFirst SemanticLayer.confidence rawScore
  rw [cardinalityPoints_manyFirst]

theorem namesInference?_verdict (one : Table) (oneColumn : Column) (two : Table)
    (twoColumn : Column) :
    (namesInference? one oneColumn two twoColumn).map PairInference.verdict =
      ((NamingEvidence.ofNames ⟨one.name, oneColumn.name⟩ ⟨two.name, twoColumn.name⟩).map
        NamingEvidence.manyFirst).map (NamingEvidence.verdict oneColumn twoColumn) := by
  unfold namesInference? inferPair
  cases NamingEvidence.ofNames ⟨one.name, oneColumn.name⟩ ⟨two.name, twoColumn.name⟩ with
  | none => rfl
  | some naming =>
    dsimp only
    rw [Option.getD_some, Option.map_some, Option.map_some]
    unfold NamingEvidence.verdict
    split
    · rfl
    · exact congrArg some (PairInference.verdict_ofNaming _ _)

theorem namesInference?_comm (one : Table) (oneColumn : Column) (two : Table)
    (twoColumn : Column) :
    (namesInference? two twoColumn one oneColumn).map PairInference.verdict =
      (namesInference? one oneColumn two twoColumn).map PairInference.verdict := by
  rw [namesInference?_verdict, namesInference?_verdict, NamingEvidence.ofNames_comm,
    NamingEvidence.verdict_comm]

/-! ### What two tables suggest -/

theorem runtimeObstacle_comm (one two : Table) :
    runtimeObstacle two one = runtimeObstacle one two := by
  unfold runtimeObstacle
  rw [bne_comm, Bool.or_comm]

/-- What a suggestion shows that two columns make, from their identity, from what keeps the tables
from being joined, and from the verdict on the columns. -/
def Suggestion.Gist.ofVerdict (id : String) (obstacle : Option String) (verdict : PairVerdict) :
    Suggestion.Gist :=
  let invalidReason :=
    if verdict.cardinality == some .manyToMany then some manyToManyObstacle else obstacle
  ⟨id, verdict.cardinality, verdict.confidence,
    if invalidReason.isSome then invalidStatus else validStatus, invalidReason, verdict.strength⟩

theorem Suggestion.gist_ofInference (modelId : String) (one : Table) (oneColumn : Column)
    (two : Table) (twoColumn : Column) (inference : PairInference) :
    (ofInference modelId one oneColumn two twoColumn inference).gist =
      .ofVerdict (relationshipKey one.id oneColumn.name two.id twoColumn.name)
        (runtimeObstacle one two) inference.verdict := by
  rw [← ofInference_id modelId one oneColumn two twoColumn inference]
  unfold ofInference gist Gist.ofVerdict PairInference.verdict manyFirst
  dsimp only
  split <;> simp only [runtimeObstacle_comm]

namespace Detection

variable (catalog : Catalog)

/-- What a pair of columns of two tables suggests by names alone. -/
def gist? (one : Table) (oneColumn : Column) (two : Table) (twoColumn : Column) :
    Option Suggestion.Gist :=
  ((namesInference? one oneColumn two twoColumn).map PairInference.verdict).bind fun verdict =>
    let id := relationshipKey one.id oneColumn.name two.id twoColumn.name
    if verdict.rejection.isNone &&
        requiredConfidence verdict.cardinality verdict.strength ≤ verdict.confidence &&
        !catalog.relationshipKeys.contains id then
      some (.ofVerdict id (runtimeObstacle one two) verdict)
    else none

theorem gist?_comm (one : Table) (oneColumn : Column) (two : Table) (twoColumn : Column) :
    gist? catalog two twoColumn one oneColumn = gist? catalog one oneColumn two twoColumn := by
  unfold gist?
  rw [namesInference?_comm, relationshipKey_comm, runtimeObstacle_comm]

theorem proposal?_gist (one : Table) (oneColumn : Column) (two : Table) (twoColumn : Column) :
    ((ofCatalog none catalog).proposal? one two
        ⟨oneColumn, twoColumn, namesInference? one oneColumn two twoColumn⟩).map Suggestion.gist =
      gist? catalog one oneColumn two twoColumn := by
  unfold proposal? gist?
  dsimp only
  cases namesInference? one oneColumn two twoColumn with
  | none => rfl
  | some inference =>
    rw [Option.bind_some, Option.map_some, Option.bind_some, Suggestion.ofInference_id]
    unfold PairInference.verdict
    dsimp only
    rw [requiredConfidence_manyFirst]
    rw [apply_ite (Option.map Suggestion.gist), Option.map_some, Option.map_none,
      Suggestion.gist_ofInference]
    rfl

end Detection

/-! ### Suggestions that are equally good -/

/-- The cardinalities that names show, with the side of many rows first. -/
def Cardinality.shown : List (Option Cardinality) :=
  [some .manyToOne, some .oneToOne, some .manyToMany, none]

theorem preference_injOn {one two : Option Cardinality} (hone : one ∈ Cardinality.shown)
    (htwo : two ∈ Cardinality.shown) (h : preference one = preference two) : one = two := by
  simp only [Cardinality.shown, List.mem_cons, List.not_mem_nil, or_false] at hone htwo
  rcases hone with rfl | rfl | rfl | rfl <;> rcases htwo with rfl | rfl | rfl | rfl <;>
    first | rfl | cases h

theorem Strength.eq_of_rank {one two : Strength} (h : one.rank = two.rank) : one = two := by
  cases one <;> cases two <;> first | rfl | cases h

namespace Suggestion

/-- What a suggestion shows is settled by its identity, its cardinality, its confidence and its
strength between tables with a given obstacle. -/
def Gist.IsSettled (obstacle : Option String) (gist : Gist) : Prop :=
  ∃ id verdict, gist = .ofVerdict id obstacle verdict ∧ verdict.cardinality ∈ Cardinality.shown

variable {one two three four : Suggestion}

theorem compare_eq_eq (h : one.compare two = .eq) :
    one.confidence = two.confidence ∧ one.strength = two.strength ∧
      preference one.cardinality = preference two.cardinality ∧ one.id = two.id := by
  simp only [compare, Ordering.then_eq_eq] at h
  obtain ⟨⟨⟨⟨hconfidence, -⟩, hstrength⟩, hpreference⟩, hid⟩ := h
  exact ⟨(compare_eq_iff_eq.1 hconfidence).symm,
    Strength.eq_of_rank (compare_eq_iff_eq.1 hstrength).symm, compare_eq_iff_eq.1 hpreference,
    compare_eq_iff_eq.1 hid⟩

/-- Equally good suggestions show the same. -/
theorem gist_eq_of_compare {obstacle : Option String} (h : one.compare two = .eq)
    (hone : one.gist.IsSettled obstacle) (htwo : two.gist.IsSettled obstacle) :
    one.gist = two.gist := by
  obtain ⟨hconfidence, hstrength, hpreference, hid⟩ := compare_eq_eq h
  obtain ⟨firstId, first, hfirst, hshown⟩ := hone
  obtain ⟨secondId, second, hsecond, hshownToo⟩ := htwo
  have hcardinality : first.cardinality = second.cardinality := by
    refine preference_injOn hshown hshownToo ?_
    have hfirstCardinality : one.cardinality = first.cardinality := congrArg Gist.cardinality hfirst
    have hsecondCardinality : two.cardinality = second.cardinality :=
      congrArg Gist.cardinality hsecond
    rw [← hfirstCardinality, ← hsecondCardinality, hpreference]
  have hids : firstId = secondId :=
    (congrArg Gist.id hfirst).symm.trans (hid.trans (congrArg Gist.id hsecond))
  have hconfidences : first.confidence = second.confidence :=
    (congrArg Gist.confidence hfirst).symm.trans
      (hconfidence.trans (congrArg Gist.confidence hsecond))
  have hstrengths : first.strength = second.strength :=
    (congrArg Gist.strength hfirst).symm.trans (hstrength.trans (congrArg Gist.strength hsecond))
  rw [hfirst, hsecond, Gist.ofVerdict, Gist.ofVerdict, hids, hcardinality, hconfidences, hstrengths]

/-- The order sees only what suggestions show. -/
theorem compare_congr (hfirst : one.gist = three.gist) (hsecond : two.gist = four.gist) :
    one.compare two = three.compare four := by
  simp only [gist, Gist.mk.injEq] at hfirst hsecond
  simp only [compare, hfirst, hsecond]

/-- The best of suggestions that show the same shows the same. -/
theorem bestFound?_gist {found others : List (Option Suggestion)} (obstacle : Option String)
    (hsame : ∀ gist, gist ∈ found.reduceOption.map Suggestion.gist ↔
      gist ∈ others.reduceOption.map Suggestion.gist)
    (hsettled : ∀ gist ∈ found.reduceOption.map Suggestion.gist, gist.IsSettled obstacle) :
    (bestFound? found).map gist = (bestFound? others).map gist := by
  rcases bestFound?_cases found with ⟨hnone, hempty⟩ | ⟨best, hbest, hmem, hleast⟩ <;>
    rcases bestFound?_cases others with ⟨hnoneToo, hemptyToo⟩ | ⟨last, hlast, hmemToo, hleastToo⟩
  · rw [hnone, hnoneToo]
  · have hlastGist := (hsame last.gist).2 (List.mem_map_of_mem hmemToo)
    rw [hempty] at hlastGist
    cases hlastGist
  · have hbestGist := (hsame best.gist).1 (List.mem_map_of_mem hmem)
    rw [hemptyToo] at hbestGist
    cases hbestGist
  · obtain ⟨first, hfirst, hfirstGist⟩ :=
      List.mem_map.1 ((hsame last.gist).2 (List.mem_map_of_mem hmemToo))
    obtain ⟨second, hsecond, hsecondGist⟩ :=
      List.mem_map.1 ((hsame best.gist).1 (List.mem_map_of_mem hmem))
    have hfirstLeast := precedes_eq_false.1 (hleast first hfirst)
    have hsecondLeast := precedes_eq_false.1 (hleastToo second hsecond)
    rw [compare_congr rfl hfirstGist] at hfirstLeast
    rw [compare_congr rfl hsecondGist] at hsecondLeast
    rw [hbest, hlast, Option.map_some, Option.map_some]
    exact congrArg some (gist_eq_of_compare (Std.OrientedCmp.isLE_antisymm hfirstLeast hsecondLeast)
      (hsettled _ (List.mem_map_of_mem hmem))
      (hsettled _ ((hsame last.gist).2 (List.mem_map_of_mem hmemToo))))

end Suggestion

theorem NamingEvidence.manyFirst_mem_shown {one two : NamedColumn} {naming : NamingEvidence}
    (h : ofNames one two = some naming) : naming.manyFirst.cardinality ∈ Cardinality.shown := by
  unfold ofNames at h
  dsimp only at h
  split_ifs at h <;> cases h <;> decide

theorem NamingEvidence.verdict_cardinality (oneColumn twoColumn : Column)
    (naming : NamingEvidence) :
    (naming.verdict oneColumn twoColumn).cardinality = naming.cardinality := by
  unfold verdict
  split <;> rfl

/-! ### The best on two tables -/

namespace Detection

variable {catalog : Catalog}

theorem isSettled_of_gist? {one two : Table} {oneColumn twoColumn : Column}
    {gist : Suggestion.Gist} (h : gist? catalog one oneColumn two twoColumn = some gist) :
    gist.IsSettled (runtimeObstacle one two) := by
  unfold gist? at h
  rw [namesInference?_verdict, Option.bind_eq_some_iff] at h
  obtain ⟨verdict, hverdict, h⟩ := h
  rw [Option.ite_none_right_eq_some] at h
  refine ⟨_, verdict, (Option.some.inj h.2).symm, ?_⟩
  rw [Option.map_map] at hverdict
  obtain ⟨naming, hnames, rfl⟩ := Option.map_eq_some_iff.1 hverdict
  rw [Function.comp, NamingEvidence.verdict_cardinality]
  exact NamingEvidence.manyFirst_mem_shown hnames

theorem mem_proposals_gist_iff {one two : Table} {gist : Suggestion.Gist} :
    gist ∈ ((ofCatalog none catalog).proposals (namesExamination (one, two))).reduceOption.map
        Suggestion.gist ↔
      ∃ oneColumn ∈ joinColumns one, ∃ twoColumn ∈ joinColumns two,
        gist? catalog one oneColumn two twoColumn = some gist := by
  simp only [List.mem_map, List.reduceOption_mem_iff, proposals, namesExamination, List.map_map,
    Function.comp, ← proposal?_gist, Option.map_eq_some_iff]
  constructor
  · rintro ⟨suggestion, ⟨columns, hcolumns, hproposal⟩, rfl⟩
    obtain ⟨hone, htwo⟩ := mem_columnPairs.1 hcolumns
    exact ⟨columns.1, hone, columns.2, htwo, suggestion, hproposal, rfl⟩
  · rintro ⟨oneColumn, hone, twoColumn, htwo, suggestion, hproposal, rfl⟩
    exact ⟨suggestion, ⟨(oneColumn, twoColumn), mem_columnPairs.2 ⟨hone, htwo⟩, hproposal⟩, rfl⟩

/-- What the best suggestion on two tables shows, from names alone. -/
def bestGist? (catalog : Catalog) (one two : Table) : Option Suggestion.Gist :=
  (Suggestion.bestFound? ((ofCatalog none catalog).proposals (namesExamination (one, two)))).map
    Suggestion.gist

theorem bestGist?_eq {one two three four : Table}
    (h : ∀ gist, (∃ oneColumn ∈ joinColumns one, ∃ twoColumn ∈ joinColumns two,
        gist? catalog one oneColumn two twoColumn = some gist) ↔
      ∃ threeColumn ∈ joinColumns three, ∃ fourColumn ∈ joinColumns four,
        gist? catalog three threeColumn four fourColumn = some gist) :
    bestGist? catalog one two = bestGist? catalog three four := by
  refine Suggestion.bestFound?_gist (runtimeObstacle one two) (fun gist => ?_) fun gist hgist => ?_
  · rw [mem_proposals_gist_iff, mem_proposals_gist_iff]
    exact h gist
  · obtain ⟨oneColumn, -, twoColumn, -, hgist⟩ := mem_proposals_gist_iff.1 hgist
    exact isSettled_of_gist? hgist

theorem bestGist?_comm (one two : Table) : bestGist? catalog one two = bestGist? catalog two one := by
  refine bestGist?_eq fun gist => ?_
  constructor
  · rintro ⟨oneColumn, hone, twoColumn, htwo, hgist⟩
    exact ⟨twoColumn, htwo, oneColumn, hone, by rwa [gist?_comm]⟩
  · rintro ⟨twoColumn, htwo, oneColumn, hone, hgist⟩
    exact ⟨oneColumn, hone, twoColumn, htwo, by rwa [gist?_comm]⟩

theorem joinColumns_perm {one two : Table} (h : one.Reorders two) :
    (joinColumns one).Perm (joinColumns two) :=
  h.columns.filter _

theorem gist?_reorders {one two three four : Table} (hone : one.Reorders three)
    (htwo : two.Reorders four) (oneColumn twoColumn : Column) :
    gist? catalog one oneColumn two twoColumn = gist? catalog three oneColumn four twoColumn := by
  unfold gist?
  rw [namesInference?_verdict, namesInference?_verdict, hone.others, htwo.others]
  rfl

theorem bestGist?_reorders {one two three four : Table} (hone : one.Reorders three)
    (htwo : two.Reorders four) : bestGist? catalog one two = bestGist? catalog three four := by
  refine bestGist?_eq fun gist => ?_
  simp only [(joinColumns_perm hone).mem_iff, (joinColumns_perm htwo).mem_iff,
    gist?_reorders hone htwo]

theorem bestGist?_catalog {one two : Catalog} (h : one.Reorders two) :
    bestGist? one = bestGist? two := by
  have hcatalog : ofCatalog none one = ofCatalog none two := by
    unfold ofCatalog Catalog.relationshipKeys
    rw [h.model, h.relationships]
  funext first second
  rw [bestGist?, bestGist?, hcatalog]

end Detection

/-! ### Tables in another order -/

section

variable {γ : Type} {f : Table → Table → Option γ} {tables others : List Table}

/-- What every two tables give does not depend on their order if it does not for any two. -/
theorem filterMap_tablePairs_perm (hf : ∀ one two, f one two = f two one)
    (h : tables.Perm others) :
    ((tablePairs tables).filterMap fun pair => f pair.1 pair.2).Perm
      ((tablePairs others).filterMap fun pair => f pair.1 pair.2) := by
  induction h with
  | nil => exact .nil
  | cons table hrest ih =>
    simp only [tablePairs, List.filterMap_append, List.filterMap_map]
    exact (hrest.filterMap _).append ih
  | swap first second rest =>
    simp only [tablePairs, List.map_cons, List.cons_append, List.filterMap_append,
      List.filterMap_cons, List.filterMap_map, hf first second, Function.comp_def]
    have hswap := List.perm_append_comm_assoc (rest.filterMap (f second)) (rest.filterMap (f first))
      ((tablePairs rest).filterMap fun pair => f pair.1 pair.2)
    cases f second first with
    | none => exact hswap
    | some value => exact hswap.cons value
  | trans _ _ ihFirst ihSecond => exact ihFirst.trans ihSecond

theorem filterMap_forall₂ {α : Type} {R : α → α → Prop} {g k : α → Option γ} {items more : List α}
    (hg : ∀ one two, R one two → g one = k two) (h : List.Forall₂ R items more) :
    items.filterMap g = more.filterMap k := by
  induction h with
  | nil => rfl
  | cons hhead hrest ih => rw [List.filterMap_cons, List.filterMap_cons, hg _ _ hhead, ih]

theorem filterMap_tablePairs_forall₂ {R : Table → Table → Prop}
    (hf : ∀ one two three four, R one three → R two four → f one two = f three four)
    (h : List.Forall₂ R tables others) :
    ((tablePairs tables).filterMap fun pair => f pair.1 pair.2) =
      (tablePairs others).filterMap fun pair => f pair.1 pair.2 := by
  induction h with
  | nil => rfl
  | cons hhead hrest ih =>
    simp only [tablePairs, List.filterMap_append, List.filterMap_map, Function.comp_def]
    rw [ih, filterMap_forall₂ (fun two four htwo => hf _ two _ four hhead htwo) hrest]

theorem map_id_of_reorders (h : List.Forall₂ Table.Reorders tables others) :
    tables.map (·.id) = others.map (·.id) := by
  induction h with
  | nil => rfl
  | cons hhead hrest ih => rw [List.map_cons, List.map_cons, ih, hhead.others]

theorem filter_reorders (ids : List String) (h : List.Forall₂ Table.Reorders tables others) :
    List.Forall₂ Table.Reorders (tables.filter fun table => table.isAmong ids)
      (others.filter fun table => table.isAmong ids) := by
  refine List.rel_filter (fun one two hreorders => ?_) h
  rw [hreorders.others]
  rfl

end

/-- What is suggested from names alone shows what the best on every two tables shows. -/
theorem gists_suggestRelationships {catalog : Catalog} (ids : List String)
    (hids : (catalog.tables.map (·.id)).Nodup) :
    ((suggestRelationships none catalog ids).map Suggestion.gist).Perm
      ((tablePairs (catalog.tables.filter fun table => table.isAmong ids)).filterMap
        fun pair => Detection.bestGist? catalog pair.1 pair.2) := by
  rw [Detection.suggestRelationships_eq_mergeSort ids hids]
  refine ((List.mergeSort_perm _ _).map _).trans ?_
  rw [List.map_filterMap, examinations_none, List.filterMap_map]
  exact .refl _

/-- Without a source of profiles, what is suggested shows the same whatever the order of the
tables and of their columns. -/
theorem suggestRelationships_reordered {catalog other : Catalog} (ids : List String)
    (h : catalog.Reorders other) (hids : (catalog.tables.map (·.id)).Nodup) :
    ((suggestRelationships none catalog ids).map Suggestion.gist).Perm
      ((suggestRelationships none other ids).map Suggestion.gist) := by
  obtain ⟨between, hperm, hreorders⟩ := h.tables
  have hidsOther : (other.tables.map (·.id)).Nodup := by
    rw [← map_id_of_reorders hreorders]
    exact (hperm.map _).nodup_iff.1 hids
  refine (gists_suggestRelationships ids hids).trans
    (.trans ?_ (gists_suggestRelationships ids hidsOther).symm)
  refine (filterMap_tablePairs_perm Detection.bestGist?_comm (hperm.filter _)).trans ?_
  rw [← Detection.bestGist?_catalog h]
  exact .of_eq (filterMap_tablePairs_forall₂
    (fun _ _ _ _ => Detection.bestGist?_reorders) (filter_reorders ids hreorders))

/-- The shop with its tables, and the columns of one of them, in the other order. -/
def reorderedShopCatalog : Catalog :=
  { shopCatalog with
    tables := [usersTable, { ordersTable with columns := ordersTable.columns.reverse }] }

theorem suggestRelationships_reordered_shop :
    ((suggestRelationships none shopCatalog ["orders", "users"]).map Suggestion.gist).Perm
      ((suggestRelationships none reorderedShopCatalog ["orders", "users"]).map
        Suggestion.gist) := by
  refine suggestRelationships_reordered _ ⟨rfl, rfl, [usersTable, ordersTable], .swap .., ?_⟩
    (by decide)
  exact .cons ⟨.refl _, rfl⟩ (.cons ⟨(List.reverse_perm _).symm, rfl⟩ .nil)

end SemanticLayer
