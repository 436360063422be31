import Mathlib.Data.List.Perm.Basic
import Mathlib.Data.String.Basic
import SemanticLayer.Proofs.Inference.Examination
import SemanticLayer.Proofs.Inference.Pair

/-!
What detection finds. Of the examined pairs of columns of two tables some may be suggested, and one
of the best of these is found; nothing else is.
-/

namespace SemanticLayer

/-! ### What is examined -/

section

variable {α β σ : Type}

/-- What a loop returns comes from its steps, each in the state that the ones before it left. -/
theorem mem_mapM_run {f : α → StateM σ β} {items : List α} {state : σ} {b : β}
    (h : b ∈ ((items.mapM f).run state).1) : ∃ a ∈ items, ∃ before, b = ((f a).run before).1 := by
  induction items generalizing state with
  | nil => cases h
  | cons item rest ih =>
    rw [List.mapM_cons] at h
    rcases List.mem_cons.1 h with rfl | h
    · exact ⟨item, List.mem_cons_self, state, rfl⟩
    · obtain ⟨a, ha, before, hb⟩ := ih h
      exact ⟨a, List.mem_cons_of_mem _ ha, before, hb⟩

/-- Among what items give, what belongs to one of them is what that one gives, if each item has a
key of its own. -/
theorem filter_filterMap_of_key {κ : Type} {key : α → κ} {f : α → Option β} {p : β → Bool}
    {items : List α} {a : α} (hkeys : (items.map key).Nodup) (ha : a ∈ items)
    (hp : ∀ item ∈ items, ∀ b, f item = some b → (p b = true ↔ key item = key a)) :
    (items.filterMap f).filter p = (f a).toList := by
  have hitems : items.filterMap (fun item => (f item).filter p) = (f a).toList := by
    obtain ⟨before, later, rfl⟩ := List.append_of_mem ha
    rw [List.map_append, List.map_cons, List.nodup_middle, List.nodup_cons, List.mem_append,
      not_or] at hkeys
    have hothers : ∀ others : List α, (∀ item ∈ others, item ∈ before ++ a :: later) →
        key a ∉ others.map key → others.filterMap (fun item => (f item).filter p) = [] := by
      intro others hsub hnot
      rw [List.filterMap_eq_nil_iff]
      intro item hitem
      rw [Option.filter_eq_none_iff]
      intro b hb hpb
      exact hnot (List.mem_map.2 ⟨item, hitem, (hp item (hsub item hitem) b hb).1 hpb⟩)
    have hown : (f a).filter p = f a := by
      cases hb : f a with
      | none => rfl
      | some b => exact if_pos ((hp a ha b hb).2 rfl)
    rw [List.filterMap_append, List.filterMap_cons, hothers before (by simp_all) hkeys.1.1,
      hothers later (by simp_all) hkeys.1.2, hown]
    cases f a <;> rfl
  rw [List.filter_filterMap, hitems]

end

theorem relationshipKey_comm (one oneColumn two twoColumn : String) :
    relationshipKey one oneColumn two twoColumn = relationshipKey two twoColumn one oneColumn := by
  unfold relationshipKey
  dsimp only
  split_ifs with hfirst hsecond hsecond
  · exact absurd (String.lt_trans hfirst hsecond) (String.lt_irrefl _)
  · rfl
  · rfl
  · rw [String.le_antisymm (String.not_lt.1 hfirst) (String.not_lt.1 hsecond)]

theorem filterMap_sublist_map {α β : Type} {f : α → Option β} {g : α → β}
    (h : ∀ a b, f a = some b → b = g a) (items : List α) :
    (items.filterMap f).Sublist (items.map g) := by
  induction items with
  | nil => exact List.Sublist.slnil
  | cons item rest ih =>
    rw [List.filterMap_cons, List.map_cons]
    cases hitem : f item with
    | none => exact ih.cons _
    | some b =>
      rw [← h item b hitem]
      exact ih.cons_cons _

namespace Detection

theorem pairKey_eq_iff {one two three four : Table} :
    pairKey one two = pairKey three four ↔
      (one.id = three.id ∧ two.id = four.id) ∨ (one.id = four.id ∧ two.id = three.id) := by
  unfold pairKey
  split_ifs <;> simp only [Prod.mk.injEq] <;> grind

/-- Every two tables have a key of their own. -/
theorem nodup_pairKeys {tables : List Table} (h : (tables.map (·.id)).Nodup) :
    ((tablePairs tables).map fun pair => pairKey pair.1 pair.2).Nodup := by
  induction tables with
  | nil => exact List.nodup_nil
  | cons one rest ih =>
    rw [List.map_cons, List.nodup_cons] at h
    rw [tablePairs, List.map_append, List.map_map, List.nodup_append]
    refine ⟨?_, ih h.2, ?_⟩
    · refine List.pairwise_map.2 ((List.pairwise_map.1 h.2).imp fun hdiffer hkey => ?_)
      rcases pairKey_eq_iff.1 hkey with ⟨-, hsame⟩ | ⟨hfirst, hsecond⟩
      · exact hdiffer hsame
      · exact hdiffer (hsecond.trans hfirst)
    · rintro key hkey _ hother rfl
      obtain ⟨two, htwo, rfl⟩ := List.mem_map.1 hkey
      obtain ⟨⟨three, four⟩, hpair, hsame⟩ := List.mem_map.1 hother
      have hsub := (mem_tablePairs.1 hpair).subset
      rcases pairKey_eq_iff.1 hsame with ⟨hthree, -⟩ | ⟨-, hfour⟩
      · exact h.1 (List.mem_map.2 ⟨three, hsub (by simp), hthree⟩)
      · exact h.1 (List.mem_map.2 ⟨four, hsub (by simp), hfour⟩)

end Detection

/-! ### What may be suggested -/

/-- Whether a suggestion joins two tables, in either direction. -/
def Suggestion.isBetween (suggestion : Suggestion) (one two : Table) : Bool :=
  (suggestion.fromTableId == one.id && suggestion.toTableId == two.id) ||
    (suggestion.fromTableId == two.id && suggestion.toTableId == one.id)

/-- Two columns that may be suggested, with what was inferred on them: neither is an attribute
that is not joined on, names and values give reason enough, and the relationship is not stored
yet. -/
structure ExaminedPair.IsEligible (catalog : Catalog) (one two : Table) (pair : ExaminedPair)
    (inference : PairInference) : Prop where
  oneColumn : isGenericColumn pair.oneColumn.name pair.oneColumn.type = false
  twoColumn : isGenericColumn pair.twoColumn.name pair.twoColumn.type = false
  inferred : pair.inference = some inference
  accepted : inference.rejection = none
  confident :
    requiredConfidence inference.cardinality inference.strength ≤ inference.confidence
  unknown :
    relationshipKey one.id pair.oneColumn.name two.id pair.twoColumn.name ∉
      catalog.relationshipKeys

/-- A suggestion that an eligible pair of columns of two tables makes. -/
def Examination.Suggests (catalog : Catalog) (examination : Examination)
    (suggestion : Suggestion) : Prop :=
  ∃ pair ∈ examination.pairs, ∃ inference,
    pair.IsEligible catalog examination.one examination.two inference ∧
    suggestion = .ofInference catalog.model.id examination.one pair.oneColumn examination.two
      pair.twoColumn inference

namespace Suggestion

variable (modelId : String) (one : Table) (oneColumn : Column) (two : Table) (twoColumn : Column)
  (inference : PairInference)

theorem ofInference_id :
    (ofInference modelId one oneColumn two twoColumn inference).id =
      relationshipKey one.id oneColumn.name two.id twoColumn.name := by
  unfold ofInference
  dsimp only
  split
  · exact relationshipKey_comm ..
  · rfl

theorem isBetween_ofInference (three four : Table) :
    (ofInference modelId one oneColumn two twoColumn inference).isBetween three four = true ↔
      Detection.pairKey one two = Detection.pairKey three four := by
  rw [Detection.pairKey_eq_iff, isBetween]
  unfold ofInference
  dsimp only
  simp only [Bool.or_eq_true, Bool.and_eq_true, beq_iff_eq]
  split
  · tauto
  · tauto

end Suggestion

/-! ### What was examined -/

section

variable {profiler : Option Profiler} {tables : List Table} {examination : Examination}

/-- An examination looks at all pairs of columns that may be joined, each in the state of the
profiles that the ones before it left. -/
theorem exists_examine_of_mem (h : examination ∈ examinations profiler tables) :
    (examination.one, examination.two) ∈ tablePairs tables ∧
      ∃ before, examination =
        ((Examination.examine profiler (examination.one, examination.two)).run before).1 := by
  obtain ⟨pair, hpair, before, rfl⟩ := mem_mapM_run h
  exact ⟨hpair, before, rfl⟩

theorem ExaminedPair.examine_run (one two : Table) (columns : Column × Column)
    (cache : ProfileCache) :
    ((ExaminedPair.examine profiler one two columns).run cache).1 =
      ⟨columns.1, columns.2,
        ((inferPair profiler one columns.1 two columns.2 true).run cache).1⟩ := by
  unfold ExaminedPair.examine
  rw [StateT.run_bind]
  rfl

theorem Examination.examine_run (one two : Table) (cache : ProfileCache) :
    ((Examination.examine profiler (one, two)).run cache).1.pairs =
      (((columnPairs one two).mapM (ExaminedPair.examine profiler one two)).run cache).1 := by
  unfold Examination.examine
  rw [StateT.run_bind]
  rfl

theorem examined_columns (h : examination ∈ examinations profiler tables) :
    examination.pairs.map (fun pair => (pair.oneColumn, pair.twoColumn)) =
      columnPairs examination.one examination.two := by
  obtain ⟨-, before, hexamine⟩ := exists_examine_of_mem h
  rw [hexamine, Examination.examine_run]
  refine mapM_run_fst _ _ (fun columns cache => ?_) _ _
  rw [ExaminedPair.examine_run]

/-- What an examined pair shows is what is inferred on its columns. -/
theorem examined_inference (h : examination ∈ examinations profiler tables) {pair : ExaminedPair}
    (hpair : pair ∈ examination.pairs) :
    ∃ cache, pair.inference = ((inferPair profiler examination.one pair.oneColumn examination.two
      pair.twoColumn true).run cache).1 := by
  obtain ⟨-, before, hexamine⟩ := exists_examine_of_mem h
  rw [hexamine, Examination.examine_run] at hpair
  obtain ⟨columns, -, cache, hrun⟩ := mem_mapM_run hpair
  rw [ExaminedPair.examine_run] at hrun
  rw [hrun]
  refine ⟨cache, ?_⟩
  dsimp only

theorem examined_isGenericColumn (h : examination ∈ examinations profiler tables)
    {pair : ExaminedPair} (hpair : pair ∈ examination.pairs) :
    isGenericColumn pair.oneColumn.name pair.oneColumn.type = false ∧
      isGenericColumn pair.twoColumn.name pair.twoColumn.type = false := by
  have hcolumns : (pair.oneColumn, pair.twoColumn) ∈
      columnPairs examination.one examination.two := by
    rw [← examined_columns h]
    exact List.mem_map_of_mem hpair
  obtain ⟨hone, htwo⟩ := mem_columnPairs.1 hcolumns
  exact ⟨by simpa using (List.mem_filter.1 hone).2, by simpa using (List.mem_filter.1 htwo).2⟩

end

/-! ### What is found -/

namespace Detection

/-- What detection works with on a catalog. -/
def ofCatalog (profiler : Option Profiler) (catalog : Catalog) : Detection :=
  ⟨profiler, catalog.model.id, catalog.relationshipKeys⟩

variable {profiler : Option Profiler} {catalog : Catalog} {tables : List Table}
  {examination : Examination}

/-- The proposals of an examination are the suggestions of its eligible pairs. -/
theorem mem_proposals_iff (h : examination ∈ examinations profiler tables)
    {suggestion : Suggestion} :
    suggestion ∈ ((ofCatalog profiler catalog).proposals examination).reduceOption ↔
      examination.Suggests catalog suggestion := by
  rw [List.reduceOption_mem_iff, proposals, List.mem_map]
  refine exists_congr fun pair => and_congr_right fun hpair => ?_
  obtain ⟨hone, htwo⟩ := examined_isGenericColumn h hpair
  unfold proposal?
  rw [Option.bind_eq_some_iff]
  refine exists_congr fun inference => ?_
  dsimp only
  rw [Suggestion.ofInference_id, Option.ite_none_right_eq_some, Bool.and_eq_true, Bool.and_eq_true]
  simp only [Option.isNone_iff_eq_none, decide_eq_true_eq, Bool.not_eq_true',
    List.contains_eq_mem, decide_eq_false_iff_not, Option.some.injEq]
  constructor
  · rintro ⟨hinferred, ⟨⟨haccepted, hconfident⟩, hunknown⟩, rfl⟩
    exact ⟨⟨hone, htwo, hinferred, haccepted, hconfident, hunknown⟩, rfl⟩
  · rintro ⟨heligible, rfl⟩
    exact ⟨heligible.inferred,
      ⟨⟨heligible.accepted, heligible.confident⟩, heligible.unknown⟩, rfl⟩

theorem confidence_of_suggests (h : examination ∈ examinations profiler tables)
    {suggestion : Suggestion} (hsuggests : examination.Suggests catalog suggestion) :
    0 ≤ suggestion.confidence ∧ suggestion.confidence ≤ fullScore := by
  obtain ⟨pair, hpair, inference, heligible, rfl⟩ := hsuggests
  obtain ⟨cache, hinferred⟩ := examined_inference h hpair
  rw [heligible.inferred] at hinferred
  obtain ⟨naming, -, hweighs⟩ := inferPair_accepted hinferred.symm heligible.accepted
  exact hweighs.confidence_mem

/-- Every examination has a key of its own where tables differ in their identifiers. -/
theorem nodup_examined_keys (profiler : Option Profiler) (ids : List String)
    (hids : (catalog.tables.map (·.id)).Nodup) :
    ((examinations profiler (catalog.tables.filter fun table => table.isAmong ids)).map
      fun examination => pairKey examination.one examination.two).Nodup := by
  have hkeys := nodup_pairKeys ((List.filter_sublist.map _).nodup hids :
    ((catalog.tables.filter fun table => table.isAmong ids).map (·.id)).Nodup)
  rwa [← examinations_tables profiler, List.map_map] at hkeys

/-- Where tables differ in their identifiers, what is suggested is the best on every two of them. -/
theorem suggestRelationships_eq_mergeSort (ids : List String)
    (hids : (catalog.tables.map (·.id)).Nodup) :
    suggestRelationships profiler catalog ids =
      ((examinations profiler (catalog.tables.filter fun table => table.isAmong ids)).filterMap
        fun examination => Suggestion.bestFound?
          ((ofCatalog profiler catalog).proposals examination)).mergeSort
        Suggestion.shownBefore := by
  have hkeys : (((examinations profiler (catalog.tables.filter fun table =>
      table.isAmong ids)).filterMap (ofCatalog profiler catalog).found?).map Prod.fst).Nodup := by
    rw [List.map_filterMap]
    refine (filterMap_sublist_map (fun examination key hkey => ?_) _).nodup
      (nodup_examined_keys profiler ids hids)
    obtain ⟨entry, hentry, rfl⟩ := Option.map_eq_some_iff.1 hkey
    obtain ⟨best, -, rfl⟩ := Option.map_eq_some_iff.1 hentry
    rfl
  rw [suggestRelationships_eq]
  change ((List.foldl _ [] (List.filterMap (ofCatalog profiler catalog).found? _)).map _).mergeSort
    _ = _
  rw [foldl_setEntry hkeys, List.map_filterMap]
  congr 2
  funext examination
  rw [found?, Option.map_map]
  exact Option.map_id'

/-- What is chosen on two tables is one of the best of what eligible pairs make. -/
theorem bestFound?_proposals_cases (h : examination ∈ examinations profiler tables) :
    (Suggestion.bestFound? ((ofCatalog profiler catalog).proposals examination) = none ∧
      ∀ suggestion, ¬ examination.Suggests catalog suggestion) ∨
    ∃ best, Suggestion.bestFound? ((ofCatalog profiler catalog).proposals examination) = some best ∧
      examination.Suggests catalog best ∧
      ∀ other, examination.Suggests catalog other → other.precedes best = false := by
  rcases Suggestion.bestFound?_cases ((ofCatalog profiler catalog).proposals examination) with
    ⟨hnone, hempty⟩ | ⟨best, hbest, hmem, hleast⟩
  · refine .inl ⟨hnone, fun suggestion hsuggests => ?_⟩
    rw [← mem_proposals_iff h, hempty] at hsuggests
    exact List.not_mem_nil hsuggests
  · refine .inr ⟨best, hbest, (mem_proposals_iff h).1 hmem, fun other hother => ?_⟩
    exact hleast other ((mem_proposals_iff h).2 hother)

theorem suggests_of_bestFound? (h : examination ∈ examinations profiler tables)
    {best : Suggestion}
    (hbest : Suggestion.bestFound? ((ofCatalog profiler catalog).proposals examination) =
      some best) : examination.Suggests catalog best := by
  rcases bestFound?_proposals_cases h with
    ⟨hnone, -⟩ | ⟨_, hsome, hsuggests, -⟩
  · rw [hnone] at hbest
    cases hbest
  · rw [hsome] at hbest
    exact Option.some.inj hbest ▸ hsuggests

/-- What is found was suggested by one of the examinations. -/
theorem exists_suggests_of_mem {ids : List String} {suggestion : Suggestion}
    (h : suggestion ∈ suggestRelationships profiler catalog ids) :
    ∃ examination ∈ examinations profiler (catalog.tables.filter fun table => table.isAmong ids),
      examination.Suggests catalog suggestion := by
  rw [suggestRelationships_eq, List.mem_mergeSort, List.mem_map] at h
  obtain ⟨entry, hentry, rfl⟩ := h
  obtain ⟨examination, hexamination, hentry⟩ := List.mem_filterMap.1
    ((mem_of_mem_foldl_setEntry hentry).resolve_left List.not_mem_nil)
  obtain ⟨best, hbest, rfl⟩ := Option.map_eq_some_iff.1 hentry
  exact ⟨examination, hexamination, suggests_of_bestFound? hexamination hbest⟩

theorem isBetween_of_suggests {suggestion : Suggestion}
    (h : examination.Suggests catalog suggestion) (one two : Table) :
    suggestion.isBetween one two = true ↔
      pairKey examination.one examination.two = pairKey one two := by
  obtain ⟨pair, -, inference, -, rfl⟩ := h
  exact Suggestion.isBetween_ofInference ..

/-- Between two tables just that is found that is chosen on them. -/
theorem filter_isBetween {ids : List String} (hids : (catalog.tables.map (·.id)).Nodup)
    (h : examination ∈
      examinations profiler (catalog.tables.filter fun table => table.isAmong ids)) :
    (suggestRelationships profiler catalog ids).filter
        (·.isBetween examination.one examination.two) =
      (Suggestion.bestFound? ((ofCatalog profiler catalog).proposals examination)).toList := by
  have hperm := (List.mergeSort_perm ((examinations profiler (catalog.tables.filter fun table =>
    table.isAmong ids)).filterMap fun examination => Suggestion.bestFound?
      ((ofCatalog profiler catalog).proposals examination)) Suggestion.shownBefore).filter
        (·.isBetween examination.one examination.two)
  rw [← suggestRelationships_eq_mergeSort ids hids, filter_filterMap_of_key
    (nodup_examined_keys profiler ids hids) h fun other hother suggestion hsuggestion =>
      isBetween_of_suggests (suggests_of_bestFound? hother hsuggestion) _ _] at hperm
  cases hchosen : Suggestion.bestFound? ((ofCatalog profiler catalog).proposals examination) with
  | none =>
    rw [hchosen] at hperm
    exact hperm.eq_nil
  | some best =>
    rw [hchosen] at hperm
    exact List.perm_singleton.1 hperm

end Detection

/-! ### The order of what is found -/

theorem Suggestion.shownBefore_iff {one two : Suggestion} :
    one.shownBefore two = true ↔
      two.confidence < one.confidence ∨ (two.confidence = one.confidence ∧ one.id ≤ two.id) := by
  have hid : Ord.compare one.id two.id = .gt ↔ two.id < one.id := compare_gt_iff_gt
  rw [shownBefore, bne_iff_ne, ne_eq, Ordering.then_eq_gt, Int.compare_eq_gt, compare_eq_iff_eq, hid]
  grind

theorem pairwise_shownBefore (suggestions : List Suggestion) :
    (suggestions.mergeSort Suggestion.shownBefore).Pairwise fun one two =>
      two.confidence < one.confidence ∨ (two.confidence = one.confidence ∧ one.id ≤ two.id) := by
  refine (List.pairwise_mergeSort ?_ ?_ suggestions).imp Suggestion.shownBefore_iff.1
  · intro one two three hfirst hsecond
    rw [Suggestion.shownBefore_iff] at *
    grind
  · intro one two
    rw [Bool.or_eq_true, Suggestion.shownBefore_iff, Suggestion.shownBefore_iff]
    grind

/-- Detection examines every two included tables once, on all pairs of their columns that may be
joined. Where any pair is eligible, it finds just one suggestion between the two tables, one of
the best that eligible pairs make; otherwise it finds none. Suggestions with more confidence come
first, those with equal confidence by their identity. -/
theorem suggestRelationships_best (profiler : Option Profiler) (catalog : Catalog)
    (ids : List String) (hids : (catalog.tables.map (·.id)).Nodup) :
    let included := catalog.tables.filter fun table => table.isAmong ids
    let examined := examinations profiler included
    let found := suggestRelationships profiler catalog ids
    examined.map (fun examination => (examination.one, examination.two)) = tablePairs included ∧
    (∀ examination ∈ examined,
      examination.pairs.map (fun pair => (pair.oneColumn, pair.twoColumn)) =
        columnPairs examination.one examination.two ∧
      (∀ suggestion, examination.Suggests catalog suggestion →
        ∃ best, found.filter (·.isBetween examination.one examination.two) = [best] ∧
          examination.Suggests catalog best ∧
          ∀ other, examination.Suggests catalog other → other.precedes best = false) ∧
      ((∀ suggestion, ¬ examination.Suggests catalog suggestion) →
        found.filter (·.isBetween examination.one examination.two) = [])) ∧
    (∀ suggestion ∈ found, ∃ examination ∈ examined,
      suggestion.isBetween examination.one examination.two) ∧
    found.Pairwise (fun one two =>
      two.confidence < one.confidence ∨ (two.confidence = one.confidence ∧ one.id ≤ two.id)) ∧
    ∀ suggestion ∈ found, 0 ≤ suggestion.confidence ∧ suggestion.confidence ≤ 99 := by
  intro included examined found
  refine ⟨examinations_tables profiler included, fun examination h => ?_, fun suggestion hfound => ?_,
    pairwise_shownBefore _, fun suggestion hfound => ?_⟩
  · refine ⟨examined_columns h, fun suggestion hsuggests => ?_, fun hnone => ?_⟩
    · rcases Detection.bestFound?_proposals_cases h with
        ⟨-, hnone⟩ | ⟨best, hchosen, hbest⟩
      · exact absurd hsuggests (hnone suggestion)
      · refine ⟨best, ?_, hbest⟩
        rw [Detection.filter_isBetween hids h, hchosen]
        rfl
    · rcases Detection.bestFound?_proposals_cases h with
        ⟨hchosen, -⟩ | ⟨best, -, hsuggests, -⟩
      · rw [Detection.filter_isBetween hids h, hchosen]
        rfl
      · exact absurd hsuggests (hnone best)
  · obtain ⟨examination, h, hsuggests⟩ := Detection.exists_suggests_of_mem hfound
    exact ⟨examination, h, (Detection.isBetween_of_suggests hsuggests _ _).2 rfl⟩
  · obtain ⟨examination, h, hsuggests⟩ := Detection.exists_suggests_of_mem hfound
    exact Detection.confidence_of_suggests h hsuggests

def ordersTable : Table :=
  ⟨"orders", "orders", "orders", none, none, none, postgresEngine, some "orders", true,
    none, none, none, none, [⟨"id", "int"⟩, ⟨"user_id", "int"⟩]⟩

def usersTable : Table :=
  ⟨"users", "users", "users", none, none, none, postgresEngine, some "users", true,
    none, none, none, none, [⟨"id", "int"⟩]⟩

def shopCatalog : Catalog :=
  ⟨⟨"shop", "main", "Shop", true, none, none⟩, [ordersTable, usersTable], []⟩

/-- What names say on the two tables of the shop: the two bare identifiers are hardly worth a
mention, the reference is. -/
def shopExamination : Examination where
  one := ordersTable
  two := usersTable
  pairs :=
    [⟨⟨"id", "int"⟩, ⟨"id", "int"⟩,
        some ⟨some .oneToOne, .weak, 35, [.primaryKey, .sameType], none, none⟩⟩,
      ⟨⟨"user_id", "int"⟩, ⟨"id", "int"⟩,
        some ⟨some .manyToOne, .strong, 80,
          [.foreignKey, .tableReference, .primaryKey, .sameType], none, none⟩⟩]

theorem examinations_shop : examinations none shopCatalog.tables = [shopExamination] := by
  decide +kernel

theorem suggestRelationships_best_shop :
    ∃ best, (suggestRelationships none shopCatalog []).filter
        (·.isBetween ordersTable usersTable) = [best] ∧
      best.id = "orders:user_id|users:id" ∧ best.confidence = 80 := by
  obtain ⟨-, hbest, -, -, -⟩ := suggestRelationships_best none shopCatalog [] (by decide)
  have hexamined : shopExamination ∈ examinations none
      (shopCatalog.tables.filter fun table => table.isAmong []) := by
    rw [show shopCatalog.tables.filter (fun table => table.isAmong []) = shopCatalog.tables from rfl,
      examinations_shop]
    exact List.mem_singleton_self _
  have hsuggests : shopExamination.Suggests shopCatalog
      (.ofInference "shop" ordersTable ⟨"user_id", "int"⟩ usersTable ⟨"id", "int"⟩
        ⟨some .manyToOne, .strong, 80, [.foreignKey, .tableReference, .primaryKey, .sameType], none,
          none⟩) :=
    ⟨⟨⟨"user_id", "int"⟩, ⟨"id", "int"⟩, _⟩, by simp [shopExamination], _,
      ⟨by decide +kernel, by decide +kernel, rfl, rfl, by decide, List.not_mem_nil⟩, rfl⟩
  obtain ⟨best, hfilter, ⟨pair, hpair, inference, heligible, rfl⟩, -⟩ :=
    (hbest shopExamination hexamined).2.1 _ hsuggests
  refine ⟨_, hfilter, ?_⟩
  have hconfident := heligible.confident
  simp only [shopExamination, List.mem_cons, List.not_mem_nil, or_false] at hpair
  rcases hpair with rfl | rfl
  · cases heligible.inferred
    exact absurd hconfident (by decide)
  · cases heligible.inferred
    exact ⟨by decide +kernel, rfl⟩

end SemanticLayer
