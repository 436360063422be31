import SemanticLayer.Proofs.Inference.Ranking

/-!
What is looked at when relationships are detected. Every two tables are examined once: on each
pair of their columns that may be joined something is inferred, with the profiles that have been
asked for so far. What is suggested depends on nothing else.
-/

namespace SemanticLayer

/-- Two columns with what was inferred on them. -/
structure ExaminedPair where
  oneColumn : Column
  twoColumn : Column
  inference : Option PairInference
  deriving DecidableEq

/-- Two tables with what was inferred on their columns. -/
structure Examination where
  one : Table
  two : Table
  pairs : List ExaminedPair
  deriving DecidableEq

/-- Every table with each one after it. -/
def tablePairs : List Table → List (Table × Table)
  | [] => []
  | one :: rest => rest.map (one, ·) ++ tablePairs rest

/-- The pairs of columns of two tables that may be joined. -/
def columnPairs (one two : Table) : List (Column × Column) :=
  (Detection.joinColumns one).flatMap fun oneColumn =>
    (Detection.joinColumns two).map (oneColumn, ·)

def ExaminedPair.examine (profiler : Option Profiler) (one two : Table) (columns : Column × Column) :
    StateM ProfileCache ExaminedPair := do
  let inference ← inferPair profiler one columns.1 two columns.2 true
  return ⟨columns.1, columns.2, inference⟩

def Examination.examine (profiler : Option Profiler) (tables : Table × Table) :
    StateM ProfileCache Examination := do
  let pairs ← (columnPairs tables.1 tables.2).mapM
    (ExaminedPair.examine profiler tables.1 tables.2)
  return ⟨tables.1, tables.2, pairs⟩

/-- What is found out about every two tables when relationships are detected, one pair of columns
after another. -/
def examinations (profiler : Option Profiler) (tables : List Table) : List Examination :=
  (((tablePairs tables).mapM (Examination.examine profiler)).run ProfileCache.empty).1

theorem mem_tablePairs {tables : List Table} {one two : Table} :
    (one, two) ∈ tablePairs tables ↔ [one, two].Sublist tables := by
  induction tables with
  | nil => simp [tablePairs]
  | cons head rest ih =>
    rw [tablePairs, List.mem_append, ih, List.sublist_cons_iff]
    refine or_comm.trans (or_congr_right ?_)
    simp only [List.mem_map, Prod.mk.injEq, List.cons.injEq]
    constructor
    · rintro ⟨other, hother, rfl, rfl⟩
      exact ⟨[other], ⟨rfl, rfl⟩, List.singleton_sublist.2 hother⟩
    · rintro ⟨others, ⟨rfl, rfl⟩, hsublist⟩
      exact ⟨two, List.singleton_sublist.1 hsublist, rfl, rfl⟩

theorem mem_columnPairs {one two : Table} {columns : Column × Column} :
    columns ∈ columnPairs one two ↔
      columns.1 ∈ Detection.joinColumns one ∧ columns.2 ∈ Detection.joinColumns two := by
  obtain ⟨oneColumn, twoColumn⟩ := columns
  simp only [columnPairs, List.mem_flatMap, List.mem_map, Prod.mk.injEq]
  constructor
  · rintro ⟨_, hone, _, htwo, rfl, rfl⟩
    exact ⟨hone, htwo⟩
  · rintro ⟨hone, htwo⟩
    exact ⟨oneColumn, hone, twoColumn, htwo, rfl, rfl⟩

/-! ### Loops that only read -/

section

variable {α β γ σ : Type}

/-- A loop whose steps put something in that depends on one item alone. -/
theorem foldlM_map_eq (f : α → StateM σ β) (g : γ → β → γ) (items : List α) (start : γ) :
    items.foldlM (fun done item => g done <$> f item) start =
      (fun results => results.foldl g start) <$> items.mapM f := by
  induction items generalizing start with
  | nil => simp
  | cons item rest ih => simp [ih]

/-- A loop of loops is one loop over the pairs. -/
theorem foldlM_foldlM_eq (items : List α) (others : List β) (f : γ → α → β → StateM σ γ)
    (start : γ) :
    items.foldlM (fun done item => others.foldlM (fun done other => f done item other) done) start =
      (items.flatMap fun item => others.map (item, ·)).foldlM
        (fun done pair => f done pair.1 pair.2) start := by
  induction items generalizing start with
  | nil => rfl
  | cons item rest ih => simp [ih, List.foldlM_append, List.foldlM_map]

end

/-! ### What is suggested from it -/

namespace Detection

variable (detection : Detection)

/-- The suggestion that an examined pair of columns makes, if it makes one. -/
def proposal? (one two : Table) (pair : ExaminedPair) : Option Suggestion :=
  pair.inference.bind fun inference =>
    let suggestion :=
      Suggestion.ofInference detection.modelId one pair.oneColumn two pair.twoColumn inference
    if inference.rejection.isNone &&
        requiredConfidence inference.cardinality inference.strength ≤ inference.confidence &&
        !detection.known.contains suggestion.id then
      some suggestion
    else none

/-- What the pairs of columns of two tables suggest. -/
def proposals (examination : Examination) : List (Option Suggestion) :=
  examination.pairs.map (detection.proposal? examination.one examination.two)

/-- Two tables, in the order of their identifiers. -/
def pairKey (one two : Table) : String × String :=
  if two.id < one.id then (two.id, one.id) else (one.id, two.id)

/-- The best suggestion on two tables, under the tables. -/
def found? (examination : Examination) : Option ((String × String) × Suggestion) :=
  (Suggestion.bestFound? (detection.proposals examination)).map
    (pairKey examination.one examination.two, ·)

theorem suggest?_eq (one : Table) (oneColumn : Column) (two : Table) (twoColumn : Column) :
    detection.suggest? one oneColumn two twoColumn =
      detection.proposal? one two <$>
        ExaminedPair.examine detection.profiler one two (oneColumn, twoColumn) := by
  unfold suggest? ExaminedPair.examine
  rw [map_bind]
  refine bind_congr fun inference => ?_
  cases inference with
  | none => rfl
  | some inference => rfl

theorem bestByKey_eq (one two : Table) :
    detection.bestByKey one two =
      (fun pairs => (pairs.map (detection.proposal? one two)).foldl Suggestion.enter []) <$>
        (columnPairs one two).mapM (ExaminedPair.examine detection.profiler one two) := by
  have hstep : ∀ (entries : List (String × Suggestion)) (oneColumn twoColumn : Column),
      (do return Suggestion.enter entries (← detection.suggest? one oneColumn two twoColumn)) =
        (fun pair => Suggestion.enter entries (detection.proposal? one two pair)) <$>
          ExaminedPair.examine detection.profiler one two (oneColumn, twoColumn) := by
    intro entries oneColumn twoColumn
    rw [suggest?_eq, bind_pure_comp, Functor.map_map]
  unfold bestByKey
  simp only [hstep]
  rw [foldlM_foldlM_eq, foldlM_map_eq (ExaminedPair.examine detection.profiler one two)
    (fun entries pair => Suggestion.enter entries (detection.proposal? one two pair))]
  simp only [List.foldl_map]
  rfl

theorem best?_eq (one two : Table) :
    detection.best? one two =
      (fun examination => Suggestion.bestFound? (detection.proposals examination)) <$>
        Examination.examine detection.profiler (one, two) := by
  unfold best? Examination.examine
  rw [bestByKey_eq, bind_pure_comp, bind_pure_comp, Functor.map_map, Functor.map_map]
  rfl

theorem bestWith_eq (one : Table) (others : List Table) :
    detection.bestWith one others =
      (fun examinations => examinations.filterMap detection.found?) <$>
        (others.map (one, ·)).mapM (Examination.examine detection.profiler) := by
  induction others with
  | nil => rfl
  | cons two rest ih =>
    unfold bestWith
    rw [ih, best?_eq, List.map_cons, List.mapM_cons, bind_map_left, map_bind]
    unfold Examination.examine
    rw [bind_assoc, bind_assoc]
    refine bind_congr fun pairs => ?_
    rw [pure_bind, pure_bind, bind_map_left, map_bind]
    refine bind_congr fun examinations => ?_
    rw [map_pure, List.filterMap_cons, found?]
    cases Suggestion.bestFound? (detection.proposals ⟨one, two, pairs⟩) <;> rfl

theorem bestOfAll_eq (tables : List Table) :
    detection.bestOfAll tables =
      (fun examinations => examinations.filterMap detection.found?) <$>
        (tablePairs tables).mapM (Examination.examine detection.profiler) := by
  induction tables with
  | nil => rfl
  | cons one rest ih =>
    unfold bestOfAll
    rw [ih, bestWith_eq, tablePairs, List.mapM_append, bind_map_left, map_bind]
    refine bind_congr fun first => ?_
    rw [bind_map_left, map_bind]
    refine bind_congr fun others => ?_
    rw [map_pure, List.filterMap_append]

end Detection

/-- What is suggested is the best on every two tables that were examined. -/
theorem suggestRelationships_eq (profiler : Option Profiler) (catalog : Catalog)
    (ids : List String) :
    suggestRelationships profiler catalog ids =
      let detection : Detection := ⟨profiler, catalog.model.id, catalog.relationshipKeys⟩
      let entries := (examinations profiler
        (catalog.tables.filter fun table => table.isAmong ids)).filterMap detection.found?
      ((entries.foldl (fun done entry => setEntry done entry.1 entry.2) []).map Prod.snd).mergeSort
        Suggestion.shownBefore := by
  unfold suggestRelationships
  dsimp only
  rw [Detection.bestOfAll_eq]
  rfl

/-! ### What was examined -/

theorem mapM_run_fst {α β σ : Type} (f : α → StateM σ β) (read : β → α)
    (h : ∀ a state, read ((f a).run state).1 = a) (items : List α) (state : σ) :
    ((items.mapM f).run state).1.map read = items := by
  induction items generalizing state with
  | nil => rfl
  | cons item rest ih =>
    rw [List.mapM_cons]
    exact congrArg₂ List.cons (h item state) (ih _)

/-- Every two tables are examined once, and on them all pairs of their columns that may be joined.
-/
theorem examinations_tables (profiler : Option Profiler) (tables : List Table) :
    (examinations profiler tables).map (fun examination => (examination.one, examination.two)) =
      tablePairs tables :=
  mapM_run_fst _ _ (fun _ _ => rfl) _ _

end SemanticLayer
