import SemanticLayer.Proofs.Entries
import SemanticLayer.Proofs.Inference.Detection

/-!
Profiles that are remembered. Detection asks for the profile of a column and for the overlap of two
columns only once, and tells columns of a table apart by their names in lower case. What it suggests
is what it would suggest if it asked anew each time, provided that the source of profiles does not
tell columns apart whose names differ in letter case alone.
-/

namespace SemanticLayer

/-! ### Asking anew -/

/-- The profiles of two columns, each of them asked for anew. -/
def PairProfile.afresh (profiler : Profiler) (one : Table) (oneColumn : Column) (two : Table)
    (twoColumn : Column) : Except ProfileFault PairProfile := do
  let first ← profiler.column one oneColumn.name
  let second ← profiler.column two twoColumn.name
  let overlap ← profiler.overlap one oneColumn.name two twoColumn.name
  return ⟨first, second, overlap⟩

def PairProfile.afresh? (profiler : Option Profiler) (one : Table) (oneColumn : Column)
    (two : Table) (twoColumn : Column) : Option PairProfile :=
  match profiler with
  | none => none
  | some profiler =>
    if canProfile one two then (afresh profiler one oneColumn two twoColumn).toOption else none

/-- What is inferred on two columns from profiles that are asked for anew. -/
def inferAfresh (profiler : Option Profiler) (one : Table) (oneColumn : Column) (two : Table)
    (twoColumn : Column) (namingRequired : Bool) : Option PairInference :=
  match NamingEvidence.ofNames ⟨one.name, oneColumn.name⟩ ⟨two.name, twoColumn.name⟩,
      namingRequired with
  | none, true => none
  | found, _ =>
    let naming := found.getD .nothing
    if DataKind.ofType oneColumn.type != DataKind.ofType twoColumn.type then
      some
        { cardinality := naming.cardinality, strength := naming.strength, confidence := 0,
          reasons := naming.reasons, rejection := some .typeMismatch, overlap := none }
    else
      let shared := naming.strength != .strong &&
        (isSharedKey oneColumn.name || isSharedKey twoColumn.name)
      match PairProfile.afresh? profiler one oneColumn two twoColumn with
      | none => some (.ofNaming naming shared)
      | some profile => some (.ofProfile naming shared profile)

def Examination.afresh (profiler : Option Profiler) (tables : Table × Table) : Examination :=
  ⟨tables.1, tables.2, (columnPairs tables.1 tables.2).map fun columns =>
    ⟨columns.1, columns.2, inferAfresh profiler tables.1 columns.1 tables.2 columns.2 true⟩⟩

/-- The relationships that the catalog lacks, detected without remembering profiles. -/
def suggestAfresh (profiler : Option Profiler) (catalog : Catalog) (ids : List String) :
    List Suggestion :=
  let detection : Detection := ⟨profiler, catalog.model.id, catalog.relationshipKeys⟩
  let tables := catalog.tables.filter fun table => table.isAmong ids
  let found := ((tablePairs tables).map (Examination.afresh profiler)).filterMap detection.found?
  let byPair := found.foldl (fun entries entry => setEntry entries entry.1 entry.2) []
  (byPair.map Prod.snd).mergeSort Suggestion.shownBefore

theorem mem_of_mem_tablePairs {tables : List Table} {one two : Table}
    (h : (one, two) ∈ tablePairs tables) : one ∈ tables ∧ two ∈ tables := by
  have hsubset := (mem_tablePairs.1 h).subset
  exact ⟨hsubset (by simp), hsubset (by simp)⟩

/-- The source of profiles does not tell apart columns of a table that may be joined and whose names
are the same in lower case. -/
structure Profiler.FoldsCase (profiler : Profiler) (tables : List Table) : Prop where
  column : ∀ table ∈ tables, ∀ c ∈ Detection.joinColumns table,
    ∀ d ∈ Detection.joinColumns table, Text.lower c.name = Text.lower d.name →
      profiler.column table c.name = profiler.column table d.name
  overlap : ∀ one two, (one, two) ∈ tablePairs tables → ∀ c ∈ columnPairs one two,
    ∀ d ∈ columnPairs one two, Text.lower c.1.name = Text.lower d.1.name →
      Text.lower c.2.name = Text.lower d.2.name →
        profiler.overlap one c.1.name two c.2.name = profiler.overlap one d.1.name two d.2.name

/-- No source does where such columns have one name. -/
theorem Profiler.foldsCase_of_names (profiler : Profiler) {tables : List Table}
    (h : ∀ table ∈ tables, ∀ c ∈ Detection.joinColumns table,
      ∀ d ∈ Detection.joinColumns table, Text.lower c.name = Text.lower d.name → c.name = d.name) :
    profiler.FoldsCase tables where
  column table htable c hc d hd hname := by
    rw [h table htable c hc d hd hname]
  overlap one two htables c hc d hd hone htwo := by
    obtain ⟨hfirst, hsecond⟩ := mem_of_mem_tablePairs htables
    obtain ⟨hcOne, hcTwo⟩ := mem_columnPairs.1 hc
    obtain ⟨hdOne, hdTwo⟩ := mem_columnPairs.1 hd
    rw [h one hfirst _ hcOne _ hdOne hone, h two hsecond _ hcTwo _ hdTwo htwo]

/-! ### Computations that return the same from any state -/

section

variable {α β σ : Type} {inv : σ → Prop}

/-- Wherever the invariant holds, the computation returns the value and keeps the invariant. -/
def Returns (inv : σ → Prop) (x : StateM σ α) (a : α) : Prop :=
  ∀ state, inv state → (x.run state).1 = a ∧ inv (x.run state).2

namespace Returns

theorem pure (a : α) : Returns inv (pure a) a :=
  fun _ h => ⟨rfl, h⟩

theorem bind {x : StateM σ α} {f : α → StateM σ β} {a : α} {b : β} (hx : Returns inv x a)
    (hf : Returns inv (f a) b) : Returns inv (x >>= f) b := by
  intro state hstate
  obtain ⟨hvalue, hnext⟩ := hx state hstate
  have hrest := hf _ hnext
  rw [← hvalue] at hrest
  exact hrest

theorem map {x : StateM σ α} {a : α} (f : α → β) (hx : Returns inv x a) :
    Returns inv (f <$> x) (f a) := by
  intro state hstate
  obtain ⟨hvalue, hnext⟩ := hx state hstate
  exact ⟨congrArg f hvalue, hnext⟩

theorem mapM {f : α → StateM σ β} {g : α → β} {items : List α}
    (h : ∀ item ∈ items, Returns inv (f item) (g item)) :
    Returns inv (items.mapM f) (items.map g) := by
  induction items with
  | nil => exact pure []
  | cons item rest ih =>
    rw [List.mapM_cons]
    refine (h item List.mem_cons_self).bind ?_
    refine (ih fun other hother => h other (List.mem_cons_of_mem _ hother)).bind ?_
    exact pure (g item :: rest.map g)

end Returns

/-- A computation that may fail goes on with what its first step returned. -/
theorem Returns.bindExcept {ε : Type} {x : ExceptT ε (StateM σ) α} {f : α → ExceptT ε (StateM σ) β}
    {result : Except ε α} {next : α → Except ε β} (hx : Returns inv x.run result)
    (hf : ∀ a, Returns inv (f a).run (next a)) : Returns inv (x >>= f).run (result >>= next) := by
  rw [ExceptT.run_bind]
  refine hx.bind ?_
  cases result with
  | ok a => exact hf a
  | error e => exact .pure _

end

/-! ### What is remembered -/

theorem mem_of_valueOf? {κ α : Type} [BEq κ] [LawfulBEq κ] {entries : List (κ × α)} {key : κ}
    {value : α} (h : valueOf? entries key = some value) : (key, value) ∈ entries := by
  obtain ⟨entry, hentry, rfl⟩ := Option.map_eq_some_iff.1 h
  have hkey : entry.1 = key := by simpa using List.find?_some hentry
  rw [← hkey]
  exact List.mem_of_find?_eq_some hentry

namespace ProfileCache

variable {cache : ProfileCache} {profiler : Profiler} {tables : List Table}

/-- Every remembered profile is one that the source has given for columns that may be joined, of
tables in their order. -/
structure Holds (profiler : Profiler) (tables : List Table) (cache : ProfileCache) : Prop where
  column : ∀ key profile, (key, profile) ∈ cache.columns →
    ∃ table ∈ tables, ∃ column ∈ Detection.joinColumns table,
      key = .make table.id column.name ∧ profiler.column table column.name = .ok profile
  overlap : ∀ keys profile, (keys, profile) ∈ cache.overlaps →
    ∃ one two, (one, two) ∈ tablePairs tables ∧ ∃ columns ∈ columnPairs one two,
      keys = (.make one.id columns.1.name, .make two.id columns.2.name) ∧
        profiler.overlap one columns.1.name two columns.2.name = .ok profile

theorem holds_empty : Holds profiler tables empty where
  column := by
    rintro _ _ ⟨⟩
  overlap := by
    rintro _ _ ⟨⟩

theorem Holds.counted {α : Type} (h : cache.Holds profiler tables) (found : Option α) :
    (cache.counted found).Holds profiler tables := by
  unfold ProfileCache.counted
  split
  · exact ⟨h.column, h.overlap⟩
  · exact h

theorem Holds.putColumn (h : cache.Holds profiler tables) {table : Table} {column : Column}
    {profile : ColumnProfile} (htable : table ∈ tables)
    (hcolumn : column ∈ Detection.joinColumns table)
    (hprofile : profiler.column table column.name = .ok profile) :
    (cache.putColumn (.make table.id column.name) profile).Holds profiler tables where
  column key value hmem := by
    rcases mem_of_mem_setEntry hmem with heq | hmem
    · obtain ⟨rfl, rfl⟩ := Prod.mk.inj heq
      exact ⟨table, htable, column, hcolumn, rfl, hprofile⟩
    · exact h.column key value hmem
  overlap := h.overlap

theorem Holds.putOverlap (h : cache.Holds profiler tables) {one two : Table}
    {columns : Column × Column} {profile : OverlapProfile}
    (htables : (one, two) ∈ tablePairs tables) (hcolumns : columns ∈ columnPairs one two)
    (hprofile : profiler.overlap one columns.1.name two columns.2.name = .ok profile) :
    (cache.putOverlap (.make one.id columns.1.name) (.make two.id columns.2.name) profile).Holds
      profiler tables where
  column := h.column
  overlap keys value hmem := by
    rcases mem_of_mem_setEntry hmem with heq | hmem
    · obtain ⟨rfl, rfl⟩ := Prod.mk.inj heq
      exact ⟨one, two, htables, columns, hcolumns, rfl, hprofile⟩
    · exact h.overlap keys value hmem

end ProfileCache

/-! ### Looking up -/

section

variable {profiler : Profiler} {tables : List Table} {cache : ProfileCache}

/-- Two tables are paired in one order only, if every table is listed once. -/
theorem not_mem_tablePairs_swap (hids : (tables.map Table.id).Nodup) {one two : Table}
    (h : (one, two) ∈ tablePairs tables) : (two, one) ∉ tablePairs tables := by
  intro hswap
  have hkey : Detection.pairKey one two = Detection.pairKey two one :=
    Detection.pairKey_eq_iff.2 (.inr ⟨rfl, rfl⟩)
  have heq := List.inj_on_of_nodup_map (Detection.nodup_pairKeys hids) h hswap hkey
  obtain ⟨rfl, -⟩ := Prod.mk.inj heq
  simpa using (mem_tablePairs.1 h).nodup (List.Nodup.of_map _ hids)

/-- A profile that is remembered for a column is the one that the source gives for it. -/
theorem ProfileCache.Holds.column?_eq (hids : (tables.map Table.id).Nodup)
    (hfolds : profiler.FoldsCase tables) (h : cache.Holds profiler tables) {table : Table}
    {column : Column} {profile : ColumnProfile} (htable : table ∈ tables)
    (hcolumn : column ∈ Detection.joinColumns table)
    (hfound : cache.column? (.make table.id column.name) = some profile) :
    profiler.column table column.name = .ok profile := by
  obtain ⟨other, hother, more, hmore, hkey, hprofile⟩ := h.column _ _ (mem_of_valueOf? hfound)
  obtain ⟨hid, hname⟩ := ColumnKey.mk.inj hkey
  obtain rfl := List.inj_on_of_nodup_map hids htable hother hid
  rw [hfolds.column table htable column hcolumn more hmore hname, hprofile]

/-- An overlap that is remembered for two columns is the one that the source gives for them. None is
remembered for the other order, since the tables are paired in one order only. -/
theorem ProfileCache.Holds.overlap?_eq (hids : (tables.map Table.id).Nodup)
    (hfolds : profiler.FoldsCase tables) (h : cache.Holds profiler tables) {one two : Table}
    {columns : Column × Column} {profile : OverlapProfile}
    (htables : (one, two) ∈ tablePairs tables) (hcolumns : columns ∈ columnPairs one two)
    (hfound : cache.overlap? (.make one.id columns.1.name) (.make two.id columns.2.name) =
      some profile) :
    profiler.overlap one columns.1.name two columns.2.name = .ok profile := by
  obtain ⟨hone, htwo⟩ := mem_of_mem_tablePairs htables
  rcases Option.or_eq_some_iff.1 hfound with hdirect | ⟨-, hreversed⟩
  · obtain ⟨three, four, hothers, more, hmore, hkeys, hprofile⟩ :=
      h.overlap _ _ (mem_of_valueOf? hdirect)
    obtain ⟨hthree, hfour⟩ := mem_of_mem_tablePairs hothers
    obtain ⟨hfirst, hsecond⟩ := Prod.mk.inj hkeys
    obtain ⟨hid, hname⟩ := ColumnKey.mk.inj hfirst
    obtain ⟨hid', hname'⟩ := ColumnKey.mk.inj hsecond
    obtain rfl := List.inj_on_of_nodup_map hids hone hthree hid
    obtain rfl := List.inj_on_of_nodup_map hids htwo hfour hid'
    rw [hfolds.overlap one two htables columns hcolumns more hmore hname hname', hprofile]
  · obtain ⟨stored, hstored, -⟩ := Option.map_eq_some_iff.1 hreversed
    obtain ⟨three, four, hothers, more, -, hkeys, -⟩ := h.overlap _ _ (mem_of_valueOf? hstored)
    obtain ⟨hthree, hfour⟩ := mem_of_mem_tablePairs hothers
    obtain ⟨hfirst, hsecond⟩ := Prod.mk.inj hkeys
    obtain rfl := List.inj_on_of_nodup_map hids htwo hthree (ColumnKey.mk.inj hfirst).1
    obtain rfl := List.inj_on_of_nodup_map hids hone hfour (ColumnKey.mk.inj hsecond).1
    exact absurd hothers (not_mem_tablePairs_swap hids htables)

/-- Asks only if nothing is remembered, and remembers what it is told. -/
def Profiling.remember {α : Type} (find : ProfileCache → Option α)
    (put : ProfileCache → α → ProfileCache) (asked : Except ProfileFault α) : Profiling α := do
  let found := find (← get)
  modify fun cache => cache.counted found
  match found with
  | some profile => return profile
  | none =>
    let profile ← ExceptT.mk (pure asked)
    modify fun cache => put cache profile
    return profile

/-- What is told is what is remembered, or else what the source is asked for. -/
theorem Profiling.remember_run {α : Type} (find : ProfileCache → Option α)
    (put : ProfileCache → α → ProfileCache) (asked : Except ProfileFault α) (cache : ProfileCache) :
    (remember find put asked).run.run cache =
      match find cache, asked with
      | some profile, _ => (.ok profile, cache.counted (some profile))
      | none, .ok profile => (.ok profile, put (cache.counted (none : Option α)) profile)
      | none, .error fault => (.error fault, cache.counted (none : Option α)) := by
  have hrun : (remember find put asked).run.run cache =
      (match find cache with
        | some profile => pure profile
        | none => do
          let profile ← ExceptT.mk (pure asked)
          modify fun cache => put cache profile
          return profile : Profiling α).run.run (cache.counted (find cache)) := rfl
  rw [hrun]
  cases find cache with
  | some profile => rfl
  | none => cases asked <;> rfl

/-- Where all that is remembered is what would be told, asking only once makes no difference. -/
theorem Profiling.remember_returns {α : Type} {inv : ProfileCache → Prop}
    {find : ProfileCache → Option α} {put : ProfileCache → α → ProfileCache}
    {asked : Except ProfileFault α}
    (hfind : ∀ cache profile, inv cache → find cache = some profile → asked = .ok profile)
    (hcounted : ∀ cache (found : Option α), inv cache → inv (cache.counted found))
    (hput : ∀ cache profile, inv cache → asked = .ok profile → inv (put cache profile)) :
    Returns inv (remember find put asked).run asked := by
  intro cache hcache
  have hmissed := hcounted cache (none : Option α) hcache
  rw [remember_run]
  cases hfound : find cache with
  | some profile =>
    exact ⟨(hfind cache profile hcache hfound).symm, hcounted cache (some profile) hcache⟩
  | none =>
    cases asked with
    | ok profile => exact ⟨rfl, hput _ profile hmissed rfl⟩
    | error fault => exact ⟨rfl, hmissed⟩

/-! ### The steps of detection -/

theorem Profiler.columnCached_eq (table : Table) (column : String) :
    profiler.columnCached table column =
      Profiling.remember (fun cache => cache.column? (.make table.id column))
        (fun cache => cache.putColumn (.make table.id column)) (profiler.column table column) := by
  refine bind_congr fun cache => bind_congr fun _ => ?_
  dsimp only
  cases cache.column? (.make table.id column) <;> rfl

theorem Profiler.overlapCached_eq (left : Table) (leftColumn : String) (right : Table)
    (rightColumn : String) :
    profiler.overlapCached left leftColumn right rightColumn =
      Profiling.remember
        (fun cache => cache.overlap? (.make left.id leftColumn) (.make right.id rightColumn))
        (fun cache => cache.putOverlap (.make left.id leftColumn) (.make right.id rightColumn))
        (profiler.overlap left leftColumn right rightColumn) := by
  refine bind_congr fun cache => bind_congr fun _ => ?_
  dsimp only
  cases cache.overlap? (.make left.id leftColumn) (.make right.id rightColumn) <;> rfl

theorem Profiler.columnCached_returns (hids : (tables.map Table.id).Nodup)
    (hfolds : profiler.FoldsCase tables) {table : Table} {column : Column}
    (htable : table ∈ tables) (hcolumn : column ∈ Detection.joinColumns table) :
    Returns (ProfileCache.Holds profiler tables) (profiler.columnCached table column.name).run
      (profiler.column table column.name) := by
  rw [columnCached_eq]
  apply Profiling.remember_returns
  · intro cache profile hcache
    exact hcache.column?_eq hids hfolds htable hcolumn
  · intro cache found hcache
    exact hcache.counted found
  · intro cache profile hcache
    exact hcache.putColumn htable hcolumn

theorem Profiler.overlapCached_returns (hids : (tables.map Table.id).Nodup)
    (hfolds : profiler.FoldsCase tables) {one two : Table} {columns : Column × Column}
    (htables : (one, two) ∈ tablePairs tables) (hcolumns : columns ∈ columnPairs one two) :
    Returns (ProfileCache.Holds profiler tables)
      (profiler.overlapCached one columns.1.name two columns.2.name).run
      (profiler.overlap one columns.1.name two columns.2.name) := by
  rw [overlapCached_eq]
  apply Profiling.remember_returns
  · intro cache profile hcache
    exact hcache.overlap?_eq hids hfolds htables hcolumns
  · intro cache found hcache
    exact hcache.counted found
  · intro cache profile hcache
    exact hcache.putOverlap htables hcolumns

/-- Two columns are profiled as if anew wherever each of the three requests is answered so. -/
theorem PairProfile.ask?_returns_of_cached {inv : ProfileCache → Prop} {one two : Table}
    {oneColumn twoColumn : Column}
    (hfirst : Returns inv (profiler.columnCached one oneColumn.name).run
      (profiler.column one oneColumn.name))
    (hsecond : Returns inv (profiler.columnCached two twoColumn.name).run
      (profiler.column two twoColumn.name))
    (hoverlap : Returns inv (profiler.overlapCached one oneColumn.name two twoColumn.name).run
      (profiler.overlap one oneColumn.name two twoColumn.name)) :
    Returns inv (ask? (some profiler) one oneColumn two twoColumn)
      (afresh? (some profiler) one oneColumn two twoColumn) := by
  have hasked : Returns inv (ask profiler one oneColumn two twoColumn).run
      (afresh profiler one oneColumn two twoColumn) := by
    refine hfirst.bindExcept fun _ => ?_
    refine hsecond.bindExcept fun _ => ?_
    refine hoverlap.bindExcept fun _ => ?_
    exact .pure _
  unfold ask? afresh?
  cases canProfile one two with
  | true => exact hasked.map Except.toOption
  | false => exact .pure _

theorem PairProfile.ask?_returns (hids : (tables.map Table.id).Nodup)
    (hfolds : profiler.FoldsCase tables) {one two : Table} {columns : Column × Column}
    (htables : (one, two) ∈ tablePairs tables) (hcolumns : columns ∈ columnPairs one two) :
    Returns (ProfileCache.Holds profiler tables) (ask? (some profiler) one columns.1 two columns.2)
      (afresh? (some profiler) one columns.1 two columns.2) := by
  obtain ⟨hone, htwo⟩ := mem_of_mem_tablePairs htables
  obtain ⟨hfirst, hsecond⟩ := mem_columnPairs.1 hcolumns
  exact ask?_returns_of_cached (Profiler.columnCached_returns hids hfolds hone hfirst)
    (Profiler.columnCached_returns hids hfolds htwo hsecond)
    (Profiler.overlapCached_returns hids hfolds htables hcolumns)

end

section

variable {profiler : Option Profiler} {tables : List Table} {one two : Table}
  {columns : Column × Column}

/-- What is inferred on two columns is what is inferred with profiles that are asked for anew. -/
theorem inferPair_returns {inv : ProfileCache → Prop}
    (h : Returns inv (PairProfile.ask? profiler one columns.1 two columns.2)
      (PairProfile.afresh? profiler one columns.1 two columns.2)) (namingRequired : Bool) :
    Returns inv (inferPair profiler one columns.1 two columns.2 namingRequired)
      (inferAfresh profiler one columns.1 two columns.2 namingRequired) := by
  have hasked (naming : NamingEvidence) (shared : Bool) :
      Returns inv (do
          match ← PairProfile.ask? profiler one columns.1 two columns.2 with
          | none => return some (PairInference.ofNaming naming shared)
          | some profile => return some (PairInference.ofProfile naming shared profile))
        (match PairProfile.afresh? profiler one columns.1 two columns.2 with
          | none => some (PairInference.ofNaming naming shared)
          | some profile => some (PairInference.ofProfile naming shared profile)) := by
    refine h.bind ?_
    cases PairProfile.afresh? profiler one columns.1 two columns.2 with
    | none => exact .pure _
    | some profile => exact .pure _
  unfold inferPair inferAfresh
  generalize NamingEvidence.ofNames ⟨one.name, columns.1.name⟩ ⟨two.name, columns.2.name⟩ = found
  generalize (DataKind.ofType columns.1.type != DataKind.ofType columns.2.type) = differ
  generalize (isSharedKey columns.1.name || isSharedKey columns.2.name) = shared
  rcases found with _ | naming <;> cases namingRequired <;> cases differ <;>
    first | exact .pure _ | exact hasked _ _

theorem examinations_of_returns (inv : ProfileCache → Prop) (hempty : inv .empty)
    (h : ∀ one two, (one, two) ∈ tablePairs tables → ∀ columns ∈ columnPairs one two,
      Returns inv (PairProfile.ask? profiler one columns.1 two columns.2)
        (PairProfile.afresh? profiler one columns.1 two columns.2)) :
    examinations profiler tables = (tablePairs tables).map (Examination.afresh profiler) := by
  refine (Returns.mapM (fun pair hpair => ?_) ProfileCache.empty hempty).1
  refine (Returns.mapM fun columns hcolumns => ?_).bind (.pure _)
  exact (inferPair_returns (h pair.1 pair.2 hpair columns hcolumns) true).bind (.pure _)

/-- What is found out about every two tables is what is found out with profiles that are asked for
anew. -/
theorem examinations_eq_afresh (hids : (tables.map Table.id).Nodup)
    (hfolds : ∀ source ∈ profiler, source.FoldsCase tables) :
    examinations profiler tables = (tablePairs tables).map (Examination.afresh profiler) := by
  cases profiler with
  | none => exact examinations_of_returns (fun _ => True) trivial fun _ _ _ _ _ => .pure _
  | some source =>
    refine examinations_of_returns (ProfileCache.Holds source tables) ProfileCache.holds_empty ?_
    intro one two htables columns hcolumns
    exact PairProfile.ask?_returns hids (hfolds source rfl) htables hcolumns

end

/-- Where every table is listed once, and the source of profiles does not tell apart columns whose
names are the same in lower case, remembering profiles changes nothing about what is suggested. -/
theorem suggestRelationships_eq_afresh (profiler : Option Profiler) {catalog : Catalog}
    (ids : List String) (hids : (catalog.tables.map Table.id).Nodup)
    (hfolds : ∀ source ∈ profiler,
      source.FoldsCase (catalog.tables.filter fun table => table.isAmong ids)) :
    suggestRelationships profiler catalog ids = suggestAfresh profiler catalog ids := by
  have hincluded : ((catalog.tables.filter fun table => table.isAmong ids).map Table.id).Nodup :=
    hids.sublist (List.filter_sublist.map _)
  rw [suggestRelationships_eq, suggestAfresh, examinations_eq_afresh hincluded hfolds]

/-- Pupils with two references to schools, whose names differ in letter case alone. -/
def pupilsCatalog : Catalog where
  model := ⟨"town", "main", "Town", true, none, none⟩
  tables := [
    ⟨"pupils", "pupils", "pupils", none, none, none, postgresEngine, some "pupils", true, none,
      none, none, none, [⟨"École_id", "int"⟩, ⟨"école_id", "int"⟩]⟩,
    ⟨"schools", "schools", "écoles", none, none, none, postgresEngine, some "schools", true, none,
      none, none, none, [⟨"id", "int"⟩]⟩]
  relationships := []

/-- The data have one of the two references, and no school that it refers to. -/
def pupilsProfiler : Profiler where
  column _ column := if column == "école_id" then .error .absent else .ok ⟨3, 3, 3⟩
  overlap _ leftColumn _ rightColumn :=
    if leftColumn == "école_id" || rightColumn == "école_id" then .error .absent else .ok ⟨3, 3, 0⟩

theorem suggestRelationships_eq_afresh_shop :
    (shopCatalog.tables.map Table.id).Nodup ∧
      pupilsProfiler.FoldsCase (shopCatalog.tables.filter fun table => table.isAmong []) ∧
      suggestRelationships (some pupilsProfiler) shopCatalog [] =
        suggestAfresh (some pupilsProfiler) shopCatalog [] := by
  have hids : (shopCatalog.tables.map Table.id).Nodup := by decide
  have hfolds :
      pupilsProfiler.FoldsCase (shopCatalog.tables.filter fun table => table.isAmong []) :=
    pupilsProfiler.foldsCase_of_names (by decide +kernel)
  refine ⟨hids, hfolds, suggestRelationships_eq_afresh (some pupilsProfiler) [] hids ?_⟩
  rintro source ⟨⟩
  exact hfolds

/-- The reference that the data lack would be suggested for its name, but is taken for the other
one, and rejected with it. -/
theorem suggestRelationships_ne_afresh :
    (pupilsCatalog.tables.map Table.id).Nodup ∧
      (∀ left leftColumn right rightColumn,
        pupilsProfiler.overlap right rightColumn left leftColumn =
          (pupilsProfiler.overlap left leftColumn right rightColumn).map OverlapProfile.reverse) ∧
      suggestRelationships (some pupilsProfiler) pupilsCatalog [] = [] ∧
      (suggestAfresh (some pupilsProfiler) pupilsCatalog []).map
          (fun suggestion => (suggestion.fromColumn, suggestion.toColumn, suggestion.confidence)) =
        [("école_id", "id", 80)] := by
  refine ⟨by decide, fun left leftColumn right rightColumn => ?_, ?_, ?_⟩
  · unfold pupilsProfiler
    dsimp only
    rw [Bool.or_comm]
    split <;> rfl
  · decide +kernel
  · decide +kernel

end SemanticLayer
