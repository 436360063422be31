import SemanticLayer.Proofs.Inference.Mirror
import SemanticLayer.Proofs.Inference.SharedKeys

/-!
The direction of what is suggested. A suggestion runs from the side of many rows to the side of one:
it turns its ends round if the inference shows the other direction, and its cardinality with them. The
reasons are carried along as they are, so a profile that they tell of is that of the columns in the
order of the catalog, whichever way the suggestion runs.
-/

namespace SemanticLayer

/-! ### Sources that go by keys -/

/-- The source gives the same for all columns that are remembered under one key, and the overlap of
two columns reversed in the other order. -/
structure Profiler.GoesByKeys (source : Profiler) : Prop where
  column : ∀ one oneName two twoName, ColumnKey.make one.id oneName = .make two.id twoName →
    source.column one oneName = source.column two twoName
  overlap : ∀ one oneName two twoName left leftName right rightName,
    ColumnKey.make one.id oneName = .make left.id leftName →
    ColumnKey.make two.id twoName = .make right.id rightName →
      source.overlap one oneName two twoName = source.overlap left leftName right rightName
  reversed : ∀ one oneName two twoName, source.overlap two twoName one oneName =
    (source.overlap one oneName two twoName).map OverlapProfile.reverse

theorem Profiler.GoesByKeys.twoSided {source : Profiler} (h : source.GoesByKeys) (one : Table)
    (oneName : String) (two : Table) (twoName : String) :
    source.TwoSided one oneName two twoName where
  overlap := h.reversed one oneName two twoName
  column := h.column one oneName two twoName

namespace ProfileCache

variable {source : Profiler} {cache : ProfileCache}

/-- Whatever is remembered of any two columns is what the source gives for them. -/
def ServesAll (source : Profiler) (cache : ProfileCache) : Prop :=
  ∀ one oneName two twoName, cache.Serves source one oneName two twoName

theorem servesAll_empty : ServesAll source empty :=
  fun _ _ _ _ => serves_empty

theorem ServesAll.counted {α : Type} (h : cache.ServesAll source) (found : Option α) :
    (cache.counted found).ServesAll source :=
  fun _ _ _ _ => (h ..).counted found

theorem ServesAll.putColumn (h : cache.ServesAll source) (hsource : source.GoesByKeys)
    {table : Table} {name : String} {profile : ColumnProfile}
    (hprofile : source.column table name = .ok profile) :
    (cache.putColumn (.make table.id name) profile).ServesAll source := by
  intro one oneName two twoName
  refine (h one oneName two twoName).putColumn (fun hkey => ?_) fun hkey => ?_
  · rw [← hsource.column _ _ _ _ hkey, hprofile]
  · rw [← hsource.column _ _ _ _ hkey, hprofile]

theorem ServesAll.putOverlap (h : cache.ServesAll source) (hsource : source.GoesByKeys)
    {left right : Table} {leftName rightName : String} {profile : OverlapProfile}
    (hprofile : source.overlap left leftName right rightName = .ok profile) :
    (cache.putOverlap (.make left.id leftName) (.make right.id rightName) profile).ServesAll
      source := by
  have hgiven (one : Table) (oneName : String) (two : Table) (twoName : String)
      (value : OverlapProfile)
      (hmem : ((ColumnKey.make one.id oneName, ColumnKey.make two.id twoName), value) ∈
        setEntry cache.overlaps (.make left.id leftName, .make right.id rightName) profile) :
      source.overlap one oneName two twoName = .ok value := by
    rcases mem_of_mem_setEntry hmem with heq | hmem
    · obtain ⟨hkeys, rfl⟩ := Prod.mk.inj heq
      obtain ⟨hone, htwo⟩ := Prod.mk.inj hkeys
      rw [hsource.overlap _ _ _ _ _ _ _ _ hone htwo, hprofile]
    · exact (h one oneName two twoName).overlap value hmem
  intro one oneName two twoName
  exact ⟨(h one oneName two twoName).first, (h one oneName two twoName).second,
    hgiven one oneName two twoName, fun _ => hgiven two twoName one oneName⟩

end ProfileCache

section

variable {source : Profiler} (hsource : source.GoesByKeys)

include hsource

theorem Profiler.columnCached_servesAll (table : Table) (name : String) :
    Returns (ProfileCache.ServesAll source) (source.columnCached table name).run
      (source.column table name) := by
  rw [columnCached_eq]
  apply Profiling.remember_returns
  · intro cache profile hcache hfound
    exact (hcache table name table name).first profile (mem_of_valueOf? hfound)
  · intro cache found hcache
    exact hcache.counted found
  · intro cache profile hcache
    exact hcache.putColumn hsource

theorem Profiler.overlapCached_servesAll (left : Table) (leftColumn : Column) (right : Table)
    (rightColumn : Column) :
    Returns (ProfileCache.ServesAll source)
      (source.overlapCached left leftColumn.name right rightColumn.name).run
      (source.overlap left leftColumn.name right rightColumn.name) := by
  rw [overlapCached_eq]
  apply Profiling.remember_returns
  · intro cache profile hcache
    exact (hcache ..).overlap?_eq (hsource.twoSided ..)
  · intro cache found hcache
    exact hcache.counted found
  · intro cache profile hcache
    exact hcache.putOverlap hsource

theorem PairProfile.ask?_servesAll (one : Table) (oneColumn : Column) (two : Table)
    (twoColumn : Column) :
    Returns (ProfileCache.ServesAll source) (ask? (some source) one oneColumn two twoColumn)
      (afresh? (some source) one oneColumn two twoColumn) :=
  ask?_returns_of_cached (Profiler.columnCached_servesAll hsource one _)
    (Profiler.columnCached_servesAll hsource two _)
    (Profiler.overlapCached_servesAll hsource one _ two _)

/-- Of any tables, listed once or not, what is found out is what is found out with profiles that are
asked for anew. -/
theorem examinations_eq_of_goesByKeys (tables : List Table) :
    examinations (some source) tables =
      (tablePairs tables).map (Examination.afresh (some source)) :=
  examinations_of_returns (ProfileCache.ServesAll source) ProfileCache.servesAll_empty
    fun one two _ columns _ =>
      PairProfile.ask?_servesAll hsource one columns.1 two columns.2

end

/-! ### Profiles among the reasons -/

/-- The cardinality that two columns show in their order, if their profiles can be had. -/
def Profiler.cardinality? (source : Profiler) (one : Table) (oneName : String) (two : Table)
    (twoName : String) : Option Cardinality :=
  match source.column one oneName, source.column two twoName with
  | .ok first, .ok second => some (.ofUnique first.isUnique second.isUnique)
  | _, _ => none

theorem Profiler.cardinality?_comm (source : Profiler) (one : Table) (oneName : String)
    (two : Table) (twoName : String) :
    source.cardinality? two twoName one oneName =
      (source.cardinality? one oneName two twoName).map Cardinality.reverse := by
  unfold cardinality?
  cases source.column one oneName with
  | error fault => cases source.column two twoName <;> rfl
  | ok first =>
    cases source.column two twoName with
    | error fault => rfl
    | ok second => exact congrArg some (Cardinality.ofUnique_comm _ _)

theorem PairProfile.cardinality_of_afresh? {source : Profiler} {one two : Table}
    {oneColumn twoColumn : Column} {profile : PairProfile}
    (h : afresh? (some source) one oneColumn two twoColumn = some profile) :
    source.cardinality? one oneColumn.name two twoColumn.name = some profile.cardinality := by
  unfold afresh? at h
  dsimp only at h
  split at h
  · unfold afresh at h
    unfold Profiler.cardinality?
    cases hone : source.column one oneColumn.name with
    | error fault =>
      rw [hone] at h
      cases h
    | ok first =>
      cases htwo : source.column two twoColumn.name with
      | error fault =>
        rw [hone, htwo] at h
        cases h
      | ok second =>
        cases hoverlap : source.overlap one oneColumn.name two twoColumn.name with
        | error fault =>
          rw [hone, htwo, hoverlap] at h
          cases h
        | ok overlap =>
          rw [hone, htwo, hoverlap] at h
          obtain rfl := Option.some.inj h
          rfl
  · cases h

theorem inferAfresh_eq (profiler : Option Profiler) (one : Table) (oneColumn : Column)
    (two : Table) (twoColumn : Column) (namingRequired : Bool) :
    inferAfresh profiler one oneColumn two twoColumn namingRequired =
      inferWith one oneColumn two twoColumn namingRequired
        (PairProfile.afresh? profiler one oneColumn two twoColumn) := by
  unfold inferAfresh inferWith namingOf PairInference.conclude
  generalize NamingEvidence.ofNames ⟨one.name, oneColumn.name⟩ ⟨two.name, twoColumn.name⟩ = found
  generalize (DataKind.ofType oneColumn.type != DataKind.ofType twoColumn.type) = differ
  generalize PairProfile.afresh? profiler one oneColumn two twoColumn = profile
  rcases found with _ | naming <;> cases namingRequired <;> cases differ <;>
    first | rfl | (cases profile <;> rfl)

/-- The reasons tell of a profile only if there is one, and then of its cardinality. -/
theorem PairInference.profiled_of_conclude {naming : NamingEvidence} {differ shared : Bool}
    {profile : Option PairProfile} {cardinality : Cardinality}
    (hnames : Reason.profiled cardinality ∉ naming.reasons)
    (h : Reason.profiled cardinality ∈ (conclude naming differ shared profile).reasons) :
    ∃ found, profile = some found ∧ found.cardinality = cardinality := by
  cases differ with
  | true => exact absurd h hnames
  | false =>
    cases profile with
    | none =>
      rw [conclude, if_neg Bool.false_ne_true] at h
      cases shared <;> simp [ofNaming, hnames] at h
    | some found =>
      refine ⟨found, rfl, ?_⟩
      rw [conclude_some] at h
      unfold ofProfile at h
      split at h
      · simp [hnames] at h
      · dsimp only at h
        cases shared <;> split at h <;> simp [hnames] at h <;> exact h.symm

/-! ### The ends of a suggestion -/

/-- A suggestion runs from one column to another one. -/
structure Suggestion.RunsFrom (suggestion : Suggestion) (source : Table) (sourceColumn : Column)
    (target : Table) (targetColumn : Column) : Prop where
  fromTableId : suggestion.fromTableId = source.id
  fromTable : suggestion.fromTable = source.name
  fromColumn : suggestion.fromColumn = sourceColumn.name
  toTableId : suggestion.toTableId = target.id
  toTable : suggestion.toTable = target.name
  toColumn : suggestion.toColumn = targetColumn.name

/-- A suggestion runs from the side of many rows that an inference on two columns shows, and in
their order where it shows none. -/
structure Suggestion.Presents (suggestion : Suggestion) (one : Table) (oneColumn : Column)
    (two : Table) (twoColumn : Column) (inference : PairInference) : Prop where
  turned : inference.cardinality = some .oneToMany →
    suggestion.cardinality = some .manyToOne ∧ suggestion.RunsFrom two twoColumn one oneColumn
  kept : inference.cardinality ≠ some .oneToMany →
    suggestion.cardinality = inference.cardinality ∧
      suggestion.RunsFrom one oneColumn two twoColumn
  reasons : suggestion.reasons = inference.reasons

theorem Suggestion.presents_ofInference (modelId : String) (one : Table) (oneColumn : Column)
    (two : Table) (twoColumn : Column) (inference : PairInference) :
    (ofInference modelId one oneColumn two twoColumn inference).Presents one oneColumn two twoColumn
      inference where
  turned h := by
    unfold ofInference
    rw [h]
    exact ⟨rfl, ⟨rfl, rfl, rfl, rfl, rfl, rfl⟩⟩
  kept h := by
    have hbeq : (inference.cardinality == some .oneToMany) = false := beq_false_of_ne h
    unfold ofInference
    rw [hbeq]
    exact ⟨rfl, ⟨rfl, rfl, rfl, rfl, rfl, rfl⟩⟩
  reasons := rfl

theorem Suggestion.Presents.cardinality_ne {suggestion : Suggestion} {one two : Table}
    {oneColumn twoColumn : Column} {inference : PairInference}
    (h : suggestion.Presents one oneColumn two twoColumn inference) :
    suggestion.cardinality ≠ some .oneToMany := by
  by_cases hturned : inference.cardinality = some .oneToMany
  · rw [(h.turned hturned).1]
    decide
  · rwa [(h.kept hturned).1]

/-- A cardinality that two columns show in their order is the one that a suggestion on them shows in
its own direction, unless the suggestion is turned and the cardinality has a direction. -/
theorem Suggestion.Presents.cardinality?_eq_iff {source : Profiler} (hsource : source.GoesByKeys)
    {suggestion : Suggestion} {one two : Table} {oneColumn twoColumn : Column}
    {inference : PairInference} {cardinality : Cardinality}
    (h : suggestion.Presents one oneColumn two twoColumn inference)
    (hshown : source.cardinality? one oneColumn.name two twoColumn.name = some cardinality)
    {start finish : Table} (hstart : start.id = suggestion.fromTableId)
    (hfinish : finish.id = suggestion.toTableId) :
    source.cardinality? start suggestion.fromColumn finish suggestion.toColumn = some cardinality ↔
      (inference.cardinality = some .oneToMany → cardinality.reverse = cardinality) := by
  have hsame {one two left right : Table} {oneName twoName : String} (hone : one.id = left.id)
      (htwo : two.id = right.id) : source.cardinality? one oneName two twoName =
        source.cardinality? left oneName right twoName := by
    unfold Profiler.cardinality?
    rw [hsource.column one oneName left oneName (by rw [hone]),
      hsource.column two twoName right twoName (by rw [htwo])]
  by_cases hturned : inference.cardinality = some .oneToMany
  · obtain ⟨-, hruns⟩ := h.turned hturned
    rw [hruns.fromColumn, hruns.toColumn, hsame (hstart.trans hruns.fromTableId)
      (hfinish.trans hruns.toTableId), Profiler.cardinality?_comm, hshown, Option.map_some,
      Option.some.injEq]
    exact ⟨fun hreverse _ => hreverse, fun hreverse => hreverse hturned⟩
  · obtain ⟨-, hruns⟩ := h.kept hturned
    rw [hruns.fromColumn, hruns.toColumn, hsame (hstart.trans hruns.fromTableId)
      (hfinish.trans hruns.toTableId), hshown]
    exact iff_of_true rfl fun hturned' => absurd hturned' hturned

/-- What is suggested comes from an inference on a pair of columns that was examined. -/
theorem exists_presents_of_mem {profiler : Option Profiler} {catalog : Catalog} {ids : List String}
    {suggestion : Suggestion} (h : suggestion ∈ suggestRelationships profiler catalog ids) :
    ∃ examination ∈ examinations profiler (catalog.tables.filter fun table => table.isAmong ids),
      ∃ pair ∈ examination.pairs, ∃ inference, pair.inference = some inference ∧
        suggestion.Presents examination.one pair.oneColumn examination.two pair.twoColumn
          inference := by
  obtain ⟨examination, hexamined, pair, hpair, inference, heligible, rfl⟩ :=
    Detection.exists_suggests_of_mem h
  exact ⟨examination, hexamined, pair, hpair, inference, heligible.inferred,
    Suggestion.presents_ofInference ..⟩

/-- A cardinality that the reasons of an examined pair tell of is the one that its columns show. -/
theorem cardinality?_of_examined {source : Profiler} (hsource : source.GoesByKeys)
    {tables : List Table} {examination : Examination}
    (hexamined : examination ∈ examinations (some source) tables) {pair : ExaminedPair}
    (hpair : pair ∈ examination.pairs) {inference : PairInference}
    (hinferred : pair.inference = some inference) {cardinality : Cardinality}
    (htold : Reason.profiled cardinality ∈ inference.reasons) :
    source.cardinality? examination.one pair.oneColumn.name examination.two pair.twoColumn.name =
      some cardinality := by
  rw [examinations_eq_of_goesByKeys hsource] at hexamined
  obtain ⟨⟨one, two⟩, -, rfl⟩ := List.mem_map.1 hexamined
  obtain ⟨⟨oneColumn, twoColumn⟩, -, rfl⟩ := List.mem_map.1 hpair
  dsimp only at hinferred
  rw [inferAfresh_eq] at hinferred
  rw [eq_conclude_of_inferWith hinferred] at htold
  obtain ⟨profile, hprofile, rfl⟩ := PairInference.profiled_of_conclude (fun hmem =>
    absurd (reasons_namingOf_subset one oneColumn two twoColumn hmem) (by simp [
      NamingEvidence.nameReasons])) htold
  exact PairProfile.cardinality_of_afresh? hprofile

/-- Every suggestion presents an inference on two columns of two tables in the order of the catalog:
it never runs from one row to many, and from the side of many rows where the inference has one. A
profile that it tells of is the one that the columns show in the order of the catalog. So it is the
one that they show in the direction of the suggestion unless the suggestion was turned round and the
profile has a direction. -/
theorem suggestRelationships_directed {profiler : Option Profiler} {catalog : Catalog}
    {ids : List String} {suggestion : Suggestion}
    (h : suggestion ∈ suggestRelationships profiler catalog ids) :
    suggestion.cardinality ≠ some .oneToMany ∧
      ∃ examination ∈ examinations profiler (catalog.tables.filter fun table => table.isAmong ids),
        ∃ pair ∈ examination.pairs, ∃ inference cache,
          ((inferPair profiler examination.one pair.oneColumn examination.two pair.twoColumn
            true).run cache).1 = some inference ∧
          suggestion.Presents examination.one pair.oneColumn examination.two pair.twoColumn
            inference ∧
          ∀ source ∈ profiler, source.GoesByKeys →
            ∀ cardinality, .profiled cardinality ∈ suggestion.reasons →
              source.cardinality? examination.one pair.oneColumn.name examination.two
                pair.twoColumn.name = some cardinality ∧
              ∀ start finish : Table, start.id = suggestion.fromTableId →
                finish.id = suggestion.toTableId →
                (source.cardinality? start suggestion.fromColumn finish suggestion.toColumn =
                    some cardinality ↔
                  (inference.cardinality = some .oneToMany →
                    cardinality.reverse = cardinality)) := by
  obtain ⟨examination, hexamined, pair, hpair, inference, hinferred, hpresents⟩ :=
    exists_presents_of_mem h
  obtain ⟨cache, hrun⟩ := examined_inference hexamined hpair
  refine ⟨hpresents.cardinality_ne, examination, hexamined, pair, hpair, inference, cache,
    hrun.symm.trans hinferred, hpresents, ?_⟩
  rintro source rfl hsource cardinality htold
  rw [hpresents.reasons] at htold
  have hshown := cardinality?_of_examined hsource hexamined hpair hinferred htold
  exact ⟨hshown, fun start finish => hpresents.cardinality?_eq_iff hsource hshown⟩

/-- A source that shows three users and orders of two of them. -/
def ordersProfiler : Profiler where
  column table _ := .ok ⟨3, 3, if table.id == "orders" then 2 else 3⟩
  overlap one _ two _ :=
    .ok ⟨if one.id == "orders" then 2 else 3, if two.id == "orders" then 2 else 3, 2⟩

theorem ordersProfiler_goesByKeys : ordersProfiler.GoesByKeys where
  column one oneName two twoName hkey := by
    simp only [ordersProfiler, (ColumnKey.mk.inj hkey).1]
  overlap one oneName two twoName left leftName right rightName hone htwo := by
    simp only [ordersProfiler, (ColumnKey.mk.inj hone).1, (ColumnKey.mk.inj htwo).1]
  reversed _ _ _ _ := rfl

theorem suggestRelationships_directed_shop :
    ordersProfiler.GoesByKeys ∧
      ∃ suggestion ∈ suggestRelationships (some ordersProfiler) shopCatalog [],
        .profiled .manyToOne ∈ suggestion.reasons ∧ suggestion.cardinality ≠ some .oneToMany ∧
        ∃ examination ∈ examinations (some ordersProfiler)
            (shopCatalog.tables.filter fun table => table.isAmong []),
          ∃ pair ∈ examination.pairs, ∃ inference,
            suggestion.Presents examination.one pair.oneColumn examination.two pair.twoColumn
              inference ∧
            ordersProfiler.cardinality? examination.one pair.oneColumn.name examination.two
              pair.twoColumn.name = some .manyToOne := by
  have hfound : (suggestRelationships (some ordersProfiler) shopCatalog []).map (·.reasons) =
      [[.foreignKey, .tableReference, .primaryKey, .sameType, .profiled .manyToOne,
        .overlap 100]] := by
    decide +kernel
  obtain ⟨suggestion, hsuggestion, hreasons⟩ :=
    List.mem_map.1 (hfound.symm ▸ List.mem_singleton_self _)
  have htold : .profiled .manyToOne ∈ suggestion.reasons := by
    rw [hreasons]
    decide
  obtain ⟨hcardinality, examination, hexamined, pair, hpair, inference, -, -, hpresents, hshows⟩ :=
    suggestRelationships_directed hsuggestion
  obtain ⟨hshown, -⟩ := hshows ordersProfiler rfl ordersProfiler_goesByKeys .manyToOne htold
  exact ⟨ordersProfiler_goesByKeys, suggestion, hsuggestion, htold, hcardinality, examination,
    hexamined, pair, hpair, inference, hpresents, hshown⟩

/-- With the users before the orders, the suggestion runs from the orders to the users, and tells of
a profile from one user to many orders. -/
theorem suggestRelationships_tag_not_directed :
    ¬ ∀ (source : Profiler) (catalog : Catalog) (ids : List String), source.GoesByKeys →
      ∀ suggestion ∈ suggestRelationships (some source) catalog ids,
        ∀ cardinality, .profiled cardinality ∈ suggestion.reasons →
          ∀ start ∈ catalog.tables, ∀ finish ∈ catalog.tables,
            start.id = suggestion.fromTableId → finish.id = suggestion.toTableId →
            source.cardinality? start suggestion.fromColumn finish suggestion.toColumn =
              some cardinality := by
  intro h
  have hfound : (suggestRelationships (some ordersProfiler)
      { shopCatalog with tables := [usersTable, ordersTable] } []).map
        (fun suggestion => (suggestion.fromTableId, suggestion.toTableId, suggestion.reasons)) =
      [("orders", "users", [.foreignKey, .tableReference, .primaryKey, .sameType,
        .profiled .oneToMany, .overlap 100])] := by
    decide +kernel
  obtain ⟨suggestion, hsuggestion, hshown⟩ :=
    List.mem_map.1 (hfound.symm ▸ List.mem_singleton_self _)
  obtain ⟨hfrom, hends⟩ := Prod.mk.inj hshown
  obtain ⟨hto, hreasons⟩ := Prod.mk.inj hends
  have htold : .profiled .oneToMany ∈ suggestion.reasons := by
    rw [hreasons]
    decide
  have htag := h ordersProfiler _ [] ordersProfiler_goesByKeys suggestion hsuggestion .oneToMany
    htold ordersTable (by decide) usersTable (by decide) hfrom.symm hto.symm
  have hdirected : ordersProfiler.cardinality? ordersTable suggestion.fromColumn usersTable
      suggestion.toColumn = some .manyToOne := rfl
  rw [hdirected] at htag
  cases htag

end SemanticLayer
