import SemanticLayer.Proofs.Plan.Path
import SemanticLayer.Proofs.Service.Listing

/-!
The list of relationships beside the join graph. What a list shows of the relationships makes the same
graph as what is stored. So a relationship is shown as one to join along just if the graph uses it, in
the graph of any tables that both of its own are among.
-/

namespace SemanticLayer

/-! ### Graphs of relationships that are shown otherwise -/

section

variable (display : Relationship → Relationship)

def JoinEdge.shown (edge : JoinEdge) : JoinEdge :=
  { edge with relationship := display edge.relationship }

def JoinGraph.Reached.shown (reached : JoinGraph.Reached) : JoinGraph.Reached :=
  { reached with way := reached.way.map display }

def JoinGraph.shown (graph : JoinGraph) : JoinGraph :=
  { graph with relationships := graph.relationships.map display }

/-- Nothing that a join graph looks at is shown otherwise. -/
structure JoinGraph.KeepsEdges : Prop where
  fromTableId : ∀ r, (display r).fromTableId = r.fromTableId
  toTableId : ∀ r, (display r).toTableId = r.toTableId
  isJoinable : ∀ r, (display r).isJoinable = r.isJoinable

end

namespace JoinGraph

variable {display : Relationship → Relationship} {graph : JoinGraph}

theorem edgesOf_shown (h : KeepsEdges display) (id : String) (r : Relationship) :
    edgesOf id (display r) = (edgesOf id r).map (JoinEdge.shown display) := by
  unfold edgesOf
  rw [h.fromTableId, h.toTableId, List.map_append]
  split <;> split <;> rfl

theorem follows_shown (h : KeepsEdges display) (graph : JoinGraph) (r : Relationship) :
    (graph.shown display).follows (display r) = graph.follows r := by
  unfold follows
  rw [h.fromTableId, h.toTableId, h.isJoinable]
  rfl

/-- The edges from a table are the same, with what is shown of their relationships. -/
theorem edges_shown (h : KeepsEdges display) (graph : JoinGraph) (id : String) :
    (graph.shown display).edges id = (graph.edges id).map (JoinEdge.shown display) := by
  have hfollowed : (graph.shown display).follows ∘ display = graph.follows :=
    funext (follows_shown h graph)
  have hedges : edgesOf id ∘ display = fun r => (edgesOf id r).map (JoinEdge.shown display) :=
    funext (edgesOf_shown h id)
  calc (graph.shown display).edges id
      = ((graph.relationships.filter graph.follows).map display).flatMap (edgesOf id) := by
        rw [edges, ← hfollowed, ← List.filter_map]
        rfl
    _ = (graph.relationships.filter graph.follows).flatMap
          fun r => (edgesOf id r).map (JoinEdge.shown display) := by
        rw [List.flatMap_map, ← hedges]
        rfl
    _ = (graph.edges id).map (JoinEdge.shown display) := by
        rw [edges, List.map_flatMap]

/-- What has been reached, with what is shown of the ways to it, beside what is still unseen. -/
def roundShown (display : Relationship → Relationship) (round : List Reached × List String) :
    List Reached × List String :=
  (round.1.map (Reached.shown display), round.2)

theorem follow_shown (origin : Reached) (edges : List JoinEdge)
    (round : List Reached × List String) :
    follow (origin.shown display) (edges.map (JoinEdge.shown display)) (roundShown display round) =
      roundShown display (follow origin edges round) := by
  induction edges generalizing round with
  | nil => rfl
  | cons edge rest ih =>
    obtain ⟨reached, unseen⟩ := round
    have hnext : (edge.shown display).next = edge.next := rfl
    have hreached : (reached ++ [Reached.mk edge.next (edge.relationship :: origin.way)]).map
        (Reached.shown display) = reached.map (Reached.shown display) ++
          [⟨edge.next, (edge.shown display).relationship :: (origin.shown display).way⟩] :=
      List.map_append
    rw [roundShown, List.map_cons, follow, follow, hnext]
    dsimp only
    split
    · rw [← ih, roundShown, hreached]
    · exact ih (reached, unseen)

theorem nextRound_shown (h : KeepsEdges display) (reached : List Reached) (unseen : List String) :
    (graph.shown display).nextRound (reached.map (Reached.shown display)) unseen =
      roundShown display (graph.nextRound reached unseen) := by
  have hstep (round : List Reached × List String) (origin : Reached) :
      follow (origin.shown display) ((graph.shown display).edges (origin.shown display).id)
          (roundShown display round) =
        roundShown display (follow origin (graph.edges origin.id) round) := by
    rw [show (origin.shown display).id = origin.id from rfl, edges_shown h, follow_shown]
  unfold nextRound
  rw [List.foldl_map]
  change List.foldl _ (roundShown display ([], unseen)) reached = _
  apply List.foldl_hom
  intro round origin
  exact hstep round origin

/-- The way to a table that has been reached is shown as it was found. -/
theorem find?_shown (target : String) (reached : List Reached) :
    (reached.map (Reached.shown display)).find? (·.id == target) =
      (reached.find? (·.id == target)).map (Reached.shown display) := by
  rw [List.find?_map]
  rfl

theorem search_shown (h : KeepsEdges display) (target : String) (rounds : Nat)
    (reached : List Reached) (unseen : List String) :
    (graph.shown display).search target rounds (reached.map (Reached.shown display)) unseen =
      (graph.search target rounds reached unseen).map (List.map display) := by
  have hway (found : Reached) :
      (found.shown display).way.reverse = found.way.reverse.map display :=
    List.map_reverse.symm
  induction rounds generalizing reached unseen with
  | zero =>
    rw [search, search, find?_shown, Option.map_map, Option.map_map]
    exact congrArg (Option.map · _) (funext hway)
  | succ rounds ih =>
    rw [search, search, find?_shown, nextRound_shown h]
    cases reached.find? (·.id == target) with
    | some found => exact congrArg some (hway found)
    | none => exact ih _ _

/-- A search finds the same path, with what is shown of its relationships. -/
theorem path_shown (h : KeepsEdges display) (graph : JoinGraph) (start target : String) :
    (graph.shown display).path start target =
      (graph.path start target).map (List.map display) :=
  search_shown h target graph.tableIds.length [⟨start, []⟩] _

/-- An edge of the graph belongs to the relationship. -/
def Uses (graph : JoinGraph) (r : Relationship) : Prop :=
  ∃ id next, ⟨r, next⟩ ∈ graph.edges id

theorem uses_iff {r : Relationship} :
    graph.Uses r ↔ r ∈ graph.relationships ∧ graph.follows r = true := by
  constructor
  · rintro ⟨id, next, hedge⟩
    obtain ⟨hmem, hfollows, -⟩ := mem_edges.1 hedge
    exact ⟨hmem, hfollows⟩
  · rintro ⟨hmem, hfollows⟩
    exact ⟨r.fromTableId, r.toTableId, mem_edges.2 ⟨hmem, hfollows, .inl ⟨rfl, rfl⟩⟩⟩

end JoinGraph

/-! ### Graphs of what is listed -/

theorem keepsEdges_revalidate (catalog : Catalog) :
    JoinGraph.KeepsEdges fun r => r.revalidate catalog where
  fromTableId r := by rw [(r.shownAs_revalidate catalog).fields]
  toTableId r := by rw [(r.shownAs_revalidate catalog).fields]
  isJoinable r := (r.shownAs_revalidate catalog).joinable

theorem uses_iff_listed (catalog : Catalog) (tableIds : List String) {r : Relationship}
    (hstored : r ∈ catalog.relationships) :
    JoinGraph.Uses ⟨catalog.relationships, tableIds⟩ r ↔
      (r.revalidate catalog).isJoinable = true ∧ r.fromTableId ∈ tableIds ∧
        r.toTableId ∈ tableIds := by
  rw [JoinGraph.uses_iff, (r.shownAs_revalidate catalog).joinable, JoinGraph.follows]
  simp only [hstored, true_and, Bool.and_eq_true, List.contains_iff_mem, and_assoc]

namespace Service

variable {δ σ : Type} [Duration δ]

/-- A second reading of a stored relationship shows what the first one does, and a reading changes
nothing but a cardinality, never to many-to-many, so the relationship may be joined along as it was
stored. The join graph of any tables uses just the stored relationships between them that are listed
as ones to join along, and its edges and its paths are those of the graph of what is listed. -/
theorem relationships_show_joinable (service : Service δ σ) (catalog : Catalog) :
    (∀ r : Relationship, r.ShownAs catalog (r.revalidate catalog)) ∧
    (∀ tableIds,
      let stored : JoinGraph := ⟨catalog.relationships, tableIds⟩
      let listed : JoinGraph := stored.shown fun r => r.revalidate catalog
      (∀ r ∈ catalog.relationships, stored.Uses r ↔ (r.revalidate catalog).isJoinable = true ∧
        r.fromTableId ∈ tableIds ∧ r.toTableId ∈ tableIds) ∧
      (∀ id, listed.edges id =
        (stored.edges id).map (JoinEdge.shown fun r => r.revalidate catalog)) ∧
      ∀ start target, listed.path start target =
        (stored.path start target).map (List.map fun r => r.revalidate catalog)) ∧
    ∀ (state : ServiceState σ) workspace modelId now loaded,
      state.registry.loadCatalog workspace modelId now = (.ok catalog, loaded) →
      ∃ shown, (service.perform (.relationships workspace modelId) now state).1 = .ok shown ∧
        shown.data = .list
          ((catalog.relationships.map fun r => r.revalidate catalog).map Relationship.toJson) := by
  have hkeeps := keepsEdges_revalidate catalog
  refine ⟨Relationship.shownAs_revalidate catalog, fun tableIds => ?_, ?_⟩
  · intro stored listed
    refine ⟨fun r hstored => uses_iff_listed catalog tableIds hstored, fun id => ?_,
      fun start target => ?_⟩
    · exact JoinGraph.edges_shown hkeeps stored id
    · exact JoinGraph.path_shown hkeeps stored start target
  · intro state workspace modelId now loaded hload
    exact service.relationships_of_load hload

/-- The two columns of the customers are stored as one to one, are listed as one to many, and are
joined along. -/
theorem relationships_show_joinable_customers :
    let state : ServiceState Unit := ⟨customersRegistry, ⟨(), ⟨"TOKEN", none⟩, 0⟩⟩
    ∃ catalog loaded, customersRegistry.loadCatalog "north" none "2026-01-02" =
        (.ok catalog, loaded) ∧
      (∃ shown, (storeless.perform (.relationships "north" none) "2026-01-02" state).1 =
          .ok shown ∧ shown.data = .list
            ((catalog.relationships.map fun r => r.revalidate catalog).map Relationship.toJson)) ∧
      ∃ r ∈ catalog.relationships, r.cardinality = .oneToOne ∧
        (r.revalidate catalog).cardinality = .oneToMany ∧
        JoinGraph.Uses ⟨catalog.relationships, ["t1"]⟩ r := by
  intro state
  have hlisted : (customersRegistry.loadCatalog "north" none "2026-01-02").1.toOption.map
      (fun catalog => catalog.relationships.map fun r => (r.cardinality, r.fromTableId, r.toTableId,
        (r.revalidate catalog).cardinality, (r.revalidate catalog).isJoinable)) =
      some [(.oneToOne, "t1", "t1", .oneToMany, true)] := by
    decide +kernel
  rcases hload : customersRegistry.loadCatalog "north" none "2026-01-02" with
    ⟨_ | catalog, loaded⟩
  · rw [hload] at hlisted
    cases hlisted
  · rw [hload] at hlisted
    obtain ⟨r, hstored, hshown⟩ :=
      List.mem_map.1 ((Option.some.inj hlisted).symm ▸ List.mem_singleton_self _)
    simp only [Prod.mk.injEq] at hshown
    obtain ⟨hcardinality, hfrom, hto, hread, hjoinable⟩ := hshown
    obtain ⟨-, hgraphs, hlists⟩ := storeless.relationships_show_joinable catalog
    obtain ⟨huses, -, -⟩ := hgraphs ["t1"]
    refine ⟨catalog, loaded, rfl, hlists state "north" none "2026-01-02" loaded hload, r, hstored,
      hcardinality, hread, (huses r hstored).2 ⟨hjoinable, ?_, ?_⟩⟩
    · rw [hfrom]
      exact List.mem_singleton_self _
    · rw [hto]
      exact List.mem_singleton_self _

end Service

end SemanticLayer
