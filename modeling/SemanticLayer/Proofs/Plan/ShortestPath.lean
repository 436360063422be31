import SemanticLayer.Proofs.Plan.Connection

/-!
Shortest paths. The n-th round of a search reaches tables over n relationships, and a table that can
be reached over fewer has been reached before. So a path that is found is a chain of relationships
that visits no table twice, and no other chain to its target is shorter.
-/

namespace SemanticLayer

namespace JoinGraph

/-- The relationship is one of the graph's, queries may join along it, and it leads from the one
table to the other, both of which belong to the graph. -/
structure Step (graph : JoinGraph) (r : Relationship) (id next : String) : Prop where
  stored : r ∈ graph.relationships
  valid : r.status = validStatus
  notManyToMany : r.cardinality ≠ .manyToMany
  fromTable : r.fromTableId ∈ graph.tableIds
  toTable : r.toTableId ∈ graph.tableIds
  ends : r.Connects id next

/-- A chain of relationships from the start to a table, and the tables that it visits on its way,
the start and the last one included. -/
inductive Chain (graph : JoinGraph) (start : String) :
    String → List Relationship → List String → Prop
  | nil : Chain graph start start [] [start]
  | snoc {id next : String} {way : List Relationship} {visited : List String} {r : Relationship} :
      Chain graph start id way visited → graph.Step r id next →
        Chain graph start next (way ++ [r]) (visited ++ [next])

variable {graph : JoinGraph} {start id next target : String} {r : Relationship}
  {way : List Relationship} {visited : List String}

theorem step_iff : graph.Step r id next ↔ ⟨r, next⟩ ∈ graph.edges id := by
  simp only [mem_edges, follows, Relationship.isJoinable, Bool.and_eq_true, beq_iff_eq, bne_iff_ne,
    List.contains_iff_mem]
  constructor
  · rintro ⟨hstored, hvalid, hmany, hfrom, hto, hends⟩
    exact ⟨hstored, ⟨⟨⟨hvalid, hmany⟩, hfrom⟩, hto⟩, hends⟩
  · rintro ⟨hstored, ⟨⟨⟨hvalid, hmany⟩, hfrom⟩, hto⟩, hends⟩
    exact ⟨hstored, hvalid, hmany, hfrom, hto, hends⟩

theorem Chain.connected (h : graph.Chain start id way visited) : graph.Connected start id := by
  induction h with
  | nil => exact .refl
  | snoc _ hstep ih => exact ih.tail (adjacent_iff.2 ⟨_, step_iff.1 hstep⟩)

/-! ### Lengths of ways -/

theorem length_way_of_layer (n : Nat) {x : Reached} (hx : x ∈ (graph.layer start n).1) :
    x.way.length = n := by
  induction n generalizing x with
  | zero => rw [List.mem_singleton.1 hx, List.length_nil]
  | succ n ih =>
    obtain ⟨-, origin, horigin, edge, -, rfl⟩ := (nextRound_spec graph _ _).2.2 x hx
    rw [List.length_cons, ih horigin]

/-- A chain's last table is reached in the round of the chain's length, or before. -/
theorem Chain.exists_layer (h : graph.Chain start id way visited) :
    ∃ n, n ≤ way.length ∧ ∃ x ∈ (graph.layer start n).1, x.id = id := by
  induction h with
  | nil => exact ⟨0, Nat.le_refl 0, ⟨start, []⟩, List.mem_singleton.2 rfl, rfl⟩
  | snoc _ hstep ih =>
    obtain ⟨n, hle, x, hx, rfl⟩ := ih
    obtain ⟨m, hm, hreached⟩ := exists_layer_of_edge hx (step_iff.1 hstep)
    refine ⟨m, ?_, hreached⟩
    rw [List.length_append, List.length_singleton]
    omega

/-- No chain to a table is shorter than the way on which a round reaches it. -/
theorem Chain.length_way_le (h : graph.Chain start id way visited) {n : Nat} {x : Reached}
    (hx : x ∈ (graph.layer start n).1) (hid : x.id = id) : x.way.length ≤ way.length := by
  obtain ⟨m, hle, y, hy, hyid⟩ := h.exists_layer
  obtain rfl : x = y := reached_unique hx hy (hid.trans hyid.symm)
  rwa [length_way_of_layer m hy]

/-! ### Tables on a way -/

/-- The way to a table is a chain over tables that this round and those before it reach. None of
them is reached twice, so the chain visits none twice. -/
theorem exists_chain_of_layer (n : Nat) {x : Reached} (hx : x ∈ (graph.layer start n).1) :
    ∃ visited, graph.Chain start x.id x.way.reverse visited ∧ visited.Nodup ∧
      ∀ other ∈ visited, ∃ m, m ≤ n ∧ ∃ y ∈ (graph.layer start m).1, y.id = other := by
  induction n generalizing x with
  | zero =>
    obtain rfl := List.mem_singleton.1 hx
    refine ⟨[start], .nil, List.nodup_singleton _, ?_⟩
    intro other hother
    rw [List.mem_singleton.1 hother]
    exact ⟨0, Nat.le_refl 0, ⟨start, []⟩, hx, rfl⟩
  | succ n ih =>
    obtain ⟨hunseen, origin, horigin, edge, hedge, rfl⟩ := (nextRound_spec graph _ _).2.2 x hx
    obtain ⟨visited, hchain, hnodup, hreached⟩ := ih horigin
    have hnew : edge.next ∉ visited := by
      intro hmem
      obtain ⟨m, hle, y, hy, hyid⟩ := hreached _ hmem
      exact (layer_fresh m).seen y hy (hyid ▸ layer_unseen_subset hle hunseen)
    refine ⟨visited ++ [edge.next], ?_, ?_, ?_⟩
    · rw [List.reverse_cons]
      exact hchain.snoc (step_iff.2 hedge)
    · exact hnodup.append (List.nodup_singleton _) (List.disjoint_singleton.2 hnew)
    · intro other hother
      rcases List.mem_append.1 hother with hother | hother
      · obtain ⟨m, hle, hy⟩ := hreached other hother
        exact ⟨m, Nat.le_succ_of_le hle, hy⟩
      · rw [List.mem_singleton.1 hother]
        exact ⟨n + 1, Nat.le_refl _, _, hx, rfl⟩

/-! ### Paths -/

/-- The rounds end: after as many of them as there are tables nothing more is found. -/
theorem search_eq_path {rounds : Nat} (h : graph.tableIds.length ≤ rounds) :
    graph.search target rounds [⟨start, []⟩] (graph.tableIds.filter fun id => id != start) =
      graph.path start target := by
  refine Option.ext fun way => ?_
  rw [path_eq_some_iff]
  refine Iff.trans search_eq_some_iff ?_
  constructor
  · rintro ⟨n, -, hmem⟩
    exact ⟨n, Nat.le_trans (Nat.le_add_left _ _) (length_unseen_le n hmem), hmem⟩
  · rintro ⟨n, hle, hmem⟩
    exact ⟨n, Nat.le_trans hle h, hmem⟩

theorem exists_chain_of_path (h : graph.path start target = some way) :
    ∃ visited, graph.Chain start target way visited ∧ visited.Nodup := by
  obtain ⟨n, -, hmem⟩ := path_eq_some_iff.1 h
  obtain ⟨visited, hchain, hnodup, -⟩ := exists_chain_of_layer n hmem
  rw [List.reverse_reverse] at hchain
  exact ⟨visited, hchain, hnodup⟩

theorem length_path_le (h : graph.path start target = some way) {other : List Relationship}
    (hother : graph.Chain start target other visited) : way.length ≤ other.length := by
  obtain ⟨n, -, hmem⟩ := path_eq_some_iff.1 h
  simpa using hother.length_way_le hmem rfl

/-- A search ends within as many rounds as there are tables. It finds no path exactly if its target
is not the start and no chain leads there; otherwise what it finds is a chain that leads there,
visits no table twice and is as short as any. -/
theorem path_shortest (graph : JoinGraph) (start target : String) :
    (∀ rounds, graph.tableIds.length ≤ rounds →
      graph.search target rounds [⟨start, []⟩] (graph.tableIds.filter fun id => id != start) =
        graph.path start target) ∧
    (graph.path start target = none ↔
      start ≠ target ∧ ¬ ∃ way visited, graph.Chain start target way visited) ∧
    ∀ way, graph.path start target = some way →
      (∃ visited, graph.Chain start target way visited ∧ visited.Nodup) ∧
        ∀ other visited, graph.Chain start target other visited → way.length ≤ other.length := by
  refine ⟨fun rounds h => search_eq_path h, ?_, ?_⟩
  · constructor
    · intro hnone
      have hchain : ¬ ∃ way visited, graph.Chain start target way visited := by
        rintro ⟨way, visited, hchain⟩
        exact path_eq_none_iff.1 hnone hchain.connected
      refine ⟨?_, hchain⟩
      rintro rfl
      exact hchain ⟨[], [start], .nil⟩
    · rintro ⟨-, hnot⟩
      rw [Option.eq_none_iff_forall_ne_some]
      intro way hway
      obtain ⟨visited, hchain, -⟩ := exists_chain_of_path hway
      exact hnot ⟨way, visited, hchain⟩
  · intro way hway
    exact ⟨exists_chain_of_path hway, fun other visited hother => length_path_le hway hother⟩

end JoinGraph

end SemanticLayer
