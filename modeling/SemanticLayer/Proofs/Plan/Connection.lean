import Mathlib.Data.List.Induction
import Mathlib.Logic.Relation
import SemanticLayer.Proofs.Plan.Routes

/-!
Connected tables. A path is found between two tables exactly if they are connected, however the
search is ordered; so whether there is a path does not depend on the end that it starts from. The
tables of a plan are those that are connected to its first one.
-/

namespace SemanticLayer

namespace JoinGraph

/-- Whether a relationship of the graph may be followed from the one table to the other. -/
def Adjacent (graph : JoinGraph) (id next : String) : Prop :=
  ∃ r ∈ graph.relationships, graph.follows r = true ∧ r.Connects id next

/-- Whether relationships of the graph lead, one after the other, from the one table to the
other. -/
def Connected (graph : JoinGraph) : String → String → Prop :=
  Relation.ReflTransGen graph.Adjacent

variable {graph : JoinGraph} {start id next : String}

theorem Adjacent.symm (h : graph.Adjacent id next) : graph.Adjacent next id := by
  obtain ⟨r, hstored, hfollows, hends⟩ := h
  exact ⟨r, hstored, hfollows, hends.symm.imp And.symm And.symm⟩

theorem adjacent_iff : graph.Adjacent id next ↔ ∃ r, ⟨r, next⟩ ∈ graph.edges id := by
  simp [Adjacent, mem_edges]

theorem Connected.symm (h : graph.Connected id next) : graph.Connected next id := by
  induction h with
  | refl => exact .refl
  | tail _ hlast ih => exact ih.head hlast.symm

/-- Whether the tables lie in one component: each of them is connected to each other one. -/
def Unites (graph : JoinGraph) (ids : List String) : Prop :=
  ∀ id ∈ ids, ∀ other ∈ ids, graph.Connected id other

/-- It suffices that they are connected to one of them. -/
theorem unites_iff {ids : List String} (hstart : start ∈ ids) :
    graph.Unites ids ↔ ∀ id ∈ ids, graph.Connected start id := by
  constructor
  · intro h
    exact h start hstart
  · intro h id hid other hother
    exact (h id hid).symm.trans (h other hother)

/-- What following edges makes of a round: it takes tables from the unseen ones only to reach them,
and leaves none of the edges' ends unseen. -/
structure Progress (edges : List JoinEdge) (round later : List Reached × List String) :
    Prop where
  kept : round.1 ⊆ later.1
  unseen : later.2.Sublist round.2
  reached : ∀ id ∈ round.2, id ∉ later.2 → ∃ x ∈ later.1, x.id = id
  seen : ∀ edge ∈ edges, edge.next ∉ later.2

theorem Progress.refl (round : List Reached × List String) : Progress [] round round :=
  ⟨List.Subset.refl _, List.Sublist.refl _, fun _ hid hnot => absurd hid hnot, by simp⟩

theorem Progress.trans {first second : List JoinEdge}
    {round middle later : List Reached × List String} (h : Progress first round middle)
    (hnext : Progress second middle later) : Progress (first ++ second) round later where
  kept := List.Subset.trans h.kept hnext.kept
  unseen := hnext.unseen.trans h.unseen
  reached id hid hnot := by
    by_cases hmiddle : id ∈ middle.2
    · exact hnext.reached id hmiddle hnot
    · obtain ⟨x, hx, hxid⟩ := h.reached id hid hmiddle
      exact ⟨x, hnext.kept hx, hxid⟩
  seen edge hedge := by
    rcases List.mem_append.1 hedge with hedge | hedge
    · exact fun hmem => h.seen edge hedge (hnext.unseen.subset hmem)
    · exact hnext.seen edge hedge

theorem follow_progress (origin : Reached) (edges : List JoinEdge)
    (round : List Reached × List String) : Progress edges round (follow origin edges round) := by
  induction edges generalizing round with
  | nil => exact .refl round
  | cons edge rest ih =>
    obtain ⟨reached, unseen⟩ := round
    unfold follow
    split
    · have hfirst : Progress [edge] (reached, unseen)
          (reached ++ [⟨edge.next, edge.relationship :: origin.way⟩],
            unseen.filter fun id => id != edge.next) :=
        { kept := List.subset_append_left _ _
          unseen := List.filter_sublist
          reached := by
            intro id hid hnot
            obtain rfl : id = edge.next := by simpa [hid] using hnot
            exact ⟨_, List.mem_append_right _ (List.mem_singleton_self _), rfl⟩
          seen := by simp }
      exact hfirst.trans (ih _)
    · rename_i hseen
      have hfirst : Progress [edge] (reached, unseen) (reached, unseen) :=
        { Progress.refl (reached, unseen) with
          seen := by simpa using hseen }
      exact hfirst.trans (ih _)

theorem nextRound_progress (graph : JoinGraph) (reached : List Reached) (unseen : List String) :
    Progress (reached.flatMap fun origin => graph.edges origin.id) ([], unseen)
      (graph.nextRound reached unseen) := by
  unfold nextRound
  generalize (([], unseen) : List Reached × List String) = round
  induction reached generalizing round with
  | nil => exact .refl round
  | cons origin rest ih =>
    rw [List.foldl_cons, List.flatMap_cons]
    exact (follow_progress origin _ round).trans (ih _)

/-! ### Progress of the rounds -/

/-- A table that is no longer unseen has been reached. -/
theorem exists_layer_of_seen (n : Nat) (hid : id ∈ graph.tableIds)
    (hseen : id ∉ (graph.layer start n).2) :
    ∃ m, m ≤ n ∧ ∃ x ∈ (graph.layer start m).1, x.id = id := by
  induction n with
  | zero =>
    obtain rfl : id = start := by simpa [layer, hid] using hseen
    exact ⟨0, Nat.le_refl 0, ⟨id, []⟩, List.mem_singleton.2 rfl, rfl⟩
  | succ n ih =>
    by_cases hunseen : id ∈ (graph.layer start n).2
    · exact ⟨n + 1, Nat.le_refl _, (nextRound_progress graph _ _).reached id hunseen hseen⟩
    · obtain ⟨m, hle, hreached⟩ := ih hunseen
      exact ⟨m, Nat.le_succ_of_le hle, hreached⟩

/-- The next round after one that reaches a table reaches its neighbours, unless they have been
reached before. -/
theorem exists_layer_of_edge {n : Nat} {x : Reached} {r : Relationship}
    (hx : x ∈ (graph.layer start n).1) (hedge : ⟨r, next⟩ ∈ graph.edges x.id) :
    ∃ m, m ≤ n + 1 ∧ ∃ y ∈ (graph.layer start m).1, y.id = next := by
  have hnext : next ∈ graph.tableIds := mem_tableIds_of_edge hedge
  have hprogress := nextRound_progress graph (graph.layer start n).1 (graph.layer start n).2
  exact exists_layer_of_seen (n + 1) hnext (hprogress.seen _ (List.mem_flatMap.2 ⟨x, hx, hedge⟩))

/-- Every connected table is reached in some round. -/
theorem Connected.exists_layer (h : graph.Connected start id) :
    ∃ n, ∃ x ∈ (graph.layer start n).1, x.id = id := by
  induction h with
  | refl => exact ⟨0, ⟨start, []⟩, List.mem_singleton.2 rfl, rfl⟩
  | tail _ hlast ih =>
    obtain ⟨n, x, hx, rfl⟩ := ih
    obtain ⟨r, hedge⟩ := adjacent_iff.1 hlast
    obtain ⟨m, -, hreached⟩ := exists_layer_of_edge hx hedge
    exact ⟨m, hreached⟩

/-- A round that reaches a table leaves fewer tables unseen than the one before, so no table is
reached later than there are tables. -/
theorem length_unseen_le (n : Nat) {x : Reached} (hx : x ∈ (graph.layer start n).1) :
    (graph.layer start n).2.length + n ≤ graph.tableIds.length := by
  induction n generalizing x with
  | zero => exact List.length_filter_le _ _
  | succ n ih =>
    obtain ⟨hunseen, origin, horigin, -⟩ := (nextRound_spec graph _ _).2.2 x hx
    have hsublist := (nextRound_progress graph (graph.layer start n).1
      (graph.layer start n).2).unseen
    have hseen : x.id ∉ (graph.layer start (n + 1)).2 := (layer_fresh (n + 1)).seen x hx
    have hlt : (graph.layer start (n + 1)).2.length < (graph.layer start n).2.length :=
      Nat.lt_of_le_of_ne hsublist.length_le fun heq =>
        hseen (hsublist.eq_of_length heq ▸ hunseen)
    have hbefore := ih horigin
    omega

/-! ### Paths -/

/-- A path leads along relationships of the graph. -/
theorem connected_of_path {way : List Relationship} (h : graph.path start id = some way) :
    graph.Connected start id := by
  induction way using List.reverseRecOn generalizing id with
  | nil =>
    rcases path_cases h with ⟨-, rfl⟩ | ⟨front, r, origin, hway, -, -⟩
    · exact .refl
    · simp at hway
  | append_singleton front r ih =>
    rcases path_cases h with ⟨hway, -⟩ | ⟨other, last, origin, hway, hfront, hedge⟩
    · simp at hway
    · obtain ⟨rfl, -⟩ := List.append_inj' hway rfl
      exact (ih hfront).tail (adjacent_iff.2 ⟨last, hedge⟩)

/-- A path is found exactly to the tables that are connected to the start. -/
theorem path_isSome_iff : (graph.path start id).isSome = true ↔ graph.Connected start id := by
  constructor
  · intro h
    obtain ⟨way, hway⟩ := Option.isSome_iff_exists.1 h
    exact connected_of_path hway
  · intro h
    obtain ⟨n, x, hx, rfl⟩ := h.exists_layer
    have hround := length_unseen_le n hx
    have hpath : graph.path start x.id = some x.way.reverse := by
      refine path_eq_some_iff.2 ⟨n, by omega, ?_⟩
      rwa [List.reverse_reverse]
    rw [hpath, Option.isSome_some]

theorem path_eq_none_iff : graph.path start id = none ↔ ¬ graph.Connected start id := by
  rw [← path_isSome_iff, Bool.not_eq_true, Option.isSome_eq_false_iff, Option.isNone_iff_eq_none]

end JoinGraph

/-! ### Tables of a plan -/

variable {graph : JoinGraph} {tables : List Table} {rootId : String}
  {required optional skipped : List String} {relationships : List Relationship}

theorem mem_unreached {start id : String} {targets : List String} :
    id ∈ (graph.routes start targets).unreached ↔ id ∈ targets ∧ ¬ graph.Connected start id := by
  rw [JoinGraph.routes_eq, List.mem_filter, Option.isNone_iff_eq_none, JoinGraph.path_eq_none_iff]

/-- Where the tables of a request are connected, the required ones are all connected to the first
table, and just the optional ones that are not are left out. -/
theorem connected_of_connect
    (h : connect graph tables rootId required optional = .ok (relationships, skipped)) :
    (∀ id ∈ required, graph.Connected rootId id) ∧
      ∀ id, id ∈ skipped ↔ id ∈ optional ∧ ¬ graph.Connected rootId id := by
  unfold connect at h
  dsimp only at h
  split at h
  · cases h
  · rename_i hreached
    obtain ⟨-, rfl⟩ := Prod.mk.inj (Except.ok.inj h)
    refine ⟨fun id hid => ?_, fun id => mem_unreached⟩
    by_contra hnot
    have hmem := mem_unreached.2 ⟨hid, hnot⟩
    simp [hreached] at hmem

/-- Tables of a request that are connected lie in one component, and just the optional ones outside
of it are left out. It does not matter which of the required tables comes first. -/
theorem unites_of_connect (hroot : rootId ∈ required)
    (h : connect graph tables rootId required optional = .ok (relationships, skipped)) :
    graph.Unites required ∧
      ∀ id, id ∈ skipped ↔ id ∈ optional ∧ ∀ other ∈ required, ¬ graph.Connected other id := by
  obtain ⟨hrequired, hskipped⟩ := connected_of_connect h
  refine ⟨(JoinGraph.unites_iff hroot).2 hrequired, ?_⟩
  intro id
  rw [hskipped id]
  apply and_congr_right
  intro _
  constructor
  · intro hnot other hother hconnected
    exact hnot ((hrequired other hother).trans hconnected)
  · intro hnone
    exact hnone rootId hroot

end SemanticLayer
