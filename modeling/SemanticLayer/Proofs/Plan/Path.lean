import Mathlib.Data.List.Nodup
import SemanticLayer.Plan.JoinGraph

/-!
Paths of a join graph. A search reaches every table at most once, so the way to a table does not
depend on which table is looked for. This makes the paths from one table a tree: a path to another
table is a path to one of its neighbours, and one relationship more.
-/

namespace SemanticLayer

/-- Whether the relationship is between the two tables, in one direction or the other. -/
def Relationship.Connects (r : Relationship) (id next : String) : Prop :=
  r.fromTableId = id ∧ r.toTableId = next ∨ r.toTableId = id ∧ r.fromTableId = next

namespace JoinGraph

/-- One relationship makes an edge in both directions. -/
theorem mem_edges {graph : JoinGraph} {id next : String} {r : Relationship} :
    ⟨r, next⟩ ∈ graph.edges id ↔
      r ∈ graph.relationships ∧ graph.follows r = true ∧ r.Connects id next := by
  unfold edges
  rw [List.mem_flatMap]
  constructor
  · rintro ⟨other, hother, hedge⟩
    obtain ⟨hmem, hfollows⟩ := List.mem_filter.1 hother
    unfold edgesOf at hedge
    rcases List.mem_append.1 hedge with h | h
    all_goals
      split at h
      · obtain ⟨rfl, rfl⟩ := JoinEdge.mk.inj (List.mem_singleton.1 h)
        simp_all [Relationship.Connects]
      · simp at h
  · rintro ⟨hmem, hfollows, hends⟩
    refine ⟨r, List.mem_filter.2 ⟨hmem, hfollows⟩, ?_⟩
    unfold edgesOf
    rcases hends with ⟨rfl, rfl⟩ | ⟨rfl, rfl⟩ <;> simp

/-! ### One round -/

/-- What a round keeps while edges are followed: nothing is reached twice, and nothing that has been
reached counts as unseen. -/
structure IsFresh (round : List Reached × List String) : Prop where
  nodup : (round.1.map Reached.id).Nodup
  seen : ∀ x ∈ round.1, x.id ∉ round.2

theorem follow_fresh (origin : Reached) (edges : List JoinEdge)
    (round : List Reached × List String) (h : IsFresh round) :
    IsFresh (follow origin edges round) := by
  induction edges generalizing round with
  | nil => exact h
  | cons edge rest ih =>
    obtain ⟨reached, unseen⟩ := round
    unfold follow
    split
    · rename_i hunseen
      apply ih
      have hnew : edge.next ∉ reached.map Reached.id := by
        intro hmem
        obtain ⟨x, hx, hid⟩ := List.mem_map.1 hmem
        exact h.seen x hx (by simpa [hid] using hunseen)
      constructor
      · rw [List.map_append]
        exact h.nodup.append (List.nodup_singleton _) (List.disjoint_singleton.2 hnew)
      · intro x hx
        rcases List.mem_append.1 hx with hx | hx
        · exact fun hmem => h.seen x hx (List.mem_filter.1 hmem).1
        · rw [List.mem_singleton.1 hx]
          simp
    · exact ih _ h

theorem mem_unseen_of_follow (origin : Reached) (edges : List JoinEdge)
    (round : List Reached × List String) (id : String)
    (h : id ∈ (follow origin edges round).2) : id ∈ round.2 := by
  induction edges generalizing round with
  | nil => exact h
  | cons edge rest ih =>
    obtain ⟨reached, unseen⟩ := round
    unfold follow at h
    split at h
    · exact (List.mem_filter.1 (ih _ h)).1
    · exact ih _ h

/-- A table is reached over an edge of the origin, and only if it was unseen. -/
theorem mem_follow (origin : Reached) (edges : List JoinEdge)
    (round : List Reached × List String) (x : Reached)
    (h : x ∈ (follow origin edges round).1) :
    x ∈ round.1 ∨ x.id ∈ round.2 ∧
      ∃ edge ∈ edges, x = ⟨edge.next, edge.relationship :: origin.way⟩ := by
  induction edges generalizing round with
  | nil => exact .inl h
  | cons edge rest ih =>
    obtain ⟨reached, unseen⟩ := round
    unfold follow at h
    split at h
    · rename_i hunseen
      rcases ih _ h with hx | ⟨hid, other, hother, rfl⟩
      · rcases List.mem_append.1 hx with hx | hx
        · exact .inl hx
        · obtain rfl := List.mem_singleton.1 hx
          exact .inr ⟨by simpa using hunseen, edge, by simp, rfl⟩
      · exact .inr ⟨(List.mem_filter.1 hid).1, other, by simp [hother], rfl⟩
    · rcases ih _ h with hx | ⟨hid, other, hother, rfl⟩
      · exact .inl hx
      · exact .inr ⟨hid, other, by simp [hother], rfl⟩

/-- What is true of the tables of a round: their origins were reached in the round before. -/
theorem nextRound_spec (graph : JoinGraph) (reached : List Reached) (unseen : List String) :
    IsFresh (graph.nextRound reached unseen) ∧
      (graph.nextRound reached unseen).2 ⊆ unseen ∧
      ∀ x ∈ (graph.nextRound reached unseen).1, x.id ∈ unseen ∧
        ∃ origin ∈ reached, ∃ edge ∈ graph.edges origin.id,
          x = ⟨edge.next, edge.relationship :: origin.way⟩ := by
  -- The fold is at any list of origins that are left, with any round so far.
  suffices run : ∀ (origins : List Reached) (round : List Reached × List String),
      origins ⊆ reached → IsFresh round → round.2 ⊆ unseen →
      (∀ x ∈ round.1, x.id ∈ unseen ∧ ∃ origin ∈ reached, ∃ edge ∈ graph.edges origin.id,
        x = ⟨edge.next, edge.relationship :: origin.way⟩) →
      let last := origins.foldl
        (fun round origin => follow origin (graph.edges origin.id) round) round
      IsFresh last ∧ last.2 ⊆ unseen ∧
        ∀ x ∈ last.1, x.id ∈ unseen ∧ ∃ origin ∈ reached, ∃ edge ∈ graph.edges origin.id,
          x = ⟨edge.next, edge.relationship :: origin.way⟩ by
    exact run reached ([], unseen) (List.Subset.refl _) ⟨List.nodup_nil, by simp⟩
      (List.Subset.refl _) (by simp)
  intro origins
  induction origins with
  | nil => exact fun round _ hfresh hunseen hmem => ⟨hfresh, hunseen, hmem⟩
  | cons origin rest ih =>
    intro round hsubset hfresh hunseen hmem
    apply ih
    · exact fun x hx => hsubset (List.mem_cons_of_mem _ hx)
    · exact follow_fresh _ _ _ hfresh
    · exact fun id hid => hunseen (mem_unseen_of_follow _ _ _ _ hid)
    · intro x hx
      rcases mem_follow _ _ _ _ hx with hx | ⟨hid, edge, hedge, heq⟩
      · exact hmem x hx
      · exact ⟨hunseen hid, origin, hsubset (by simp), edge, hedge, heq⟩

/-! ### All rounds -/

/-- The tables that are reached in a round, and those still unseen after it. -/
def layer (graph : JoinGraph) (start : String) : Nat → List Reached × List String
  | 0 => ([⟨start, []⟩], graph.tableIds.filter fun id => id != start)
  | n + 1 => graph.nextRound (graph.layer start n).1 (graph.layer start n).2

variable {graph : JoinGraph} {start : String}

theorem layer_fresh (n : Nat) : IsFresh (graph.layer start n) := by
  cases n with
  | zero => exact ⟨List.nodup_singleton _, by simp [layer]⟩
  | succ n => exact (nextRound_spec graph _ _).1

theorem layer_unseen_subset {m n : Nat} (h : m ≤ n) :
    (graph.layer start n).2 ⊆ (graph.layer start m).2 := by
  induction h with
  | refl => exact List.Subset.refl _
  | step _ ih => exact fun id hid => ih ((nextRound_spec graph _ _).2.1 hid)

/-- The way to a table is unique: no table is reached again, in the same round or later. -/
theorem reached_unique {m n : Nat} {x y : Reached} (hx : x ∈ (graph.layer start m).1)
    (hy : y ∈ (graph.layer start n).1) (hid : x.id = y.id) : x = y := by
  wlog hle : m ≤ n generalizing m n x y
  · exact (this hy hx hid.symm (by omega)).symm
  rcases Nat.lt_or_eq_of_le hle with hlt | rfl
  · obtain ⟨k, rfl⟩ : ∃ k, n = k + 1 := ⟨n - 1, by omega⟩
    have hunseen : y.id ∈ (graph.layer start k).2 := ((nextRound_spec graph _ _).2.2 y hy).1
    have hseen : y.id ∉ (graph.layer start m).2 := hid ▸ (layer_fresh m).seen x hx
    exact absurd (layer_unseen_subset (by omega) hunseen) hseen
  · exact List.inj_on_of_nodup_map (layer_fresh m).nodup hx hy hid

/-- A table that a round reaches, and the way to it, if it is one of the rounds up to `last`. -/
def ReachedBy (graph : JoinGraph) (start : String) (last : Nat) (target : String)
    (way : List Relationship) : Prop :=
  ∃ n, n ≤ last ∧ ⟨target, way⟩ ∈ (graph.layer start n).1

theorem ReachedBy.unique {m n : Nat} {target : String} {left right : List Relationship}
    (hleft : graph.ReachedBy start m target left) (hright : graph.ReachedBy start n target right) :
    left = right := by
  obtain ⟨_, -, hl⟩ := hleft
  obtain ⟨_, -, hr⟩ := hright
  exact congrArg Reached.way (reached_unique hl hr rfl)

theorem reachedBy_of_find {n last : Nat} {target : String} {found : Reached} (hle : n ≤ last)
    (h : (graph.layer start n).1.find? (·.id == target) = some found) :
    graph.ReachedBy start last target found.way := by
  obtain rfl : found.id = target := by simpa using List.find?_some h
  exact ⟨n, hle, List.mem_of_find?_eq_some h⟩

/-- A search goes on from the n-th round, which is the first one to look at. What it finds is the
way to the target; if it finds nothing, none of the rounds that it may look at leads there. -/
theorem search_spec (graph : JoinGraph) (start : String) (n rounds : Nat) (target : String) :
    match graph.search target rounds (graph.layer start n).1 (graph.layer start n).2 with
    | some way => graph.ReachedBy start (n + rounds) target way.reverse
    | none => ∀ m, n ≤ m → m ≤ n + rounds → ∀ x ∈ (graph.layer start m).1, x.id ≠ target := by
  induction rounds generalizing n with
  | zero =>
    unfold search
    cases hfound : (graph.layer start n).1.find? (·.id == target) with
    | some found =>
      rw [Option.map_some]
      simpa using reachedBy_of_find (by omega) hfound
    | none =>
      intro m hle hge
      obtain rfl : m = n := by omega
      simpa using hfound
  | succ rounds ih =>
    unfold search
    cases hfound : (graph.layer start n).1.find? (·.id == target) with
    | some found => simpa using reachedBy_of_find (by omega) hfound
    | none =>
      have hnext := ih (n + 1)
      change match graph.search target rounds (graph.layer start (n + 1)).1
          (graph.layer start (n + 1)).2 with
        | some way => graph.ReachedBy start (n + (rounds + 1)) target way.reverse
        | none => ∀ m, n ≤ m → m ≤ n + (rounds + 1) →
            ∀ x ∈ (graph.layer start m).1, x.id ≠ target
      split <;> rename_i heq <;> rw [heq] at hnext
      · rwa [Nat.add_right_comm] at hnext
      · intro m hle hge
        rcases Nat.eq_or_lt_of_le hle with rfl | hlt
        · simpa using hfound
        · exact hnext m hlt (by omega)

/-- What a search finds is the way on which one of the rounds that it looks at reaches the
target. -/
theorem search_eq_some_iff {rounds : Nat} {target : String} {way : List Relationship} :
    graph.search target rounds (graph.layer start 0).1 (graph.layer start 0).2 = some way ↔
      graph.ReachedBy start rounds target way.reverse := by
  have hsearch := search_spec graph start 0 rounds target
  rw [Nat.zero_add] at hsearch
  cases hfound : graph.search target rounds (graph.layer start 0).1 (graph.layer start 0).2 with
  | some found =>
    rw [hfound] at hsearch
    constructor
    · intro h
      exact Option.some.inj h ▸ hsearch
    · intro h
      rw [List.reverse_injective (hsearch.unique h)]
  | none =>
    rw [hfound] at hsearch
    simp only [reduceCtorEq, false_iff]
    rintro ⟨n, hle, hmem⟩
    exact hsearch n n.zero_le hle _ hmem rfl

/-! ### Paths -/

/-- A path is the way on which one of the rounds reaches the target; there are no more rounds than
tables. -/
theorem path_eq_some_iff {target : String} {way : List Relationship} :
    graph.path start target = some way ↔
      graph.ReachedBy start graph.tableIds.length target way.reverse :=
  search_eq_some_iff

theorem path_self : graph.path start start = some [] :=
  path_eq_some_iff.2 ⟨0, Nat.zero_le _, List.mem_singleton.2 rfl⟩

/-- The paths from one table are a tree: a path to another table goes on from the path to the table
before it. -/
theorem path_cases {target : String} {way : List Relationship}
    (h : graph.path start target = some way) :
    way = [] ∧ target = start ∨
      ∃ front r origin, way = front ++ [r] ∧ graph.path start origin = some front ∧
        ⟨r, target⟩ ∈ graph.edges origin := by
  obtain ⟨n, hle, hmem⟩ := path_eq_some_iff.1 h
  cases n with
  | zero =>
    obtain ⟨rfl, hway⟩ := Reached.mk.inj (List.mem_singleton.1 hmem)
    exact .inl ⟨List.reverse_eq_nil_iff.1 hway, rfl⟩
  | succ n =>
    obtain ⟨-, origin, horigin, edge, hedge, heq⟩ := (nextRound_spec graph _ _).2.2 _ hmem
    obtain ⟨rfl, hway⟩ := Reached.mk.inj heq
    refine .inr ⟨origin.way.reverse, edge.relationship, origin.id, ?_, ?_, hedge⟩
    · rw [← List.reverse_cons, ← hway, List.reverse_reverse]
    · refine path_eq_some_iff.2 ⟨n, by omega, ?_⟩
      rwa [List.reverse_reverse]

/-- An edge does not leave the graph. -/
theorem mem_tableIds_of_edge {id next : String} {r : Relationship}
    (h : ⟨r, next⟩ ∈ graph.edges id) : next ∈ graph.tableIds := by
  obtain ⟨-, hfollows, hends⟩ := mem_edges.1 h
  simp only [follows, Bool.and_eq_true, List.contains_iff_mem] at hfollows
  rcases hends with ⟨-, rfl⟩ | ⟨-, rfl⟩
  · exact hfollows.2
  · exact hfollows.1.2

/-- A path does not leave the graph. -/
theorem mem_tableIds_of_path {target : String} {way : List Relationship}
    (h : graph.path start target = some way) (hstart : start ∈ graph.tableIds) :
    target ∈ graph.tableIds := by
  rcases path_cases h with ⟨-, rfl⟩ | ⟨front, r, origin, -, -, hedge⟩
  · exact hstart
  · exact mem_tableIds_of_edge hedge

end JoinGraph

end SemanticLayer
