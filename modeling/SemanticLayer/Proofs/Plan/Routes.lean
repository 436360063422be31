import Mathlib.Data.List.Induction
import SemanticLayer.Plan.Basic
import SemanticLayer.Proofs.Plan.Joins

/-!
The relationships that a plan joins along. They are collected along the paths from one table to all
others, each relationship once. Since the paths are a tree, the collected relationships lead one
after the other to new tables, which is the order that makes the joins a tree.
-/

namespace SemanticLayer

/-- Adds a relationship to those collected before, unless one of its identifier is there. -/
def addById (seen : List Relationship) (r : Relationship) : List Relationship :=
  if seen.any (·.id == r.id) then seen else seen ++ [r]

theorem distinctById_eq (relationships : List Relationship) :
    distinctById relationships = relationships.foldl addById [] := rfl

theorem addById_of_mem {seen : List Relationship} {r : Relationship} (h : r ∈ seen) :
    addById seen r = seen := by
  unfold addById
  rw [if_pos]
  exact List.any_eq_true.2 ⟨r, h, beq_self_eq_true _⟩

/-- Where identifiers are not shared, a relationship that is not there yet is added. -/
theorem addById_of_not_mem {stored seen : List Relationship} {r : Relationship}
    (hdistinct : (stored.map Relationship.id).Nodup) (hseen : seen ⊆ stored) (hr : r ∈ stored)
    (h : r ∉ seen) : addById seen r = seen ++ [r] := by
  unfold addById
  rw [if_neg]
  intro hany
  obtain ⟨other, hother, heq⟩ := List.any_eq_true.1 hany
  exact h (List.inj_on_of_nodup_map hdistinct (hseen hother) hr (by simpa using heq) ▸ hother)

namespace JoinGraph

open JoinPlan

/-- What holds of relationships that are collected along paths from one table: they lead to one new
table each, and a table that they lead to is reached on its path by them alone. -/
structure Collects (graph : JoinGraph) (start : String) (relationships : List Relationship)
    (all : List String) : Prop where
  leads : Leads [start] relationships all
  covers : ∀ id ∈ all, ∃ way, graph.path start id = some way ∧ way ⊆ relationships
  stored : ∀ r ∈ relationships, r ∈ graph.relationships ∧ graph.follows r = true

variable {graph : JoinGraph} {start : String} {relationships : List Relationship}
  {all : List String}

theorem collects_nil : graph.Collects start [] [start] where
  leads := .nil
  covers := by
    intro id hid
    rw [List.mem_singleton.1 hid]
    exact ⟨[], path_self, List.nil_subset _⟩
  stored := by simp

/-- One more relationship of a path: either it leads to a table that is new, or the table has been
reached before, and then over this very relationship. -/
theorem Collects.step (hdistinct : (graph.relationships.map Relationship.id).Nodup)
    (h : graph.Collects start relationships all) {front : List Relationship} {r : Relationship}
    {origin next : String} (hpath : graph.path start next = some (front ++ [r]))
    (hfront : graph.path start origin = some front) (hedge : ⟨r, next⟩ ∈ graph.edges origin)
    (horigin : origin ∈ all) :
    ∃ more, graph.Collects start (addById relationships r) more ∧ all ⊆ more ∧ next ∈ more := by
  obtain ⟨hstored, hfollows, hconnects⟩ := mem_edges.1 hedge
  by_cases hnext : next ∈ all
  · obtain ⟨way, hway, hsubset⟩ := h.covers next hnext
    obtain rfl : front ++ [r] = way := Option.some.inj (hpath.symm.trans hway)
    rw [addById_of_mem (hsubset (by simp))]
    exact ⟨all, h, List.Subset.refl _, hnext⟩
  · have hr : r ∉ relationships := by
      intro hr
      have hends := h.leads.ends r hr
      rcases hconnects with ⟨-, rfl⟩ | ⟨-, rfl⟩
      · exact hnext hends.2
      · exact hnext hends.1
    rw [addById_of_not_mem hdistinct (fun other hother => (h.stored other hother).1) hstored hr]
    refine ⟨all ++ [next], ⟨h.leads.snoc horigin hnext hconnects, ?_, ?_⟩, by simp, by simp⟩
    · intro id hid
      rcases List.mem_append.1 hid with hid | hid
      · obtain ⟨way, hway, hsubset⟩ := h.covers id hid
        exact ⟨way, hway, fun other hother => List.mem_append_left _ (hsubset hother)⟩
      · rw [List.mem_singleton.1 hid]
        obtain ⟨way, hway, hsubset⟩ := h.covers origin horigin
        obtain rfl : front = way := Option.some.inj (hfront.symm.trans hway)
        exact ⟨front ++ [r], hpath, List.append_subset.2
          ⟨fun other hother => List.mem_append_left _ (hsubset hother), by simp⟩⟩
    · intro other hother
      rcases List.mem_append.1 hother with hother | hother
      · exact h.stored other hother
      · exact List.mem_singleton.1 hother ▸ ⟨hstored, hfollows⟩

/-- All relationships of one path. -/
theorem Collects.path (hdistinct : (graph.relationships.map Relationship.id).Nodup)
    (h : graph.Collects start relationships all) {target : String} {way : List Relationship}
    (hpath : graph.path start target = some way) :
    ∃ more, graph.Collects start (way.foldl addById relationships) more ∧ all ⊆ more ∧
      target ∈ more := by
  induction way using List.reverseRecOn generalizing target with
  | nil =>
    rcases path_cases hpath with ⟨-, rfl⟩ | ⟨front, r, origin, hway, -, -⟩
    · exact ⟨all, h, List.Subset.refl _, h.leads.subset (by simp)⟩
    · simp at hway
  | append_singleton front r ih =>
    rcases path_cases hpath with ⟨hway, -⟩ | ⟨other, last, origin, hway, hfront, hedge⟩
    · simp at hway
    · obtain ⟨rfl, hlast⟩ := List.append_inj' hway rfl
      obtain rfl : r = last := by simpa using hlast
      obtain ⟨more, hmore, hsubset, horigin⟩ := ih hfront
      obtain ⟨most, hmost, hmoreSubset, hnext⟩ := hmore.step hdistinct hpath hfront hedge horigin
      rw [List.foldl_append]
      exact ⟨most, hmost, List.Subset.trans hsubset hmoreSubset, hnext⟩

/-- All relationships of the paths to a list of targets. -/
theorem Collects.paths (hdistinct : (graph.relationships.map Relationship.id).Nodup)
    (h : graph.Collects start relationships all) (targets : List String) :
    ∃ more, graph.Collects start
        ((targets.filterMap (graph.path start)).flatten.foldl addById relationships) more ∧
      all ⊆ more ∧ ∀ target ∈ targets, (graph.path start target).isSome → target ∈ more := by
  induction targets generalizing relationships all with
  | nil => exact ⟨all, h, List.Subset.refl _, by simp⟩
  | cons target rest ih =>
    cases hpath : graph.path start target with
    | none =>
      obtain ⟨more, hmore, hsubset, hrest⟩ := ih h
      rw [List.filterMap_cons_none hpath]
      refine ⟨more, hmore, hsubset, ?_⟩
      intro other hother hsome
      rcases List.mem_cons.1 hother with rfl | hother
      · simp [hpath] at hsome
      · exact hrest other hother hsome
    | some way =>
      obtain ⟨reached, hreached, hsubset, htarget⟩ := h.path hdistinct hpath
      obtain ⟨more, hmore, hmoreSubset, hrest⟩ := ih hreached
      rw [List.filterMap_cons_some hpath, List.flatten_cons, List.foldl_append]
      refine ⟨more, hmore, List.Subset.trans hsubset hmoreSubset, ?_⟩
      intro other hother hsome
      rcases List.mem_cons.1 hother with rfl | hother
      · exact hmoreSubset htarget
      · exact hrest other hother hsome

theorem routes_eq (graph : JoinGraph) (start : String) (targets : List String) :
    graph.routes start targets =
      ⟨(targets.filterMap (graph.path start)).flatten,
        targets.filter fun target => (graph.path start target).isNone⟩ := by
  -- The last target is the one that is looked at after all others.
  induction targets using List.reverseRecOn with
  | nil => rfl
  | append_singleton rest target ih =>
    unfold routes at ih ⊢
    rw [List.foldl_append, ih, List.foldl_cons, List.foldl_nil]
    cases hpath : graph.path start target <;> simp [hpath]

end JoinGraph

/-- Where all required tables are reached, the relationships to join along are collected on the
paths to them and to the optional tables; those without a path are left out. -/
theorem connect_eq_ok {graph : JoinGraph} {tables : List Table} {rootId : String}
    {required optional skipped : List String} {relationships : List Relationship}
    (hdistinct : (graph.relationships.map Relationship.id).Nodup)
    (h : connect graph tables rootId required optional = .ok (relationships, skipped)) :
    ∃ all, graph.Collects rootId relationships all ∧ required ⊆ all ∧
      skipped = optional.filter (fun id => (graph.path rootId id).isNone) ∧
      ∀ id ∈ optional, id ∉ skipped → id ∈ all := by
  unfold connect at h
  simp only [JoinGraph.routes_eq] at h
  split at h
  · cases h
  · rename_i hreached
    obtain ⟨rfl, rfl⟩ := Prod.mk.inj (Except.ok.inj h)
    obtain ⟨most, hmost, -, hrequired⟩ := JoinGraph.collects_nil.paths hdistinct required
    obtain ⟨all, hall, hsubset, hoptional⟩ := hmost.paths hdistinct optional
    refine ⟨all, ?_, ?_, rfl, ?_⟩
    · rwa [distinctById_eq, List.foldl_append]
    · intro id hid
      have hsome := List.filter_eq_nil_iff.1 hreached id hid
      exact hsubset (hrequired id hid (by simpa [Option.isSome_iff_ne_none] using hsome))
    · intro id hid hskipped
      exact hoptional id hid (by simpa [hid, Option.isSome_iff_ne_none] using hskipped)

end SemanticLayer
