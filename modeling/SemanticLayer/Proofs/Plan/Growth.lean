import SemanticLayer.Proofs.Plan.SpanningTree

/-!
Joins of any relationships. Relationships that share an identifier are collected only once, so those
that connect the tables of a request may be too few to reach all of them, and perhaps not all of
them can be joined, which is reported. Whatever is joined is a tree of tables of the request all the
same.
-/

namespace SemanticLayer

/-! ### Collected relationships -/

theorem distinctById_subset (relationships : List Relationship) :
    distinctById relationships ⊆ relationships := by
  have hcollected (seen rest : List Relationship) : rest.foldl addById seen ⊆ seen ++ rest := by
    induction rest generalizing seen with
    | nil => simp
    | cons r rest ih =>
      rw [List.foldl_cons]
      refine List.Subset.trans (ih _) (List.append_subset.2 ⟨?_, by simp⟩)
      unfold addById
      split <;> simp
  rw [distinctById_eq]
  exact hcollected [] relationships

/-- A path leads along relationships that may be followed. -/
theorem JoinGraph.follows_of_path {graph : JoinGraph} {start id : String}
    {way : List Relationship} (h : graph.path start id = some way) :
    ∀ r ∈ way, graph.follows r = true := by
  induction way using List.reverseRecOn generalizing id with
  | nil => simp
  | append_singleton front r ih =>
    rcases path_cases h with ⟨hway, -⟩ | ⟨other, last, origin, hway, hfront, hedge⟩
    · simp at hway
    · obtain ⟨rfl, hlast⟩ := List.append_inj' hway rfl
      obtain rfl : r = last := by simpa using hlast
      intro taken htaken
      rcases List.mem_append.1 htaken with htaken | htaken
      · exact ih hfront taken htaken
      · rw [List.mem_singleton.1 htaken]
        exact (mem_edges.1 hedge).2.1

theorem JoinGraph.follows_of_routes {graph : JoinGraph} {start : String} {targets : List String} :
    ∀ r ∈ (graph.routes start targets).relationships, graph.follows r = true := by
  rw [routes_eq]
  intro r hr
  obtain ⟨way, hway, hmem⟩ := List.mem_flatten.1 hr
  obtain ⟨target, -, hpath⟩ := List.mem_filterMap.1 hway
  exact follows_of_path hpath r hmem

/-- The tables of a request are connected along relationships that may be followed. -/
theorem follows_of_connect {graph : JoinGraph} {tables : List Table} {rootId : String}
    {required optional skipped : List String} {relationships : List Relationship}
    (h : connect graph tables rootId required optional = .ok (relationships, skipped)) :
    ∀ r ∈ relationships, graph.follows r = true := by
  unfold connect at h
  dsimp only at h
  split at h
  · cases h
  · obtain ⟨rfl, -⟩ := Prod.mk.inj (Except.ok.inj h)
    intro r hr
    rcases List.mem_append.1 (distinctById_subset _ hr) with hr | hr <;>
      exact JoinGraph.follows_of_routes r hr

/-- Both tables of each of the relationships belong to the request. -/
theorem PlanScope.Connects.ends_mem {scope : PlanScope} {catalog : Catalog} {spec : QuerySpec}
    (h : scope.Connects catalog spec) : ∀ r ∈ scope.relationships,
      r.fromTableId ∈ scope.tables.map Table.id ∧ r.toTableId ∈ scope.tables.map Table.id := by
  intro r hr
  have hfollows := follows_of_connect h.connected r hr
  simp only [JoinGraph.follows, Bool.and_eq_true, List.contains_iff_mem] at hfollows
  exact ⟨hfollows.1.2, hfollows.2⟩

/-! ### Growing -/

theorem takeFirst_eq_some {α : Type} {p : α → Bool} {items others : List α} {found : α}
    (h : takeFirst p items = some (found, others)) :
    p found = true ∧ (found :: others).Perm items := by
  induction items generalizing others with
  | nil => cases h
  | cons item rest ih =>
    unfold takeFirst at h
    split at h
    · rename_i hp
      obtain ⟨rfl, rfl⟩ := Prod.mk.inj (Option.some.inj h)
      exact ⟨hp, .refl _⟩
    · obtain ⟨⟨other, left⟩, htaken, heq⟩ := Option.map_eq_some_iff.1 h
      obtain ⟨rfl, rfl⟩ := Prod.mk.inj heq
      obtain ⟨hp, hperm⟩ := ih htaken
      exact ⟨hp, (List.Perm.swap _ _ _).trans (hperm.cons item)⟩

theorem takeFirst_eq_none {α : Type} {p : α → Bool} {items : List α}
    (h : takeFirst p items = none) : ∀ item ∈ items, p item = false := by
  induction items with
  | nil => simp
  | cons item rest ih =>
    unfold takeFirst at h
    split at h
    · cases h
    · rename_i hp
      exact List.forall_mem_cons.2 ⟨by simpa using hp, ih (Option.map_eq_none_iff.1 h)⟩

namespace JoinPlan

/-- Where joining stops too early: some of the relationships make a tree, and none of those that are
left leads to a new table. -/
structure StopsAt (stopped : JoinPlan) (rootId : String) (relationships left : List Relationship) :
    Prop where
  tree : stopped.IsTree rootId
  remains : left ≠ []
  stuck : ∀ r ∈ left, stopped.reaches r = false
  all : (stopped.joins.map Join.relationship ++ left).Perm relationships

/-- Relationships between tables that are there are all joined to a tree, or joining stops too early,
which is reported. -/
theorem grow_of_ends {rootId : String} {tables : List Table} {plan : JoinPlan}
    {pending : List Relationship} (tree : plan.IsTree rootId)
    (hjoins : ∀ join ∈ plan.joins, join.table ∈ tables)
    (hends : ∀ r ∈ pending,
      r.fromTableId ∈ tables.map Table.id ∧ r.toTableId ∈ tables.map Table.id) :
    let all := plan.joins.map Join.relationship ++ pending
    (∃ grown, plan.grow tables pending = .ok grown ∧ grown.IsTree rootId ∧
        (∀ join ∈ grown.joins, join.table ∈ tables) ∧
        (grown.joins.map Join.relationship).Perm all) ∨
      (∃ fault, plan.grow tables pending = .error fault ∧ fault.IsReported .joinGraph) ∧
        ∃ stopped left, StopsAt stopped rootId all left := by
  induction plan, pending using JoinPlan.grow.induct with
  | case1 plan pending r others htaken ih =>
    obtain ⟨hreaches, hperm⟩ := takeFirst_eq_some htaken
    obtain ⟨hr, hothers⟩ : _ ∧ ∀ other ∈ others, _ :=
      List.forall_mem_cons.1 fun other hother => hends other (hperm.subset hother)
    obtain ⟨join, hjoin, htable, attaches, hextend⟩ :=
      extend_of_reaches tree hreaches hr.1 hr.2
    have hadded : ∀ other ∈ (plan.add join).joins, other.table ∈ tables := by
      intro other hother
      rcases List.mem_append.1 hother with hother | hother
      · exact hjoins other hother
      · rwa [List.mem_singleton.1 hother]
    have hgrow : plan.grow tables pending = (plan.add join).grow tables others := by
      rw [grow, htaken]
      exact bind_of_ok hextend
    -- The relationship that was taken has moved to those that are joined.
    have hall : ((plan.add join).joins.map Join.relationship ++ others).Perm
        (plan.joins.map Join.relationship ++ pending) := by
      simpa [add, hjoin] using hperm.append_left (plan.joins.map Join.relationship)
    rw [hgrow]
    rcases ih _ (tree.add attaches) hadded hothers with
      ⟨grown, hgrown, htree, htables, hjoined⟩ | ⟨hfault, stopped, left, hstops⟩
    · exact .inl ⟨grown, hgrown, htree, htables, hjoined.trans hall⟩
    · exact .inr ⟨hfault, stopped, left, { hstops with all := hstops.all.trans hall }⟩
  | case2 plan pending htaken hempty =>
    obtain rfl := List.isEmpty_iff.1 hempty
    exact .inl ⟨plan, grow_nil tables plan, tree, hjoins, by simp⟩
  | case3 plan pending htaken hpending =>
    refine .inr ⟨⟨.ofKind .joinGraph "Cannot resolve join graph for selected tables", ?_,
      _, rfl, rfl⟩, plan, pending, tree, by simpa using hpending, takeFirst_eq_none htaken, .refl _⟩
    rw [grow, htaken]
    exact if_neg hpending

end JoinPlan

namespace PlanScope

variable {scope : PlanScope} {catalog : Catalog} {spec : QuerySpec} {joins : JoinPlan}

/-- The relationships that connect the tables of a request are joined to a tree of these tables, or
reported. -/
theorem Connects.joined_or_reported (h : scope.Connects catalog spec) :
    (∃ joins, JoinPlan.ofRelationships scope.tables scope.root.id scope.relationships = .ok joins ∧
        joins.IsTree scope.root.id ∧ ∀ join ∈ joins.joins, join.table ∈ scope.tables) ∨
      ∃ fault, JoinPlan.ofRelationships scope.tables scope.root.id scope.relationships =
        .error fault ∧ fault.IsReported .joinGraph := by
  rcases JoinPlan.grow_of_ends .start (by simp [JoinPlan.start]) h.ends_mem with
    ⟨joins, hjoins, htree, htables, -⟩ | ⟨hfault, -⟩
  · exact .inl ⟨joins, hjoins, htree, htables⟩
  · exact .inr hfault

theorem Connects.isTree (h : scope.Connects catalog spec)
    (hjoins : JoinPlan.ofRelationships scope.tables scope.root.id scope.relationships =
      .ok joins) :
    joins.IsTree scope.root.id ∧ ∀ join ∈ joins.joins, join.table ∈ scope.tables := by
  rcases h.joined_or_reported with ⟨other, hother, htree⟩ | ⟨fault, hfault, -⟩
  · obtain rfl := Except.ok.inj (hjoins.symm.trans hother)
    exact htree
  · rw [hfault] at hjoins
    cases hjoins

end PlanScope

end SemanticLayer
