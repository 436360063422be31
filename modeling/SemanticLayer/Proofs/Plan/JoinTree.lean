import Mathlib.Combinatorics.SimpleGraph.Acyclic
import SemanticLayer.Proofs.Plan.Growth

/-!
Which relationships can be joined. Relationships are the edges of a graph of tables, in which an
edge may lead from a table to itself and two edges may be between the same tables. They are all
joined, each by one join, exactly if they make a tree with the root in it, in whichever order they
are listed; else joining stops at a cycle or at tables out of reach, and this is reported.
-/

namespace SemanticLayer

/-- The two tables of the relationship, neither of which comes first. -/
def Relationship.ends (r : Relationship) : Sym2 String :=
  s(r.fromTableId, r.toTableId)

/-- Tables are neighbours if one of the relationships is between them. -/
def relatedTables (relationships : List Relationship) : SimpleGraph String :=
  .fromEdgeSet {e | e ∈ relationships.map Relationship.ends}

/-- The vertices of the graph: the root and the tables of the relationships. -/
def IsVertex (rootId : String) (relationships : List Relationship) (id : String) : Prop :=
  id = rootId ∨ ∃ r ∈ relationships, id ∈ r.ends

/-- The relationships are the edges of a tree that contains the root; no relationships make the tree
of the root alone. Every vertex is connected to the root and there are no cycles: neither one of a
single relationship from a table to itself, nor one of two relationships between the same tables,
nor a longer one. -/
structure FormTree (rootId : String) (relationships : List Relationship) : Prop where
  connected : ∀ id, IsVertex rootId relationships id →
    (relatedTables relationships).Reachable rootId id
  noLoop : ∀ r ∈ relationships, r.fromTableId ≠ r.toTableId
  noParallels : (relationships.map Relationship.ends).Nodup
  noCycle : (relatedTables relationships).IsAcyclic

variable {rootId id next : String} {relationships others : List Relationship} {r : Relationship}

theorem Relationship.ends_eq_iff : r.ends = s(id, next) ↔ r.Connects id next := by
  unfold ends Connects
  rw [Sym2.eq_iff]
  tauto

theorem Relationship.Connects.mem_ends (h : r.Connects id next) : id ∈ r.ends ∧ next ∈ r.ends := by
  rw [ends_eq_iff.2 h]
  simp

theorem relatedTables_adj : (relatedTables relationships).Adj id next ↔
    (∃ r ∈ relationships, r.Connects id next) ∧ id ≠ next := by
  simp only [relatedTables, SimpleGraph.fromEdgeSet_adj, Set.mem_ofPred_eq, List.mem_map,
    Relationship.ends_eq_iff]

theorem relatedTables_nil : relatedTables [] = ⊥ := by
  simp [relatedTables]

theorem relatedTables_append_singleton (h : r.Connects id next) :
    relatedTables (relationships ++ [r]) = relatedTables relationships ⊔ .edge id next := by
  ext one two
  simp only [relatedTables, SimpleGraph.edge, SimpleGraph.sup_adj, SimpleGraph.fromEdgeSet_adj,
    Set.mem_ofPred_eq, List.map_append, List.map_singleton, List.mem_append, List.mem_singleton,
    Set.mem_singleton_iff, Relationship.ends_eq_iff.2 h]
  tauto

theorem relatedTables_perm (h : relationships.Perm others) :
    relatedTables relationships = relatedTables others := by
  unfold relatedTables
  simp only [(h.map Relationship.ends).mem_iff]

/-- Without a relationship between the two tables, the others of a graph do without that edge. -/
theorem relatedTables_le_deleteEdges {e : Sym2 String} (hsubset : others ⊆ relationships)
    (he : e ∉ others.map Relationship.ends) :
    relatedTables others ≤ (relatedTables relationships).deleteEdges {e} := by
  intro id next hadj
  obtain ⟨⟨r, hr, hconnects⟩, hne⟩ := relatedTables_adj.1 hadj
  rw [SimpleGraph.deleteEdges_adj, relatedTables_adj]
  refine ⟨⟨⟨r, hsubset hr, hconnects⟩, hne⟩, ?_⟩
  rintro rfl
  exact he (List.mem_map.2 ⟨r, hr, Relationship.ends_eq_iff.2 hconnects⟩)

theorem isVertex_perm (h : relationships.Perm others) :
    IsVertex rootId relationships id ↔ IsVertex rootId others id := by
  simp only [IsVertex, h.mem_iff]

theorem isVertex_append_singleton : IsVertex rootId (relationships ++ [r]) id ↔
    IsVertex rootId relationships id ∨ id ∈ r.ends := by
  simp only [IsVertex, List.mem_append, List.mem_singleton, or_and_right, exists_or,
    exists_eq_left, or_assoc]

/-- Only vertices are reached from vertices. -/
theorem IsVertex.of_reachable (hid : IsVertex rootId relationships id)
    (h : (relatedTables relationships).Reachable id next) : IsVertex rootId relationships next := by
  rw [SimpleGraph.reachable_iff_reflTransGen] at h
  rcases h.cases_tail with rfl | ⟨last, -, hadj⟩
  · exact hid
  · obtain ⟨⟨r, hr, hconnects⟩, -⟩ := relatedTables_adj.1 hadj
    exact .inr ⟨r, hr, hconnects.mem_ends.2⟩

namespace FormTree

theorem nil : FormTree rootId [] where
  connected := by
    rintro id (rfl | ⟨r, hr, -⟩)
    · exact .refl _
    · cases hr
  noLoop := by simp
  noParallels := List.nodup_nil
  noCycle := relatedTables_nil ▸ SimpleGraph.isAcyclic_bot

theorem of_perm (h : FormTree rootId relationships) (hperm : relationships.Perm others) :
    FormTree rootId others where
  connected id hid := by
    rw [← relatedTables_perm hperm]
    exact h.connected id ((isVertex_perm hperm).2 hid)
  noLoop r hr := h.noLoop r (hperm.mem_iff.2 hr)
  noParallels := (hperm.map _).nodup_iff.1 h.noParallels
  noCycle := relatedTables_perm hperm ▸ h.noCycle

/-- A relationship from a vertex to a new table makes a larger tree. -/
theorem append_singleton (h : FormTree rootId relationships)
    (hid : IsVertex rootId relationships id) (hnext : ¬ IsVertex rootId relationships next)
    (hconnects : r.Connects id next) : FormTree rootId (relationships ++ [r]) := by
  have hne : id ≠ next := by
    rintro rfl
    exact hnext hid
  have hgraph : relatedTables (relationships ++ [r]) =
      relatedTables relationships ⊔ .edge id next := relatedTables_append_singleton hconnects
  have hkept {one two : String} (hreach : (relatedTables relationships).Reachable one two) :
      (relatedTables (relationships ++ [r])).Reachable one two := by
    rw [hgraph]
    exact hreach.mono le_sup_left
  have hadj : (relatedTables (relationships ++ [r])).Adj id next :=
    relatedTables_adj.2 ⟨⟨r, by simp, hconnects⟩, hne⟩
  have hnew : (relatedTables (relationships ++ [r])).Reachable rootId next :=
    (hkept (h.connected id hid)).trans hadj.reachable
  have hends : r.ends = s(id, next) := Relationship.ends_eq_iff.2 hconnects
  refine ⟨fun other hother => ?_, ?_, ?_, ?_⟩
  · rcases isVertex_append_singleton.1 hother with hother | hother
    · exact hkept (h.connected other hother)
    · rw [hends, Sym2.mem_iff] at hother
      rcases hother with rfl | rfl
      · exact hkept (h.connected other hid)
      · exact hnew
  · intro edge hedge
    rcases List.mem_append.1 hedge with hedge | hedge
    · exact h.noLoop edge hedge
    · rw [List.mem_singleton.1 hedge]
      rcases hconnects with ⟨rfl, rfl⟩ | ⟨rfl, rfl⟩
      · exact hne
      · exact hne.symm
  · rw [List.map_append]
    refine h.noParallels.append (List.nodup_singleton _) (List.disjoint_singleton.2 ?_)
    intro hmem
    obtain ⟨edge, hedge, heq⟩ := List.mem_map.1 hmem
    exact hnext (.inr ⟨edge, hedge, by rw [heq, hends]; simp⟩)
  · rw [hgraph]
    exact h.noCycle.sup_edge_of_not_reachable fun hreach => hnext (hid.of_reachable hreach)

end FormTree

namespace JoinPlan

variable {plan stopped : JoinPlan} {tables : List Table} {left : List Relationship}

/-- The relationships of joins make a tree, whose vertices are the joined tables. -/
theorem IsTree.formTree (h : plan.IsTree rootId) :
    FormTree rootId (plan.joins.map Join.relationship) ∧
      ∀ id, id ∈ plan.ids ↔ IsVertex rootId (plan.joins.map Join.relationship) id := by
  induction h with
  | start =>
    refine ⟨.nil, fun id => ?_⟩
    rw [ids_start]
    simp [IsVertex, JoinPlan.start]
  | @add plan join tree attaches ih =>
    obtain ⟨htree, hvertices⟩ := ih
    obtain ⟨knownId, hknown, hconnects⟩ := attaches.connects
    have hfresh : ¬ IsVertex rootId (plan.joins.map Join.relationship) join.table.id :=
      fun hvertex => attaches.fresh ((hvertices _).2 hvertex)
    have hjoins : (plan.add join).joins.map Join.relationship =
        plan.joins.map Join.relationship ++ [join.relationship] := by
      simp [JoinPlan.add]
    rw [hjoins]
    refine ⟨htree.append_singleton ((hvertices _).1 hknown) hfresh hconnects, fun id => ?_⟩
    rw [ids_add, List.mem_append, List.mem_singleton, isVertex_append_singleton, ← hvertices,
      Relationship.ends_eq_iff.2 hconnects, Sym2.mem_iff]
    constructor
    · exact Or.imp_right .inr
    · rintro (hid | rfl | rfl)
      · exact .inl hid
      · exact .inl hknown
      · exact .inr rfl

/-- A relationship that leads to no new table has both or none of its tables joined. -/
theorem reaches_eq_false (h : plan.reaches r = false) :
    r.fromTableId ∈ plan.ids ↔ r.toTableId ∈ plan.ids := by
  rw [← plan.knows_iff, ← plan.knows_iff, ← Bool.eq_iff_iff]
  unfold reaches at h
  simpa using h

namespace StopsAt

variable {stopped : JoinPlan} {left : List Relationship}

/-- Where joining has stopped, no relationship leads from a joined table to another one. -/
theorem ends_joined (h : stopped.StopsAt rootId relationships left) (hr : r ∈ relationships) :
    r.fromTableId ∈ stopped.ids ↔ r.toTableId ∈ stopped.ids := by
  rcases List.mem_append.1 (h.all.mem_iff.2 hr) with hr | hr
  · have hends : ∀ id ∈ r.ends, id ∈ stopped.ids :=
      fun id hid => (h.tree.formTree.2 id).2 (.inr ⟨r, hr, hid⟩)
    exact iff_of_true (hends _ (Sym2.mem_mk_left _ _)) (hends _ (Sym2.mem_mk_right _ _))
  · exact reaches_eq_false (h.stuck r hr)

/-- Where joining has stopped, only joined tables can be reached from the root. -/
theorem mem_ids (h : stopped.StopsAt rootId relationships left)
    (hreach : (relatedTables relationships).Reachable rootId id) : id ∈ stopped.ids := by
  rw [SimpleGraph.reachable_iff_reflTransGen] at hreach
  induction hreach with
  | refl => exact (h.tree.formTree.2 rootId).2 (.inl rfl)
  | tail _ hadj ih =>
    obtain ⟨⟨r, hr, ⟨rfl, rfl⟩ | ⟨rfl, rfl⟩⟩, -⟩ := relatedTables_adj.1 hadj
    · exact (h.ends_joined hr).1 ih
    · exact (h.ends_joined hr).2 ih

/-- Joining never stops too early at a tree. All of its tables would be joined, and so the
relationships that are left would close cycles. -/
theorem not_formTree (h : stopped.StopsAt rootId relationships left) :
    ¬ FormTree rootId relationships := by
  intro htree
  obtain ⟨hjoined, hvertices⟩ := h.tree.formTree
  obtain ⟨r, hleft⟩ := List.exists_mem_of_ne_nil left h.remains
  have hr : r ∈ relationships := h.all.mem_iff.1 (List.mem_append_right _ hleft)
  have hreach : ∀ id ∈ r.ends,
      (relatedTables (stopped.joins.map Join.relationship)).Reachable rootId id := by
    intro id hid
    have hmem : id ∈ stopped.ids := h.mem_ids (htree.connected id (.inr ⟨r, hr, hid⟩))
    exact hjoined.connected id ((hvertices id).1 hmem)
  have hnew : r.ends ∉ (stopped.joins.map Join.relationship).map Relationship.ends := by
    have hnodup := (h.all.map Relationship.ends).nodup_iff.2 htree.noParallels
    rw [List.map_append, List.nodup_append] at hnodup
    exact fun hmem => hnodup.2.2 _ hmem _ (List.mem_map_of_mem hleft) rfl
  have hsubset : stopped.joins.map Join.relationship ⊆ relationships :=
    fun other hother => h.all.mem_iff.1 (List.mem_append_left _ hother)
  -- The ends of what is left are connected by joins alone, although no cycle leads over them.
  have haround : ((relatedTables relationships).deleteEdges {r.ends}).Reachable
      r.fromTableId r.toTableId :=
    ((hreach _ (Sym2.mem_mk_left _ _)).symm.trans (hreach _ (Sym2.mem_mk_right _ _))).mono
      (relatedTables_le_deleteEdges hsubset hnew)
  have hadj : (relatedTables relationships).Adj r.fromTableId r.toTableId :=
    relatedTables_adj.2 ⟨⟨r, hr, .inl ⟨rfl, rfl⟩⟩, htree.noLoop r hr⟩
  exact SimpleGraph.isAcyclic_iff_forall_adj_isBridge.1 htree.noCycle hadj haround

end StopsAt

/-- Relationships that make a tree are all joined, and others are reported. -/
theorem ofRelationships_cases {tables : List Table} (rootId : String) (hends : ∀ r ∈ relationships,
      r.fromTableId ∈ tables.map Table.id ∧ r.toTableId ∈ tables.map Table.id) :
    (FormTree rootId relationships ∧ ∃ joins,
        ofRelationships tables rootId relationships = .ok joins ∧ joins.IsTree rootId ∧
        (joins.joins.map Join.relationship).Perm relationships) ∨
      ¬ FormTree rootId relationships ∧ ∃ fault,
        ofRelationships tables rootId relationships = .error fault ∧
          fault.IsReported .joinGraph := by
  rcases grow_of_ends (.start : (start rootId).IsTree rootId) (by simp [JoinPlan.start]) hends with
    ⟨joins, hjoins, htree, -, hperm⟩ | ⟨hfault, stopped, left, hstops⟩
  · exact .inl ⟨htree.formTree.1.of_perm hperm, joins, hjoins, htree, hperm⟩
  · exact .inr ⟨hstops.not_formTree, hfault⟩

/-- Relationships between tables that are there are joined exactly if they make a tree that contains
the root, in whichever order they are listed; else this is reported. The joined tables are then the
vertices of the tree, each of them once, and each of the relationships has made one join. -/
theorem ofRelationships_eq_ok_iff_formTree (tables : List Table) (rootId : String)
    (relationships : List Relationship) (hends : ∀ r ∈ relationships,
      r.fromTableId ∈ tables.map Table.id ∧ r.toTableId ∈ tables.map Table.id) :
    ((∃ joins, ofRelationships tables rootId relationships = .ok joins) ↔
        FormTree rootId relationships) ∧
      (¬ FormTree rootId relationships → ∃ fault,
        ofRelationships tables rootId relationships = .error fault ∧
          fault.IsReported .joinGraph) ∧
      (∀ joins, ofRelationships tables rootId relationships = .ok joins →
        (∀ id, id ∈ joins.ids ↔ IsVertex rootId relationships id) ∧ joins.ids.Nodup ∧
          (joins.joins.map Join.relationship).Perm relationships) ∧
      ∀ others, relationships.Perm others →
        ((∃ joins, ofRelationships tables rootId relationships = .ok joins) ↔
          ∃ joins, ofRelationships tables rootId others = .ok joins) ∧
        ∀ joins more, ofRelationships tables rootId relationships = .ok joins →
          ofRelationships tables rootId others = .ok more → joins.ids.Perm more.ids := by
  have hmeets {listed : List Relationship} (hperm : relationships.Perm listed) {joins : JoinPlan}
      (hjoins : ofRelationships tables rootId listed = .ok joins) :
      FormTree rootId relationships ∧ (∀ id, id ∈ joins.ids ↔ IsVertex rootId relationships id) ∧
        joins.ids.Nodup ∧ (joins.joins.map Join.relationship).Perm relationships := by
    rcases ofRelationships_cases rootId fun r hr => hends r (hperm.mem_iff.2 hr) with
      ⟨hform, grown, hgrown, htree, hjoined⟩ | ⟨-, fault, hfault, -⟩
    · obtain rfl := Except.ok.inj (hjoins.symm.trans hgrown)
      refine ⟨hform.of_perm hperm.symm, fun id => ?_, htree.nodup_ids, hjoined.trans hperm.symm⟩
      rw [htree.formTree.2 id, isVertex_perm (hjoined.trans hperm.symm)]
    · rw [hjoins] at hfault
      cases hfault
  have hsucceeds {listed : List Relationship} (hperm : relationships.Perm listed) :
      (∃ joins, ofRelationships tables rootId listed = .ok joins) ↔
        FormTree rootId relationships := by
    refine ⟨fun ⟨_, hjoins⟩ => (hmeets hperm hjoins).1, fun hform => ?_⟩
    rcases ofRelationships_cases rootId fun r hr => hends r (hperm.mem_iff.2 hr) with
      ⟨-, joins, hjoins, -⟩ | ⟨hno, -⟩
    · exact ⟨joins, hjoins⟩
    · exact absurd (hform.of_perm hperm) hno
  refine ⟨hsucceeds (.refl _), fun hno => ?_, fun joins hjoins => (hmeets (.refl _) hjoins).2,
    fun others hperm => ⟨(hsucceeds (.refl _)).trans (hsucceeds hperm).symm, ?_⟩⟩
  · exact ((ofRelationships_cases rootId hends).resolve_left fun hform => hno hform.1).2
  · intro joins more hjoins hmore
    obtain ⟨-, hids, hnodup, -⟩ := hmeets (.refl _) hjoins
    obtain ⟨-, hmoreIds, hmoreNodup, -⟩ := hmeets hperm hmore
    exact (List.perm_ext_iff_of_nodup hnodup hmoreNodup).2 fun id =>
      (hids id).trans (hmoreIds id).symm

/-- A table of which only the identifier matters. -/
def bareTable (id : String) : Table :=
  ⟨id, id, id, none, none, none, postgresEngine, some id, true, none, none, none, none, []⟩

/-- A relationship between the identifiers of two tables. -/
def relateTables (id one two : String) : Relationship :=
  ⟨id, "sales", one, "id", two, "id", .oneToOne, "both", validStatus, none, none, none, none, none⟩

/-- Three tables in a row are joined from one end, although the relationship that is listed first
does not lead to the root. A fourth relationship between the ends closes a cycle, and so does one
from a table to itself. -/
theorem formTree_row_of_tables :
    FormTree "a" [relateTables "bc" "b" "c", relateTables "ab" "a" "b"] ∧
      ¬ FormTree "a"
        [relateTables "bc" "b" "c", relateTables "ab" "a" "b", relateTables "ca" "c" "a"] ∧
      ¬ FormTree "a" [relateTables "aa" "a" "a"] := by
  have hran {outcome : Except Fault JoinPlan} :
      (∃ joins, outcome = .ok joins) ↔ outcome.isOk = true := by
    cases outcome <;> simp [Except.isOk, Except.toBool]
  refine ⟨?_, ?_, ?_⟩
  · rw [← (ofRelationships_eq_ok_iff_formTree (["a", "b", "c"].map bareTable) "a" _
      (by decide)).1, hran]
    decide +kernel
  · rw [← (ofRelationships_eq_ok_iff_formTree (["a", "b", "c"].map bareTable) "a" _
      (by decide)).1, hran]
    decide +kernel
  · rw [← (ofRelationships_eq_ok_iff_formTree (["a", "b", "c"].map bareTable) "a" _
      (by decide)).1, hran]
    decide +kernel

end JoinPlan

end SemanticLayer
