import Mathlib.Data.List.Nodup
import SemanticLayer.Plan.Join
import SemanticLayer.Proofs.Plan.Path

/-!
Joins as trees. Every join attaches one new table to a table that has an alias already, so the
joined tables with their joins are a tree that grows from its root. Relationships that are listed in
an order in which each one leads to a new table are joined in that very order.
-/

namespace SemanticLayer

/-- A key that occurs is found. -/
theorem exists_find_of_mem_map {α : Type} (key : α → String) {id : String} {items : List α}
    (h : id ∈ items.map key) :
    ∃ item, items.find? (key · == id) = some item ∧ item ∈ items ∧ key item = id := by
  obtain ⟨other, hmem, heq⟩ := List.mem_map.1 h
  have hsome : (items.find? (key · == id)).isSome :=
    List.find?_isSome.2 ⟨other, hmem, beq_iff_eq.2 heq⟩
  obtain ⟨item, hitem⟩ := Option.isSome_iff_exists.1 hsome
  exact ⟨item, hitem, List.mem_of_find?_eq_some hitem, by simpa using List.find?_some hitem⟩

/-- A number can be read off its digits. -/
theorem repr_injective : Function.Injective Nat.repr := by
  intro left right h
  have hdigits := congrArg String.toList h
  rw [Nat.toList_repr, Nat.toList_repr] at hdigits
  calc
    left = Nat.ofDigitChars 10 (Nat.toDigits 10 left) 0 := Nat.ofDigitChars_ten_toDigits.symm
    _ = Nat.ofDigitChars 10 (Nat.toDigits 10 right) 0 := by rw [hdigits]
    _ = right := Nat.ofDigitChars_ten_toDigits

theorem presentText_tableAlias (place : Nat) :
    presentText (some (tableAlias place)) = some (tableAlias place) := by
  have hpresent : (tableAlias place).isEmpty = false := by
    rw [← Bool.not_eq_true, String.isEmpty_iff]
    intro h
    simpa [tableAlias] using congrArg String.toList h
  simp [presentText, hpresent]

/-! ### Trees of joins -/

/-- Whether a join brings in a table beside those that have aliases: it equates the column of its
relationship on the side of one of these, under the alias of that table, with the column on the side
of the new one, under the next alias. -/
structure Join.Attaches (join : Join) (aliases : Aliases) : Prop where
  fresh : join.table.id ∉ aliases.map Prod.fst
  aliasName_eq : join.aliasName = tableAlias (aliases.length + 1)
  equates : ∃ knownId, (knownId, join.knownAlias) ∈ aliases ∧
    (join.relationship.fromTableId = knownId ∧ join.relationship.fromColumn = join.knownColumn ∧
        join.relationship.toTableId = join.table.id ∧ join.relationship.toColumn = join.column ∨
      join.relationship.toTableId = knownId ∧ join.relationship.toColumn = join.knownColumn ∧
        join.relationship.fromTableId = join.table.id ∧
        join.relationship.fromColumn = join.column)

/-- The relationship of a join is between a table with an alias and the new table. -/
theorem Join.Attaches.connects {join : Join} {aliases : Aliases} (h : join.Attaches aliases) :
    ∃ knownId ∈ aliases.map Prod.fst, join.relationship.Connects knownId join.table.id := by
  obtain ⟨knownId, hknown, hends⟩ := h.equates
  refine ⟨knownId, List.mem_map_of_mem hknown, ?_⟩
  rcases hends with ⟨hknownId, -, hnew, -⟩ | ⟨hknownId, -, hnew, -⟩
  · exact .inl ⟨hknownId, hnew⟩
  · exact .inr ⟨hknownId, hnew⟩

/-- A relationship that leads out of a set of tables leads to one table only. -/
theorem Relationship.Connects.new_unique {r : Relationship} {known : List String}
    {id other next last : String} (h : r.Connects id next) (hother : r.Connects other last)
    (hid : id ∈ known) (hotherId : other ∈ known) (hnext : next ∉ known) (hlast : last ∉ known) :
    next = last := by
  unfold Relationship.Connects at h hother
  rcases h with ⟨rfl, rfl⟩ | ⟨rfl, rfl⟩ <;> rcases hother with ⟨rfl, rfl⟩ | ⟨rfl, rfl⟩ <;>
    first | rfl | contradiction

namespace JoinPlan

/-- The joined tables, in the order in which they came in. -/
def ids (plan : JoinPlan) : List String :=
  plan.aliases.map Prod.fst

/-- The plan with one more join. -/
def add (plan : JoinPlan) (join : Join) : JoinPlan :=
  ⟨plan.aliases ++ [(join.table.id, join.aliasName)], plan.joins ++ [join]⟩

/-- Plans that have grown from one table, join by join. -/
inductive IsTree (rootId : String) : JoinPlan → Prop
  | start : IsTree rootId (.start rootId)
  | add {plan : JoinPlan} {join : Join} (tree : IsTree rootId plan)
      (attaches : join.Attaches plan.aliases) : IsTree rootId (plan.add join)

@[simp]
theorem ids_start (rootId : String) : (start rootId).ids = [rootId] := rfl

@[simp]
theorem ids_add (plan : JoinPlan) (join : Join) :
    (plan.add join).ids = plan.ids ++ [join.table.id] := by
  simp [ids, add]

theorem knows_iff (plan : JoinPlan) (id : String) : plan.knows id = true ↔ id ∈ plan.ids := by
  simp [knows, ids]

/-- A relationship leads to a new table exactly if it is between a table that is joined and one that
is not. -/
theorem reaches_iff {plan : JoinPlan} {r : Relationship} :
    plan.reaches r = true ↔ ∃ id ∈ plan.ids, ∃ next, next ∉ plan.ids ∧ r.Connects id next := by
  have hfrom := plan.knows_iff r.fromTableId
  have hto := plan.knows_iff r.toTableId
  unfold reaches Relationship.Connects
  rw [bne_iff_ne]
  constructor
  · intro h
    cases hf : plan.knows r.fromTableId with
    | true => exact ⟨_, hfrom.1 hf, r.toTableId, by simp_all, .inl ⟨rfl, rfl⟩⟩
    | false => exact ⟨_, hto.1 (by simp_all), r.fromTableId, by simp_all, .inr ⟨rfl, rfl⟩⟩
  · rintro ⟨id, hid, next, hnext, ⟨rfl, rfl⟩ | ⟨rfl, rfl⟩⟩ <;> simp_all

namespace IsTree

variable {rootId : String} {plan : JoinPlan}

theorem nodup_ids (h : plan.IsTree rootId) : plan.ids.Nodup := by
  induction h with
  | start => exact List.nodup_singleton _
  | add _ attaches ih =>
    rw [ids_add]
    exact ih.append (List.nodup_singleton _) (List.disjoint_singleton.2 attaches.fresh)

/-- The aliases are numbered in the order in which the tables came in. -/
theorem aliasNames_eq (h : plan.IsTree rootId) :
    plan.aliases.map Prod.snd =
      (List.range plan.aliases.length).map fun place => tableAlias (place + 1) := by
  induction h with
  | start => rfl
  | add _ attaches ih =>
    simp [JoinPlan.add, ih, attaches.aliasName_eq, List.range_succ]

theorem length_aliases (h : plan.IsTree rootId) : plan.aliases.length = plan.joins.length + 1 := by
  induction h with
  | start => rfl
  | add _ _ ih => simp [JoinPlan.add, ih]

theorem head_aliases (h : plan.IsTree rootId) :
    plan.aliases.head? = some (rootId, tableAlias 1) := by
  induction h with
  | start => rfl
  | add _ _ ih => simp [JoinPlan.add, ih]

/-- The join at a place attaches its table to the tables that came in before. -/
theorem attaches_at (h : plan.IsTree rootId) (place : Nat) (join : Join)
    (hjoin : plan.joins[place]? = some join) :
    join.Attaches (plan.aliases.take (place + 1)) ∧
      plan.aliases[place + 1]? = some (join.table.id, join.aliasName) := by
  induction h with
  | start => simp [JoinPlan.start] at hjoin
  | @add plan last tree attaches ih =>
    have hlength := tree.length_aliases
    rcases Nat.lt_trichotomy place plan.joins.length with hlt | rfl | hgt
    · have hold : plan.joins[place]? = some join := by
        simpa [JoinPlan.add, List.getElem?_append_left hlt] using hjoin
      obtain ⟨hattaches, halias⟩ := ih hold
      constructor
      · rwa [JoinPlan.add, List.take_append_of_le_length (by omega)]
      · rwa [JoinPlan.add, List.getElem?_append_left (by omega)]
    · obtain rfl : last = join := by simpa [JoinPlan.add] using hjoin
      constructor
      · rw [JoinPlan.add, ← hlength, List.take_left]
        exact attaches
      · simp [JoinPlan.add, ← hlength]
    · have hlast : (plan.add last).joins.length ≤ place := by
        simp only [JoinPlan.add, List.length_append, List.length_singleton]
        omega
      rw [List.getElem?_eq_none hlast] at hjoin
      exact absurd hjoin (by simp)

theorem alias_eq (h : plan.IsTree rootId) {entry : String × String} (hmem : entry ∈ plan.aliases) :
    ∃ place, entry.2 = tableAlias (place + 1) := by
  have hname : entry.2 ∈ plan.aliases.map Prod.snd := List.mem_map_of_mem hmem
  rw [h.aliasNames_eq] at hname
  obtain ⟨place, -, heq⟩ := List.mem_map.1 hname
  exact ⟨place, heq.symm⟩

/-- Every table of a tree is found under its alias. -/
theorem aliasOf_eq (h : plan.IsTree rootId) {id : String} (hid : id ∈ plan.ids) :
    ∃ aliasName, plan.aliasOf id = .ok aliasName ∧ (id, aliasName) ∈ plan.aliases := by
  obtain ⟨entry, hentry, hmem, heq⟩ := exists_find_of_mem_map Prod.fst hid
  obtain ⟨place, hname⟩ := h.alias_eq hmem
  refine ⟨entry.2, ?_, heq ▸ hmem⟩
  simp [aliasOf, Aliases.find?, hentry, hname, presentText_tableAlias]

theorem aliasOf_root (h : plan.IsTree rootId) : plan.aliasOf rootId = .ok (tableAlias 1) := by
  obtain ⟨entry, hentry⟩ : ∃ rest, plan.aliases = (rootId, tableAlias 1) :: rest :=
    List.head?_eq_some_iff.1 h.head_aliases
  simp [aliasOf, Aliases.find?, hentry, presentText_tableAlias]

end IsTree

/-! ### Growing -/

/-- A relationship to a new table is joined, provided that its tables can be found. -/
theorem extend_of_reaches {rootId : String} {tables : List Table} {plan : JoinPlan}
    {r : Relationship} (tree : plan.IsTree rootId) (hreaches : plan.reaches r = true)
    (hfrom : r.fromTableId ∈ tables.map (·.id)) (hto : r.toTableId ∈ tables.map (·.id)) :
    ∃ join, join.relationship = r ∧ join.table ∈ tables ∧ join.Attaches plan.aliases ∧
      plan.extend tables r = .ok (plan.add join) := by
  unfold extend
  cases hforward : plan.knows r.fromTableId with
  | true =>
    have hknown := (plan.knows_iff _).1 hforward
    have hnew : r.toTableId ∉ plan.ids := by
      rw [← plan.knows_iff]
      simpa [reaches, hforward] using hreaches
    obtain ⟨table, htable, hmem, hid⟩ := exists_find_of_mem_map Table.id hto
    obtain ⟨knownAlias, halias, hentry⟩ := tree.aliasOf_eq hknown
    refine ⟨⟨r, table, tableAlias (plan.aliases.length + 1), r.toColumn, knownAlias, r.fromColumn⟩,
      rfl, hmem, ⟨by rwa [hid], rfl, r.fromTableId, hentry, ?_⟩, ?_⟩
    · exact .inl ⟨rfl, rfl, hid.symm, rfl⟩
    · simp [htable, halias, bind, Except.bind, add, hid, pure, Except.pure]
  | false =>
    have hnew : r.fromTableId ∉ plan.ids := by
      rw [← plan.knows_iff, hforward]
      simp
    have hknown : r.toTableId ∈ plan.ids := by
      rw [← plan.knows_iff]
      simpa [reaches, hforward] using hreaches
    obtain ⟨table, htable, hmem, hid⟩ := exists_find_of_mem_map Table.id hfrom
    obtain ⟨knownAlias, halias, hentry⟩ := tree.aliasOf_eq hknown
    refine ⟨⟨r, table, tableAlias (plan.aliases.length + 1), r.fromColumn, knownAlias, r.toColumn⟩,
      rfl, hmem, ⟨by rwa [hid], rfl, r.toTableId, hentry, ?_⟩, ?_⟩
    · exact .inr ⟨rfl, rfl, hid.symm, rfl⟩
    · simp [htable, halias, bind, Except.bind, add, hid, pure, Except.pure]

/-- Relationships that lead, one after the other, from the known tables to new ones; the last list
holds all tables in the end. -/
inductive Leads (known : List String) : List Relationship → List String → Prop
  | nil : Leads known [] known
  | snoc {relationships : List Relationship} {all : List String} {r : Relationship}
      {id next : String} (leads : Leads known relationships all) (old : id ∈ all)
      (new : next ∉ all) (connects : r.Connects id next) :
      Leads known (relationships ++ [r]) (all ++ [next])

theorem Leads.subset {known all : List String} {relationships : List Relationship}
    (h : Leads known relationships all) : known ⊆ all := by
  induction h with
  | nil => exact List.Subset.refl _
  | snoc _ _ _ _ ih => exact fun id hid => List.mem_append_left _ (ih hid)

theorem Leads.nodup {known all : List String} {relationships : List Relationship}
    (h : Leads known relationships all) (hknown : known.Nodup) : all.Nodup := by
  induction h with
  | nil => exact hknown
  | snoc _ _ new _ ih =>
    exact ih.append (List.nodup_singleton _) (List.disjoint_singleton.2 new)

/-- The ends of the relationships are among the tables. -/
theorem Leads.ends {known all : List String} {relationships : List Relationship}
    (h : Leads known relationships all) (r : Relationship) (hr : r ∈ relationships) :
    r.fromTableId ∈ all ∧ r.toTableId ∈ all := by
  induction h with
  | nil => exact absurd hr List.not_mem_nil
  | snoc _ old _ connects ih =>
    rcases List.mem_append.1 hr with hr | hr
    · exact ⟨List.mem_append_left _ (ih hr).1, List.mem_append_left _ (ih hr).2⟩
    · obtain rfl := List.mem_singleton.1 hr
      rcases connects with ⟨rfl, rfl⟩ | ⟨rfl, rfl⟩ <;> simp [old]

theorem takeFirst_cons_of_pos {α : Type} {p : α → Bool} {item : α} (rest : List α)
    (h : p item = true) : takeFirst p (item :: rest) = some (item, rest) := by
  simp [takeFirst, h]

theorem grow_nil (tables : List Table) (plan : JoinPlan) : plan.grow tables [] = .ok plan := by
  rw [grow]
  rfl

/-- The first relationship is joined first if it leads to a new table. -/
theorem grow_cons {tables : List Table} {plan next : JoinPlan} {r : Relationship}
    (rest : List Relationship) (hreaches : plan.reaches r = true)
    (hextend : plan.extend tables r = .ok next) :
    plan.grow tables (r :: rest) = next.grow tables rest := by
  rw [grow]
  split
  · rename_i taken
    rw [takeFirst_cons_of_pos rest hreaches] at taken
    obtain ⟨rfl, rfl⟩ := Prod.mk.inj (Option.some.inj taken)
    rw [hextend]
    rfl
  · rename_i taken
    rw [takeFirst_cons_of_pos rest hreaches] at taken
    cases taken

/-- Relationships that lead to new tables are all joined, in their order, before any others. -/
theorem grow_of_leads {rootId : String} {tables : List Table} {plan : JoinPlan}
    {relationships : List Relationship} {all : List String}
    (tree : plan.IsTree rootId) (leads : Leads plan.ids relationships all)
    (htables : all ⊆ tables.map Table.id) (rest : List Relationship) :
    ∃ grown : JoinPlan, grown.IsTree rootId ∧ grown.ids = all ∧
      grown.joins.map Join.relationship = plan.joins.map Join.relationship ++ relationships ∧
      (∀ join ∈ grown.joins, join ∈ plan.joins ∨ join.table ∈ tables) ∧
      plan.grow tables (relationships ++ rest) = grown.grow tables rest := by
  induction leads generalizing rest with
  | nil => exact ⟨plan, tree, rfl, by simp, fun _ h => .inl h, rfl⟩
  | @snoc relationships all r id next leads old new connects ih =>
    have hsubset : all ⊆ tables.map Table.id := fun id hid => htables (List.mem_append_left _ hid)
    obtain ⟨grown, htree, hids, hjoins, hmem, hgrow⟩ := ih hsubset (r :: rest)
    have hold : id ∈ grown.ids := hids ▸ old
    have hnew : next ∉ grown.ids := hids ▸ new
    have hreaches := reaches_iff.2 ⟨id, hold, next, hnew, connects⟩
    obtain ⟨hfrom, hto⟩ := (leads.snoc old new connects).ends r (by simp)
    obtain ⟨join, rfl, htable, attaches, hextend⟩ :=
      extend_of_reaches htree hreaches (htables hfrom) (htables hto)
    have hnext : join.table.id = next := by
      obtain ⟨knownId, hknown, hconnects⟩ := attaches.connects
      exact hconnects.new_unique connects hknown hold attaches.fresh hnew
    refine ⟨grown.add join, htree.add attaches, ?_, ?_, ?_, ?_⟩
    · rw [ids_add, hids, hnext]
    · simp [JoinPlan.add, hjoins]
    · intro other hother
      rcases List.mem_append.1 hother with hother | hother
      · exact hmem other hother
      · exact .inr (List.mem_singleton.1 hother ▸ htable)
    · rw [List.append_assoc, List.singleton_append, hgrow, grow_cons rest hreaches hextend]

end JoinPlan

end SemanticLayer
