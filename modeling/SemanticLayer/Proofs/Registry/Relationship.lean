import SemanticLayer.Proofs.Registry.Listing

/-!
What holds of the relationships of a registry. A relationship is kept under the key of its own ends,
once in its data model; its ends are two columns of tables that the data model has; and what is said
about its validity fits its cardinality.
-/

namespace SemanticLayer

open Text

/-- What a relationship is kept under. -/
def RelationshipRecord.identity (record : RelationshipRecord) : String × String :=
  (record.dataModelId, record.storedKey)

structure RelationshipRecord.IsSound (record : RelationshipRecord) (rows : RegistryRows) : Prop where
  key : record.storedKey = record.key
  ends : (record.fromTableId, lower record.fromColumn) ≠ (record.toTableId, lower record.toColumn)
  fromTable : rows.HasTable record.dataModelId record.fromTableId
  toTable : rows.HasTable record.dataModelId record.toTableId
  manyToMany : record.cardinality.code = "n-n" → record.status = invalidStatus
  valid : record.status = validStatus → record.invalidReason = none

namespace RegistryRows

structure RelationshipsSound (rows : RegistryRows) : Prop where
  each : ∀ record ∈ rows.relationships, record.IsSound rows
  once : (rows.relationships.map RelationshipRecord.identity).Nodup

theorem isSameRelationship_iff {one two : RelationshipRecord} :
    isSameRelationship one two = true ↔ one.identity = two.identity := by
  simp [isSameRelationship, RelationshipRecord.identity]

theorem isSameRelationship_eq_false_iff {one two : RelationshipRecord} :
    isSameRelationship one two = false ↔ two.identity ≠ one.identity := by
  rw [← Bool.not_eq_true, isSameRelationship_iff, ne_comm]

@[simp]
theorem identity_updateRelationship (record other : RelationshipRecord) :
    (updateRelationship record other).identity = other.identity := by
  unfold updateRelationship
  split
  · rename_i hsame
    exact isSameRelationship_iff.1 hsame
  · rfl

/-- What is stored takes the place of what is kept under the same key, so it is kept once, too. -/
theorem putRelationship_once {rows changed : RegistryRows} {record : RelationshipRecord}
    (h : (rows.relationships.map RelationshipRecord.identity).Nodup)
    (hput : rows.putRelationship record = .ok changed) :
    (changed.relationships.map RelationshipRecord.identity).Nodup := by
  rcases putRelationship_eq_ok hput with rfl | ⟨hnew, rfl⟩
  · exact nodup_map_of_key_eq h (identity_updateRelationship record)
  · have hfresh : record.identity ∉ rows.relationships.map RelationshipRecord.identity := by
      intro hmem
      obtain ⟨other, hother, hidentity⟩ := List.mem_map.1 hmem
      exact isSameRelationship_eq_false_iff.1 (hnew other hother) hidentity
    rw [List.map_append]
    exact List.nodup_append.2 ⟨h, by simp, by simpa using hfresh⟩

/-- No write brings in a second relationship under a key. -/
theorem Write.once {rows changed : RegistryRows}
    (h : (rows.relationships.map RelationshipRecord.identity).Nodup)
    (hwrite : rows.Write changed) :
    (changed.relationships.map RelationshipRecord.identity).Nodup := by
  cases hwrite with
  | connection hadd =>
    obtain ⟨-, rfl⟩ := addConnection_eq_ok hadd
    exact h
  | syncedTable hadd =>
    obtain ⟨-, rfl⟩ := addSyncedTable_eq_ok hadd
    exact h
  | runtimeTable record =>
    unfold putRuntimeTable
    split <;> exact h
  | deletion hmark =>
    rcases markDeleted_eq_ok hmark with ⟨mark, -, rfl⟩ | ⟨mark, -, rfl⟩ <;> exact h
  | model hadd => rcases addModel_eq_ok hadd with rfl | ⟨-, rfl⟩ <;> exact h
  | modelTable hput => rcases putModelTable_eq_ok hput with rfl | rfl <;> exact h
  | relationship hput => exact putRelationship_once h hput
  | removal workspaceId id => exact h.sublist (List.filter_sublist.map _)

end RegistryRows

/-- Whatever is done with a registry, relationships are kept once under each key. -/
theorem Registry.run_once {registry : Registry} (operations : List RegistryOperation)
    (h : (registry.rows.relationships.map RelationshipRecord.identity).Nodup) :
    ((registry.run operations).rows.relationships.map RelationshipRecord.identity).Nodup :=
  run_keeps (fun _ _ hrows hwrite => hwrite.once hrows) operations (fun _ _ _ _ hrows => hrows) h

namespace RelationshipRecord.IsSound

variable {record other : RelationshipRecord} {rows changed : RegistryRows}

/-- A relationship stays sound if the data models lose no table. -/
theorem mono (h : record.IsSound rows)
    (htables : ∀ modelId id, rows.HasTable modelId id → changed.HasTable modelId id) :
    record.IsSound changed :=
  { h with
    fromTable := htables _ _ h.fromTable
    toTable := htables _ _ h.toTable }

/-- An identifier and a time say nothing about soundness. -/
theorem update (h : record.IsSound rows) (hother : other.IsSound rows) :
    (RegistryRows.updateRelationship record other).IsSound rows := by
  unfold RegistryRows.updateRelationship
  split
  · exact ⟨h.key, h.ends, h.fromTable, h.toTable, h.manyToMany, h.valid⟩
  · exact hother

end RelationshipRecord.IsSound

namespace RegistryRows.RelationshipsSound

variable {rows changed : RegistryRows}

theorem empty : RegistryRows.empty.RelationshipsSound :=
  ⟨by simp [RegistryRows.empty], List.nodup_nil⟩

theorem of_tables (h : rows.RelationshipsSound) (hsame : changed.relationships = rows.relationships)
    (htables : ∀ modelId id, rows.HasTable modelId id → changed.HasTable modelId id) :
    changed.RelationshipsSound := by
  refine ⟨fun record hrecord => ?_, hsame ▸ h.once⟩
  exact (h.each record (hsame ▸ hrecord)).mono htables

theorem addModel {record : ModelRecord} (h : rows.RelationshipsSound)
    (hchange : rows.addModel record = .ok changed) : changed.RelationshipsSound := by
  rcases addModel_eq_ok hchange with rfl | ⟨-, rfl⟩
  · exact h
  · exact h.of_tables rfl fun _ _ htable => htable

theorem putModelTable {record : ModelTableRecord} (h : rows.RelationshipsSound)
    (hchange : rows.putModelTable record = .ok changed) : changed.RelationshipsSound := by
  rcases putModelTable_eq_ok hchange with rfl | rfl
  · refine h.of_tables rfl fun modelId id ⟨other, hother, hid, hmodel⟩ => ?_
    exact ⟨_, List.mem_map_of_mem hother, by simpa using hid, by simpa using hmodel⟩
  · refine h.of_tables rfl fun modelId id ⟨other, hother, hfits⟩ => ?_
    exact ⟨other, List.mem_append_left _ hother, hfits⟩

theorem putRelationship {record : RelationshipRecord} (h : rows.RelationshipsSound)
    (hrecord : record.IsSound rows) (hchange : rows.putRelationship record = .ok changed) :
    changed.RelationshipsSound := by
  refine ⟨fun other hother => ?_, putRelationship_once h.once hchange⟩
  rcases putRelationship_eq_ok hchange with rfl | ⟨-, rfl⟩
  · obtain ⟨earlier, hearlier, rfl⟩ := List.mem_map.1 hother
    exact (hrecord.update (h.each earlier hearlier)).mono fun _ _ htable => htable
  · rcases List.mem_append.1 hother with hother | hother
    · exact (h.each other hother).mono fun _ _ htable => htable
    · obtain rfl := List.mem_singleton.1 hother
      exact hrecord.mono fun _ _ htable => htable

theorem removeRelationship (h : rows.RelationshipsSound) (workspaceId id : String) :
    (rows.removeRelationship workspaceId id).RelationshipsSound := by
  refine ⟨fun record hrecord => ?_, ?_⟩
  · exact (h.each record (List.mem_of_mem_filter hrecord)).mono fun _ _ htable => htable
  · exact h.once.sublist (List.filter_sublist.map _)

end RegistryRows.RelationshipsSound

/-! ### Storing -/

theorem RegistryRows.of_relationship_eq_some {rows : RegistryRows} {modelId key : String}
    {record : RelationshipRecord} (h : rows.relationship? modelId key = some record) :
    record ∈ rows.relationships ∧ record.identity = (modelId, key) := by
  have hkey := List.find?_some h
  simp only [Bool.and_eq_true, beq_iff_eq] at hkey
  exact ⟨List.mem_of_find?_eq_some h, Prod.ext hkey.1 hkey.2⟩

/-- What is kept under the key of a relationship that has just been stored is that relationship. It
has the identifier and the time of the one whose place it takes, if there was one. -/
theorem RegistryRows.putRelationship_origin {rows changed : RegistryRows}
    {record found : RelationshipRecord} (hput : rows.putRelationship record = .ok changed)
    (hfound : found ∈ changed.relationships) (hidentity : found.identity = record.identity) :
    (∃ other ∈ rows.relationships, other.identity = record.identity ∧
      found = { record with id := other.id, createdAt := other.createdAt }) ∨
      (∀ other ∈ rows.relationships, other.identity ≠ record.identity) ∧ found = record := by
  rcases putRelationship_eq_ok hput with rfl | ⟨hnew, rfl⟩
  · obtain ⟨other, hother, rfl⟩ := List.mem_map.1 hfound
    rw [identity_updateRelationship] at hidentity
    refine .inl ⟨other, hother, hidentity, ?_⟩
    rw [updateRelationship, if_pos (isSameRelationship_iff.2 hidentity.symm)]
  · have hnone (other : RelationshipRecord) (hother : other ∈ rows.relationships) :
        other.identity ≠ record.identity := isSameRelationship_eq_false_iff.1 (hnew other hother)
    refine .inr ⟨hnone, ?_⟩
    rcases List.mem_append.1 hfound with hold | hlast
    · exact absurd hidentity (hnone found hold)
    · exact List.mem_singleton.1 hlast

/-- What is kept under other keys stays. -/
theorem RegistryRows.putRelationship_others {rows changed : RegistryRows}
    {record : RelationshipRecord} (hput : rows.putRelationship record = .ok changed) :
    changed.relationships.filter (·.identity != record.identity) =
      rows.relationships.filter (·.identity != record.identity) := by
  rcases putRelationship_eq_ok hput with rfl | ⟨-, rfl⟩
  · have hidentities : (fun other => other.identity != record.identity) ∘
        updateRelationship record = fun other => other.identity != record.identity := by
      funext other
      rw [Function.comp_apply, identity_updateRelationship]
    rw [List.filter_map, hidentities, List.map_congr_left, List.map_id]
    intro other hother
    have hne : other.identity ≠ record.identity := bne_iff_ne.1 (List.mem_filter.1 hother).2
    rw [updateRelationship, if_neg]
    · rfl
    · exact fun hsame => hne (isSameRelationship_iff.1 hsame).symm
  · rw [List.filter_append, List.filter_cons_of_neg (by simp), List.filter_nil, List.append_nil]

/-- A draft that lacks nothing says all but an identifier and times. -/
theorem RelationshipDraft.complete_eq_ok {draft : RelationshipDraft} {id now : String}
    {made : Relationship} (h : draft.complete id now = .ok made) :
    made.draft = { draft with id := some id } ∧ made.createdAt = some now ∧
      made.updatedAt = some now := by
  have hneeded {α : Type} {value : Option α} {a : α} (hvalue : Transaction.needed value = .ok a) :
      value = some a := by
    cases value <;> cases hvalue
    rfl
  unfold complete at h
  simp only [bind_eq_ok, pure_eq_ok] at h
  obtain ⟨modelId, hmodel, fromId, hfrom, fromColumn, hfromColumn, toId, hto, toColumn, htoColumn,
    cardinality, hcardinality, direction, hdirection, status, hstatus, rfl⟩ := h
  refine ⟨?_, rfl, rfl⟩
  rw [Relationship.draft, hneeded hmodel, hneeded hfrom, hneeded hfromColumn, hneeded hto,
    hneeded htoColumn, hneeded hcardinality, hneeded hdirection, hneeded hstatus]

/-- A draft was stored at a time under an identifier: it is the only relationship between its ends,
with all that the draft says. The one that was there before has left it its identifier and the time
when it was made, and nothing else has changed. -/
structure RegistryRows.Stored (rows changed : RegistryRows) (draft : RelationshipDraft)
    (id now : String) (record : RelationshipRecord) : Prop where
  facts : record.draft = { draft with id := some record.id }
  updated : record.updatedAt = some now
  key : record.storedKey = record.key
  only : changed.relationships.filter (·.identity == record.identity) = [record]
  replaces : ∀ other ∈ rows.relationships, other.identity = record.identity →
    record.id = other.id ∧ record.createdAt = other.createdAt
  adds : (∀ other ∈ rows.relationships, other.identity ≠ record.identity) →
    record.id = id ∧ record.createdAt = some now
  others : changed.relationships.filter (·.identity != record.identity) =
    rows.relationships.filter (·.identity != record.identity)
  tables : changed = { rows with relationships := changed.relationships }

/-- What is read after a complete draft has been put into its place is what was stored of it. -/
theorem RegistryRows.stored_of_putRelationship {rows changed : RegistryRows}
    {draft : RelationshipDraft} {id now : String} {made : Relationship}
    {record : RelationshipRecord}
    (honce : (rows.relationships.map RelationshipRecord.identity).Nodup)
    (hmade : draft.complete id now = .ok made)
    (hput : rows.putRelationship { made with storedKey := made.key } = .ok changed)
    (hfound : changed.relationship? made.dataModelId made.key = some record) :
    rows.Stored changed draft id now record := by
  obtain ⟨hdraft, hcreated, hupdated⟩ := RelationshipDraft.complete_eq_ok hmade
  obtain ⟨hmem, hidentity⟩ := of_relationship_eq_some hfound
  have horigin := putRelationship_origin hput hmem hidentity
  have hfacts : record.draft = { made.draft with id := some record.id } ∧
      record.updatedAt = made.updatedAt ∧ record.storedKey = record.key := by
    rcases horigin with ⟨other, -, -, rfl⟩ | ⟨-, rfl⟩ <;> exact ⟨rfl, rfl, rfl⟩
  constructor
  · rw [hfacts.1, hdraft]
  · exact hfacts.2.1.trans hupdated
  · exact hfacts.2.2
  · exact filter_key_eq_singleton (putRelationship_once honce hput) hmem
  · intro other hother hsame
    rcases horigin with ⟨earlier, hearlier, hkept, rfl⟩ | ⟨hnone, -⟩
    · rw [List.inj_on_of_nodup_map honce hother hearlier (hsame.trans (hidentity.trans hkept.symm))]
      exact ⟨rfl, rfl⟩
    · exact absurd (hsame.trans hidentity) (hnone other hother)
  · intro hnone
    rcases horigin with ⟨earlier, hearlier, hkept, -⟩ | ⟨-, rfl⟩
    · exact absurd (hkept.trans hidentity.symm) (hnone earlier hearlier)
    · exact ⟨Option.some.inj (congrArg RelationshipDraft.id hdraft), hcreated⟩
  · rw [hidentity]
    exact putRelationship_others hput
  · rcases putRelationship_eq_ok hput with rfl | ⟨-, rfl⟩ <;> rfl

section

open Transaction

theorem storeRelationship_stores {registry : Registry} {start : RegistryRows}
    {draft : RelationshipDraft} {id now : String} :
    Ensures registry (· = start)
      (fun r rows => ∃ made record, draft.complete id now = .ok made ∧
        start.putRelationship { made with storedKey := made.key } = .ok rows ∧
        rows.relationship? made.dataModelId made.key = some record ∧ r = record.shown)
      (storeRelationship draft id now) := by
  refine .bind (.statement (q := fun key rows => ∃ made, draft.complete id now = .ok made ∧
    start.putRelationship { made with storedKey := made.key } = .ok rows ∧
    key = (made.dataModelId, made.key)) fun rows key changed hrows hbody => ?_) fun key => ?_
  · obtain ⟨made, hmade, hbody⟩ := bind_eq_ok.1 hbody
    obtain ⟨stored, hstored, hbody⟩ := bind_eq_ok.1 hbody
    cases hbody
    exact ⟨made, hmade, hrows ▸ hstored, rfl⟩
  · refine .bind (.select (q := fun found rows => (∃ made, draft.complete id now = .ok made ∧
      start.putRelationship { made with storedKey := made.key } = .ok rows ∧
      key = (made.dataModelId, made.key)) ∧ rows.relationship? key.1 key.2 = found)
      fun rows hrows => ⟨hrows, rfl⟩) fun found => ?_
    cases found with
    | none => exact .throw
    | some record =>
      refine .pure fun rows hrows => ?_
      obtain ⟨⟨made, hmade, hstored, rfl⟩, hfound⟩ := hrows
      exact ⟨made, record, hmade, hstored, hfound, rfl⟩

end

end SemanticLayer
