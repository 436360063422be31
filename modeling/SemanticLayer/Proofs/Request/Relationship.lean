import Mathlib.Data.List.DropRight
import SemanticLayer.Proofs.Outcome
import SemanticLayer.Request.Relationship

/-!
What is known of a request for a relationship that could be read: its columns have no blanks around
them, and the cardinality that it asks for is one of the four cases.
-/

namespace SemanticLayer

namespace Text

theorem dropRight_eq (p : Char → Bool) (cs : List Char) : dropRight p cs = cs.rdropWhile p := rfl

/-- What has been trimmed begins with what it began with before its end was dropped. -/
theorem trimChars_trimChars (cs : List Char) : trimChars (trimChars cs) = trimChars cs := by
  unfold trimChars
  rw [dropRight_eq, dropRight_eq]
  generalize hbegun : cs.dropWhile isBlank = begun
  have hstart : begun.dropWhile isBlank = begun := by
    rw [← hbegun]
    exact List.dropWhile_idempotent isBlank cs
  have hkept : (begun.rdropWhile isBlank).dropWhile isBlank = begun.rdropWhile isBlank := by
    rw [List.dropWhile_eq_self_iff]
    intro hlength
    obtain ⟨rest, hrest⟩ := List.rdropWhile_prefix isBlank begun
    have hlonger : 0 < begun.length := by
      rw [← hrest, List.length_append]
      omega
    have hsame : begun[0] = (begun.rdropWhile isBlank)[0] := by
      rw [List.getElem_of_eq hrest.symm, List.getElem_append_left hlength]
    rw [← hsame]
    exact List.dropWhile_eq_self_iff.1 hstart hlonger
  rw [hkept]
  exact List.rdropWhile_idempotent isBlank begun

@[simp]
theorem trim_trim (s : String) : trim (trim s) = trim s := by
  unfold trim
  rw [String.toList_ofList, trimChars_trimChars]

end Text

open Text

variable {α β : Type}

theorem Checked.seq_eq_ok {f : Checked (α → β)} {x : Checked α} {b : β} :
    (f <*> x) = .ok b ↔ ∃ g a, f = .ok g ∧ x = .ok a ∧ g a = b := by
  change Checked.app f (fun _ => x) = .ok b ↔ _
  cases f <;> cases x <;> simp [Checked.app]

theorem Checked.within_eq_ok {name : String} {x : Checked α} {a : α} :
    Checked.within name x = .ok a ↔ x = .ok a := by
  cases x <;> simp [Checked.within, Except.mapError]

/-- A field that has to be there was read from some value. -/
theorem FieldName.required_eq_ok {field : FieldName} {read : Json → Checked α} {value : Json} {a : α}
    (h : field.required read value = .ok a) : ∃ found, read found = .ok a := by
  unfold FieldName.required at h
  split at h
  · exact ⟨_, Checked.within_eq_ok.1 h⟩
  · cases Checked.within_eq_ok.1 h

theorem FieldName.withDefault_eq_ok {field : FieldName} {default : α} {read : Json → Checked α}
    {value : Json} {a : α} (h : field.withDefault default read value = .ok a) :
    a = default ∨ ∃ found, read found = .ok a := by
  unfold FieldName.withDefault at h
  split at h
  · exact .inr ⟨_, Checked.within_eq_ok.1 h⟩
  · exact .inl (Except.ok.inj h).symm

theorem trim_of_readTrimmed {rejection : String} {value : Json} {s : String}
    (h : readTrimmed rejection value = .ok s) : trim s = s := by
  obtain ⟨given, -, h⟩ := bind_eq_ok.1 h
  split at h
  · cases h
  · cases h
    exact trim_trim given

/-- Whether the cardinality is one of the four cases. -/
def Cardinality.isCase : Cardinality → Bool
  | .other _ => false
  | _ => true

theorem Cardinality.isCase_ofCode : ∀ code ∈ codes, (ofCode code).isCase = true := by
  decide

namespace RelationshipRequest

theorem isCase_of_readCardinality {value : Json} {found : Option Cardinality}
    (h : readCardinality value = .ok found) : ∀ cardinality ∈ found, cardinality.isCase = true := by
  obtain ⟨code, -, h⟩ := bind_eq_ok.1 h
  split at h
  · cases h
    simp
  · split at h
    · rename_i hcode
      cases h
      rintro _ ⟨⟩
      exact Cardinality.isCase_ofCode _ (List.contains_iff_mem.1 hcode)
    · cases h

/-- What a request that could be read says about its columns and its cardinality. -/
theorem read_eq_ok {value : Json} {request : RelationshipRequest} (h : read value = .ok request) :
    trim request.fromColumn = request.fromColumn ∧ trim request.toColumn = request.toColumn ∧
      ∀ cardinality ∈ request.cardinality, cardinality.isCase = true := by
  unfold read Checked.object at h
  split at h
  · simp only [Checked.seq_eq_ok, map_eq_ok] at h
    obtain ⟨_, direction, ⟨_, cardinality, ⟨_, toColumn, ⟨_, toTable, ⟨_, fromColumn,
      ⟨_, fromTable, ⟨model, -, rfl⟩, -, rfl⟩, hfrom, rfl⟩, -, rfl⟩, hto, rfl⟩, hcardinality, rfl⟩,
      -, rfl⟩ := h
    obtain ⟨_, hfrom⟩ := FieldName.required_eq_ok hfrom
    obtain ⟨_, hto⟩ := FieldName.required_eq_ok hto
    refine ⟨trim_of_readTrimmed hfrom, trim_of_readTrimmed hto, ?_⟩
    rcases FieldName.withDefault_eq_ok hcardinality with rfl | ⟨_, hread⟩
    · simp
    · exact isCase_of_readCardinality hread
  · cases h

end RelationshipRequest

end SemanticLayer
