import Mathlib.Data.List.Induction
import Mathlib.Data.List.Nodup
import SemanticLayer.Guard

/-!
Lists without later repetitions: they have the same members, and each of them once.
-/

namespace SemanticLayer

variable {α : Type} [BEq α] [LawfulBEq α]

/-- What has been collected from a part of a list keeps its members and stays free of repetitions
while the rest is gone through. -/
private theorem distinct_fold (seen values : List α) (hseen : seen.Nodup) :
    let all := values.foldl
      (fun seen value => if seen.contains value then seen else seen ++ [value]) seen
    all.Nodup ∧ ∀ x, x ∈ all ↔ x ∈ seen ∨ x ∈ values := by
  induction values generalizing seen with
  | nil => exact ⟨hseen, by simp⟩
  | cons value rest ih =>
    rw [List.foldl_cons]
    split
    · rename_i hmem
      obtain ⟨hnodup, hall⟩ := ih seen hseen
      refine ⟨hnodup, fun x => (hall x).trans ?_⟩
      have hvalue : value ∈ seen := by simpa using hmem
      grind
    · rename_i hmem
      have hvalue : value ∉ seen := by simpa using hmem
      obtain ⟨hnodup, hall⟩ := ih (seen ++ [value])
        (hseen.append (List.nodup_singleton _) (List.disjoint_singleton.2 hvalue))
      refine ⟨hnodup, fun x => (hall x).trans ?_⟩
      grind

theorem nodup_distinct (values : List α) : (distinct values).Nodup :=
  (distinct_fold [] values List.nodup_nil).1

@[simp]
theorem mem_distinct {values : List α} {x : α} : x ∈ distinct values ↔ x ∈ values :=
  ((distinct_fold [] values List.nodup_nil).2 x).trans (by simp)

theorem distinct_eq_singleton {values : List α} {x : α} :
    distinct values = [x] ↔ ∀ y, y ∈ values ↔ y = x := by
  rw [← List.perm_singleton, List.perm_ext_iff_of_nodup (nodup_distinct _) (List.nodup_singleton _)]
  simp

theorem distinct_append_singleton (values : List α) (last : α) :
    distinct (values ++ [last]) =
      if values.contains last then distinct values else distinct values ++ [last] := by
  have hcontains : (distinct values).contains last = values.contains last := by
    rw [Bool.eq_iff_iff, List.contains_iff_mem, List.contains_iff_mem, mem_distinct]
  rw [← hcontains, distinct, List.foldl_append]
  rfl

/-- Values are kept in the order in which they occur first: of two of them, the later one has not
occurred before the earlier one. -/
theorem pairwise_distinct (values : List α) :
    (distinct values).Pairwise fun value later =>
      ∃ before after, values = before ++ value :: after ∧ later ∉ before := by
  induction values using List.reverseRecOn with
  | nil => exact .nil
  | append_singleton values last ih =>
    have hkept : (distinct values).Pairwise fun value later =>
        ∃ before after, values ++ [last] = before ++ value :: after ∧ later ∉ before := by
      refine ih.imp ?_
      rintro value later ⟨before, after, rfl, hlater⟩
      exact ⟨before, after ++ [last], by simp, hlater⟩
    rw [distinct_append_singleton]
    split
    · exact hkept
    · rename_i hfresh
      refine List.pairwise_append.2 ⟨hkept, List.pairwise_singleton _ _, ?_⟩
      intro value hvalue later hlater
      obtain rfl := List.mem_singleton.1 hlater
      obtain ⟨before, after, rfl⟩ := List.append_of_mem (mem_distinct.1 hvalue)
      refine ⟨before, after ++ [later], by simp, fun hbefore => hfresh ?_⟩
      rw [List.contains_iff_mem]
      exact List.mem_append_left _ hbefore

end SemanticLayer
