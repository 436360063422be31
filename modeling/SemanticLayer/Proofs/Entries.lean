import Mathlib.Data.List.Nodup
import SemanticLayer.Profile.Cache

/-!
Lists of entries under keys, where each key is held once: what an entry that is set does to them.
-/

namespace SemanticLayer

variable {κ α : Type} [BEq κ] {entries : List (κ × α)} {key : κ} {value : α}

theorem mem_setEntry_self : (key, value) ∈ setEntry entries key value := by
  induction entries with
  | nil => exact List.mem_singleton_self _
  | cons entry rest ih =>
    rw [setEntry]
    split
    · exact List.mem_cons_self
    · exact List.mem_cons_of_mem _ ih

theorem mem_of_mem_setEntry {entry : κ × α} (h : entry ∈ setEntry entries key value) :
    entry = (key, value) ∨ entry ∈ entries := by
  induction entries with
  | nil => exact .inl (List.mem_singleton.1 h)
  | cons head rest ih =>
    rw [setEntry] at h
    split at h
    · rcases List.mem_cons.1 h with rfl | h
      · exact .inl rfl
      · exact .inr (List.mem_cons_of_mem _ h)
    · rcases List.mem_cons.1 h with rfl | h
      · exact .inr List.mem_cons_self
      · exact (ih h).imp id (List.mem_cons_of_mem _)

/-- An entry stays unless its value is the one that is replaced. -/
theorem mem_setEntry_or_replaced {entry : κ × α} (h : entry ∈ entries) :
    entry ∈ setEntry entries key value ∨ valueOf? entries key = some entry.2 := by
  induction entries with
  | nil => cases h
  | cons head rest ih =>
    rw [setEntry, valueOf?, List.find?_cons]
    by_cases hkey : (head.1 == key) = true
    · rw [if_pos hkey, hkey]
      rcases List.mem_cons.1 h with rfl | h
      · exact .inr rfl
      · exact .inl (List.mem_cons_of_mem _ h)
    · rw [if_neg hkey, Bool.not_eq_true] at *
      rw [hkey]
      rcases List.mem_cons.1 h with rfl | h
      · exact .inl List.mem_cons_self
      · exact (ih h).imp (List.mem_cons_of_mem _) id

theorem setEntry_of_not_mem [LawfulBEq κ] (h : key ∉ entries.map Prod.fst) :
    setEntry entries key value = entries ++ [(key, value)] := by
  induction entries with
  | nil => rfl
  | cons head rest ih =>
    rw [List.map_cons, List.mem_cons, not_or] at h
    rw [setEntry, if_neg (by simpa using Ne.symm h.1), ih h.2, List.cons_append]

/-- Entries under different keys are kept as they are. -/
theorem foldl_setEntry [LawfulBEq κ] (h : (entries.map Prod.fst).Nodup) :
    entries.foldl (fun done entry => setEntry done entry.1 entry.2) [] = entries := by
  suffices hall : ∀ (later done : List (κ × α)), ((done ++ later).map Prod.fst).Nodup →
      later.foldl (fun done entry => setEntry done entry.1 entry.2) done = done ++ later from
    hall entries [] h
  intro later
  induction later with
  | nil => simp
  | cons entry rest ih =>
    intro done hnodup
    have hnew : entry.1 ∉ done.map Prod.fst := by
      rw [List.map_append, List.nodup_append] at hnodup
      intro hmem
      exact hnodup.2.2 _ hmem _ (by simp) rfl
    rw [List.foldl_cons, setEntry_of_not_mem hnew, ih _ (by simpa using hnodup)]
    simp

theorem mem_of_mem_foldl_setEntry {more : List (κ × α)} {entry : κ × α}
    (h : entry ∈ more.foldl (fun done entry => setEntry done entry.1 entry.2) entries) :
    entry ∈ entries ∨ entry ∈ more := by
  induction more generalizing entries with
  | nil => exact .inl h
  | cons head rest ih =>
    rcases ih h with hentry | hentry
    · rcases mem_of_mem_setEntry hentry with rfl | hentry
      · exact .inr List.mem_cons_self
      · exact .inl hentry
    · exact .inr (List.mem_cons_of_mem _ hentry)

end SemanticLayer
