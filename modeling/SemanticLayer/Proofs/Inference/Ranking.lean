import Mathlib.Data.List.ReduceOption
import SemanticLayer.Inference.Suggestion
import SemanticLayer.Proofs.Entries

/-!
The order of suggestions and the best one of several. The best one is found in two steps, first
among those that share an identity and then among what is left; this is as good as one look at all
of them.
-/

namespace SemanticLayer

/-! ### The order -/

namespace Suggestion

variable {one two three : Suggestion}

/-- The order goes by one part after another. -/
instance : Std.TransCmp compare :=
  inferInstanceAs (Std.TransCmp (compareLex (compareLex (compareLex (compareLex
    (fun one two => compareOn confidence two one)
    (compareOn fun suggestion => suggestion.status != validStatus))
    (fun one two => compareOn (fun suggestion : Suggestion => suggestion.strength.rank) two one))
    (compareOn fun suggestion => preference suggestion.cardinality))
    (compareOn id)))

theorem precedes_eq_false : two.precedes one = false ↔ (one.compare two).isLE = true := by
  rw [precedes, beq_eq_false_iff_ne, Ordering.isLE_iff_ne_gt, ne_eq]
  exact not_congr Std.OrientedCmp.gt_iff_lt.symm

theorem precedes_self (suggestion : Suggestion) : suggestion.precedes suggestion = false :=
  precedes_eq_false.2 Std.ReflCmp.isLE_rfl

/-- What is no worse than what is no worse is no worse itself. -/
theorem precedes_trans (hfirst : two.precedes one = false) (hsecond : three.precedes two = false) :
    three.precedes one = false :=
  precedes_eq_false.2 (Std.TransCmp.isLE_trans (precedes_eq_false.1 hfirst)
    (precedes_eq_false.1 hsecond))

theorem precedes_asymm (h : one.precedes two = true) : two.precedes one = false := by
  refine precedes_eq_false.2 ?_
  rw [beq_iff_eq.1 h]
  rfl

/-! ### The best one -/

/-- The suggestion is one of several, of which none precedes it. -/
def IsBestOf (best : Suggestion) (suggestions : List Suggestion) : Prop :=
  best ∈ suggestions ∧ ∀ other ∈ suggestions, other.precedes best = false

theorem better_cases (best : Option Suggestion) (candidate : Suggestion) :
    (better best candidate = candidate ∧
      ∀ other, best = some other → other.precedes candidate = false) ∨
    (best = some (better best candidate) ∧ candidate.precedes (better best candidate) = false) := by
  cases best with
  | none => exact .inl ⟨rfl, by simp⟩
  | some other =>
    cases h : candidate.precedes other with
    | true => exact .inl ⟨by simp [better, h], by simp [precedes_asymm h]⟩
    | false => exact .inr ⟨by simp [better, h], by simp [better, h]⟩

/-- While some suggestions are gone through, the best one so far is kept. -/
theorem foldl_better_isBestOf (suggestions : List Suggestion) {seen : List Suggestion}
    {best : Suggestion} (hbest : best.IsBestOf seen) :
    ∃ last, suggestions.foldl (fun best candidate => some (better best candidate)) (some best) =
      some last ∧ last.IsBestOf (seen ++ suggestions) := by
  induction suggestions generalizing seen best with
  | nil => exact ⟨best, rfl, by rwa [List.append_nil]⟩
  | cons candidate rest ih =>
    have hnext : (better (some best) candidate).IsBestOf (seen ++ [candidate]) := by
      rcases better_cases (some best) candidate with ⟨hbetter, hworse⟩ | ⟨hkept, hworse⟩
      · rw [hbetter]
        refine ⟨by simp, fun other hother => ?_⟩
        rcases List.mem_append.1 hother with hother | hother
        · exact precedes_trans (hworse best rfl) (hbest.2 other hother)
        · rw [List.mem_singleton.1 hother]
          exact precedes_self _
      · rw [← Option.some.inj hkept] at hworse ⊢
        refine ⟨List.mem_append_left _ hbest.1, fun other hother => ?_⟩
        rcases List.mem_append.1 hother with hother | hother
        · exact hbest.2 other hother
        · rw [List.mem_singleton.1 hother]
          exact hworse
    obtain ⟨last, hlast, hisBest⟩ := ih hnext
    exact ⟨last, hlast, by simpa using hisBest⟩

theorem exists_best? {suggestions : List Suggestion} (h : suggestions ≠ []) :
    ∃ best, best? suggestions = some best ∧ best.IsBestOf suggestions := by
  cases suggestions with
  | nil => exact absurd rfl h
  | cons first rest =>
    have hfirst : first.IsBestOf [first] :=
      ⟨List.mem_singleton_self _, by simp [precedes_self]⟩
    exact foldl_better_isBestOf rest hfirst

/-- The entries hold some of the suggestions, and for each suggestion one that is no worse. -/
structure Represents (entries : List (String × Suggestion)) (suggestions : List Suggestion) :
    Prop where
  among : ∀ entry ∈ entries, entry.2 ∈ suggestions
  covers : ∀ suggestion ∈ suggestions, ∃ entry ∈ entries, suggestion.precedes entry.2 = false

theorem Represents.enter {entries : List (String × Suggestion)} {suggestions : List Suggestion}
    (h : Represents entries suggestions) (candidate : Suggestion) :
    Represents (Suggestion.enter entries (some candidate)) (suggestions ++ [candidate]) := by
  have hchoice := better_cases (valueOf? entries candidate.id) candidate
  have hthere : ∀ other, valueOf? entries candidate.id = some other → other ∈ suggestions := by
    intro other hother
    obtain ⟨entry, hentry, rfl⟩ := Option.map_eq_some_iff.1 hother
    exact h.among entry (List.mem_of_find?_eq_some hentry)
  refine ⟨fun entry hentry => ?_, fun suggestion hsuggestion => ?_⟩
  · rcases mem_of_mem_setEntry hentry with rfl | hentry
    · rcases hchoice with ⟨hbetter, -⟩ | ⟨hkept, -⟩
      · simp [hbetter]
      · exact List.mem_append_left _ (hthere _ hkept)
    · exact List.mem_append_left _ (h.among entry hentry)
  · -- Whatever the replaced entry stood for, its successor stands for as well.
    have hnew : candidate.precedes (better (valueOf? entries candidate.id) candidate) = false ∧
        ∀ other, valueOf? entries candidate.id = some other →
          other.precedes (better (valueOf? entries candidate.id) candidate) = false := by
      rcases hchoice with ⟨hbetter, hworse⟩ | ⟨hkept, hworse⟩
      · rw [hbetter]
        exact ⟨precedes_self _, hworse⟩
      · refine ⟨hworse, fun other hother => ?_⟩
        rw [← Option.some.inj (hkept.symm.trans hother)]
        exact precedes_self _
    rcases List.mem_append.1 hsuggestion with hsuggestion | hsuggestion
    · obtain ⟨entry, hentry, hcovers⟩ := h.covers suggestion hsuggestion
      rcases mem_setEntry_or_replaced hentry with hstays | hreplaced
      · exact ⟨entry, hstays, hcovers⟩
      · exact ⟨_, mem_setEntry_self, precedes_trans (hnew.2 _ hreplaced) hcovers⟩
    · rw [List.mem_singleton.1 hsuggestion]
      exact ⟨_, mem_setEntry_self, hnew.1⟩

theorem represents_foldl_enter (suggestions : List (Option Suggestion)) :
    Represents (suggestions.foldl Suggestion.enter []) suggestions.reduceOption := by
  suffices hall : ∀ (later : List (Option Suggestion)) (seen : List Suggestion)
      (entries : List (String × Suggestion)), Represents entries seen →
      Represents (later.foldl Suggestion.enter entries) (seen ++ later.reduceOption) from
    hall suggestions [] [] ⟨by simp, by simp⟩
  intro later
  induction later with
  | nil => simp
  | cons candidate rest ih =>
    intro seen entries h
    cases candidate with
    | none => exact ih seen entries h
    | some candidate =>
      rw [List.reduceOption_cons_of_some]
      simpa using ih _ _ (h.enter candidate)

/-- The best one of the suggestions that were found, first of each identity and then of what is
left. -/
def bestFound? (found : List (Option Suggestion)) : Option Suggestion :=
  best? ((found.foldl Suggestion.enter []).map Prod.snd)

/-- Two looks find one of the best of all suggestions, if there are any. -/
theorem bestFound?_cases (found : List (Option Suggestion)) :
    (bestFound? found = none ∧ found.reduceOption = []) ∨
      ∃ best, bestFound? found = some best ∧ best.IsBestOf found.reduceOption := by
  have hentries := represents_foldl_enter found
  cases hfound : (found.foldl Suggestion.enter []).map Prod.snd with
  | nil =>
    refine .inl ⟨by rw [bestFound?, hfound]; rfl, List.eq_nil_iff_forall_not_mem.2 ?_⟩
    intro suggestion hsuggestion
    obtain ⟨entry, hentry, -⟩ := hentries.covers suggestion hsuggestion
    exact absurd (List.mem_map_of_mem hentry) (hfound ▸ List.not_mem_nil)
  | cons first rest =>
    obtain ⟨best, hbest, hmem, hleast⟩ := exists_best? (List.cons_ne_nil first rest)
    rw [← hfound] at hbest hmem hleast
    obtain ⟨chosen, hchosen, rfl⟩ := List.mem_map.1 hmem
    refine .inr ⟨chosen.2, hbest, hentries.among chosen hchosen, fun other hother => ?_⟩
    obtain ⟨covering, hcovering, hcovers⟩ := hentries.covers other hother
    exact precedes_trans (hleast _ (List.mem_map_of_mem hcovering)) hcovers

end Suggestion

end SemanticLayer
