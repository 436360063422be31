import Mathlib.Data.Finset.Card
import Mathlib.Data.String.Basic
import SemanticLayer.Profile.Sample
import SemanticLayer.Proofs.Inference.Afresh
import SemanticLayer.Proofs.Inference.Profiling

/-!
What an overlap says of the values of two columns. Of either column only the first texts in order are
compared, as many as the limit allows, so an overlap counts the common texts that few enough texts
come before on both sides. No overlap means no common value where both columns stay within the
limit; beyond it, a common value may be missed.
-/

namespace SemanticLayer

/-! ### Texts in order -/

/-- Taking each run of equal texts once makes a list in order strictly increasing. -/
theorem pairwise_foldr_once {sorted : List String} (h : sorted.Pairwise (· ≤ ·)) :
    let once := sorted.foldr
      (fun value rest => if rest.head? == some value then rest else value :: rest) []
    once.Pairwise (· < ·) ∧ ∀ v, v ∈ once ↔ v ∈ sorted := by
  induction sorted with
  | nil => exact ⟨List.Pairwise.nil, fun v => Iff.rfl⟩
  | cons value later ih =>
    obtain ⟨hfirst, hlater⟩ := List.pairwise_cons.1 h
    obtain ⟨hincreasing, hmem⟩ := ih hlater
    rw [List.foldr_cons]
    generalize later.foldr (fun value rest => if rest.head? == some value then rest else
      value :: rest) [] = once at hincreasing hmem
    dsimp only
    split
    · rename_i hhead
      have hvalue : value ∈ later :=
        (hmem value).1 (List.mem_of_mem_head? (Option.mem_def.2 (beq_iff_eq.1 hhead)))
      refine ⟨hincreasing, fun v => (hmem v).trans ?_⟩
      rw [List.mem_cons]
      exact ⟨.inr, fun hv => hv.elim (fun heq => heq ▸ hvalue) id⟩
    · rename_i hhead
      refine ⟨List.pairwise_cons.2 ⟨fun v hv => ?_, hincreasing⟩, fun v => ?_⟩
      · refine lt_of_le_of_ne (hfirst v ((hmem v).1 hv)) ?_
        rintro rfl
        -- The head of the rest is no greater than any member, and not less than the value.
        cases once with
        | nil => cases hv
        | cons head rest =>
          have hle : value ≤ head := hfirst head ((hmem head).1 List.mem_cons_self)
          rcases List.mem_cons.1 hv with rfl | hv
          · exact hhead (beq_self_eq_true _)
          · exact absurd ((List.pairwise_cons.1 hincreasing).1 value hv) (not_lt.2 hle)
      · rw [List.mem_cons, List.mem_cons, hmem v]

theorem sortedTexts_spec (values : List String) :
    (sortedTexts values).Pairwise (· < ·) ∧ ∀ v, v ∈ sortedTexts values ↔ v ∈ values := by
  have hsorted : (values.mergeSort fun a b => !decide (b < a)).Pairwise (· ≤ ·) := by
    refine (List.pairwise_mergeSort ?_ ?_ values).imp fun h => ?_
    · intro a b c hab hbc
      simp only [Bool.not_eq_true', decide_eq_false_iff_not, not_lt] at hab hbc ⊢
      exact hab.trans hbc
    · intro a b
      simp only [Bool.or_eq_true, Bool.not_eq_true', decide_eq_false_iff_not, not_lt]
      exact le_total a b
    · simpa only [Bool.not_eq_true', decide_eq_false_iff_not, not_lt] using h
  obtain ⟨hincreasing, hmem⟩ := pairwise_foldr_once hsorted
  exact ⟨hincreasing, fun v => (hmem v).trans List.mem_mergeSort⟩

/-- A text is among the first ones of an increasing list if few enough come before it. -/
theorem mem_take_iff_of_pairwise {texts : List String} (h : texts.Pairwise (· < ·)) {limit : Nat}
    {v : String} :
    v ∈ texts.take limit ↔ v ∈ texts ∧ (texts.filter (· < v)).length < limit := by
  induction texts generalizing limit with
  | nil => simp
  | cons head rest ih =>
    obtain ⟨hfirst, hrest⟩ := List.pairwise_cons.1 h
    cases limit with
    | zero => simp
    | succ limit =>
      rw [List.take_succ_cons, List.mem_cons, List.mem_cons, ih hrest, List.filter_cons]
      by_cases hv : v = head
      · subst hv
        have hnone : rest.filter (· < v) = [] := by
          rw [List.filter_eq_nil_iff]
          intro other hother
          rw [decide_eq_true_eq, not_lt]
          exact (hfirst other hother).le
        rw [if_neg (by rw [decide_eq_true_eq]; exact lt_irrefl v), hnone]
        exact iff_of_true (.inl rfl) ⟨.inl rfl, Nat.succ_pos limit⟩
      · rw [or_iff_right hv, or_iff_right hv]
        refine and_congr_right fun hmem => ?_
        rw [if_pos (decide_eq_true (hfirst v hmem)), List.length_cons, Nat.add_lt_add_iff_right]

/-! ### The texts of a column -/

/-- The texts that the values of a column are compared by. -/
def textsOf (cells : List Cell) : Finset String :=
  (cells.filterMap Cell.text?).toFinset

/-- How many texts of a column come before a text. -/
def textsBefore (cells : List Cell) (v : String) : Nat :=
  ((textsOf cells).filter (· < v)).card

theorem toFinset_sortedTexts (cells : List Cell) :
    (sortedTexts (cells.filterMap Cell.text?)).toFinset = textsOf cells := by
  ext v
  rw [textsOf, List.mem_toFinset, List.mem_toFinset]
  exact (sortedTexts_spec _).2 v

theorem nodup_sortedTexts (values : List String) : (sortedTexts values).Nodup :=
  (sortedTexts_spec values).1.imp fun h => h.ne

theorem length_filter_sortedTexts (cells : List Cell) (v : String) :
    ((sortedTexts (cells.filterMap Cell.text?)).filter (· < v)).length = textsBefore cells v := by
  rw [textsBefore, ← toFinset_sortedTexts,
    ← List.toFinset_card_of_nodup ((nodup_sortedTexts _).filter _), List.toFinset_filter]
  simp only [decide_eq_true_eq]

theorem textsBefore_lt_card {cells : List Cell} {v : String} (h : v ∈ textsOf cells) :
    textsBefore cells v < (textsOf cells).card :=
  Finset.card_lt_card (Finset.filter_ssubset.2 ⟨v, h, lt_irrefl v⟩)

namespace DataSample

variable {sample : DataSample} {limit : Nat}

theorem compared_eq_take (hlimit : sample.distinctLimit = limit) (cells : List Cell) :
    sample.compared cells = (sortedTexts (cells.filterMap Cell.text?)).take limit := by
  rw [compared, hlimit, if_neg (by omega), Int.toNat_natCast]

/-- The texts that are compared are the first ones in order. -/
theorem mem_compared (hlimit : sample.distinctLimit = limit) {cells : List Cell} {v : String} :
    v ∈ sample.compared cells ↔ v ∈ textsOf cells ∧ textsBefore cells v < limit := by
  rw [compared_eq_take hlimit, mem_take_iff_of_pairwise (sortedTexts_spec _).1,
    length_filter_sortedTexts, ← toFinset_sortedTexts, List.mem_toFinset]

theorem length_compared (hlimit : sample.distinctLimit = limit) (cells : List Cell) :
    (sample.compared cells).length = min limit (textsOf cells).card := by
  rw [compared_eq_take hlimit, List.length_take, ← toFinset_sortedTexts,
    List.toFinset_card_of_nodup (nodup_sortedTexts _)]

theorem nodup_compared (hlimit : sample.distinctLimit = limit) (cells : List Cell) :
    (sample.compared cells).Nodup := by
  rw [compared_eq_take hlimit]
  exact (nodup_sortedTexts _).sublist (List.take_sublist _ _)

/-- The texts of two columns that an overlap with a limit notices. -/
def commonTexts (limit : Nat) (left right : List Cell) : Finset String :=
  (textsOf left ∩ textsOf right).filter fun v =>
    textsBefore left v < limit ∧ textsBefore right v < limit

theorem countP_compared (hlimit : sample.distinctLimit = limit) (left right : List Cell) :
    ((sample.compared left).countP fun text => (sample.compared right).contains text) =
      (commonTexts limit left right).card := by
  rw [List.countP_eq_length_filter,
    ← List.toFinset_card_of_nodup ((nodup_compared hlimit left).filter _)]
  congr 1
  ext v
  rw [List.mem_toFinset, List.mem_filter, List.contains_iff_mem, mem_compared hlimit,
    mem_compared hlimit, commonTexts, Finset.mem_filter, Finset.mem_inter]
  tauto

theorem commonTexts_eq_empty_iff {left right : List Cell} :
    commonTexts limit left right = ∅ ↔ ∀ v ∈ textsOf left, v ∈ textsOf right →
      limit ≤ textsBefore left v ∨ limit ≤ textsBefore right v := by
  rw [commonTexts, Finset.filter_eq_empty_iff]
  refine forall_congr' fun v => ?_
  rw [Finset.mem_inter, and_imp, not_and_or, not_lt, not_lt]

/-- Within the limit all common texts are noticed. -/
theorem commonTexts_of_card_le {left right : List Cell} (hleft : (textsOf left).card ≤ limit)
    (hright : (textsOf right).card ≤ limit) :
    commonTexts limit left right = textsOf left ∩ textsOf right := by
  refine Finset.filter_true_of_mem fun v hv => ?_
  obtain ⟨hone, htwo⟩ := Finset.mem_inter.1 hv
  exact ⟨(textsBefore_lt_card hone).trans_le hleft, (textsBefore_lt_card htwo).trans_le hright⟩

variable {left right : Table} {leftName rightName : String} {leftCells rightCells : List Cell}

theorem overlap_eq_ok (hlimit : sample.distinctLimit = limit)
    (hleft : sample.values left leftName = .ok leftCells)
    (hright : sample.values right rightName = .ok rightCells) :
    sample.overlap left leftName right rightName =
      .ok ⟨min limit (textsOf leftCells).card, min limit (textsOf rightCells).card,
        (commonTexts limit leftCells rightCells).card⟩ := by
  unfold overlap
  rw [hleft, hright]
  dsimp only [bind, Except.bind, pure, Except.pure]
  rw [countP_compared hlimit, length_compared hlimit, length_compared hlimit]

end DataSample

/-! ### Pairs that are rejected -/

section

variable {source : Profiler} {one two : Table} {oneColumn twoColumn : Column}
  {cache : ProfileCache}

theorem ProfileCache.counted_overlaps {α : Type} (cache : ProfileCache) (found : Option α) :
    (cache.counted found).overlaps = cache.overlaps := by
  unfold counted
  split <;> rfl

theorem Profiler.columnCached_overlaps (table : Table) (column : String) :
    ((source.columnCached table column).run.run cache).2.overlaps = cache.overlaps := by
  rw [columnCached_eq, Profiling.remember_run]
  split <;> exact ProfileCache.counted_overlaps cache _

theorem Profiler.overlapCached_of_overlaps_eq_nil (h : cache.overlaps = []) (left : Table)
    (leftColumn : String) (right : Table) (rightColumn : String) :
    ((source.overlapCached left leftColumn right rightColumn).run.run cache).1 =
      source.overlap left leftColumn right rightColumn := by
  have hnone : cache.overlap? (.make left.id leftColumn) (.make right.id rightColumn) = none := by
    rw [ProfileCache.overlap?, h]
    rfl
  rw [overlapCached_eq, Profiling.remember_run, hnone]
  cases source.overlap left leftColumn right rightColumn <;> rfl

/-- The overlap of profiles that nothing was remembered for is the one that the source gives. -/
theorem PairProfile.overlap_of_ask? {profile : PairProfile} (hcache : cache.overlaps = [])
    (h : ((ask? (some source) one oneColumn two twoColumn).run cache).1 = some profile) :
    source.overlap one oneColumn.name two twoColumn.name = .ok profile.overlap := by
  rw [ask?_run] at h
  split at h
  · have hanswer : (ProfileAnswers.ofRequests source one oneColumn two twoColumn cache).overlap =
        source.overlap one oneColumn.name two twoColumn.name := by
      refine Profiler.overlapCached_of_overlaps_eq_nil ?_ _ _ _ _
      rw [Profiler.columnCached_overlaps, Profiler.columnCached_overlaps, hcache]
    rw [← hanswer]
    generalize ProfileAnswers.ofRequests source one oneColumn two twoColumn cache = answers at h ⊢
    obtain ⟨_ | first, _ | second, _ | overlap⟩ := answers <;> cases h
    rfl
  · cases h

/-- A pair is rejected for want of a common value only if its overlap has none. -/
theorem PairInference.overlap_of_noOverlap {naming : NamingEvidence} {differ shared : Bool}
    {profile : Option PairProfile}
    (h : (conclude naming differ shared profile).rejection = some .noOverlap) :
    ∃ found, profile = some found ∧ found.overlap.shared = 0 := by
  cases differ with
  | true => cases h
  | false =>
    cases profile with
    | none => cases h
    | some found =>
      rw [conclude_some, rejection_ofProfile] at h
      refine ⟨found, rfl, ?_⟩
      by_contra hshared
      rw [if_neg hshared] at h
      cases h

theorem inferPair_overlap_of_noOverlap {namingRequired : Bool} {inference : PairInference}
    (hcache : cache.overlaps = [])
    (h : ((inferPair (some source) one oneColumn two twoColumn namingRequired).run cache).1 =
      some inference) (hrejected : inference.rejection = some .noOverlap) :
    ∃ overlap, source.overlap one oneColumn.name two twoColumn.name = .ok overlap ∧
      overlap.shared = 0 := by
  rw [inferPair_run] at h
  rw [eq_conclude_of_inferWith h] at hrejected
  obtain ⟨profile, hasked, hshared⟩ := PairInference.overlap_of_noOverlap hrejected
  exact ⟨profile.overlap, PairProfile.overlap_of_ask? hcache hasked, hshared⟩

end

namespace DataSample

/-- An overlap of two columns counts the common texts that are among the first ones of both. It is
nothing just if on every common text so many others come before in one of the columns that the limit
leaves it out; where neither column has more texts than the limit, just if they have none in common.
The same holds of a pair that is rejected for want of a common value. -/
theorem overlap_eq_zero_iff (sample : DataSample) {limit : Nat}
    (hlimit : sample.distinctLimit = limit) (left : Table) (leftColumn : Column) (right : Table)
    (rightColumn : Column) {leftCells rightCells : List Cell}
    (hleft : sample.values left leftColumn.name = .ok leftCells)
    (hright : sample.values right rightColumn.name = .ok rightCells) :
    ∃ overlap, sample.overlap left leftColumn.name right rightColumn.name = .ok overlap ∧
      (overlap.shared = 0 ↔ ∀ v ∈ textsOf leftCells, v ∈ textsOf rightCells →
        limit ≤ textsBefore leftCells v ∨ limit ≤ textsBefore rightCells v) ∧
      ((textsOf leftCells).card ≤ limit → (textsOf rightCells).card ≤ limit →
        (overlap.shared = 0 ↔ Disjoint (textsOf leftCells) (textsOf rightCells))) ∧
      ∀ namingRequired inference,
        ((inferPair (some sample.profiler) left leftColumn right rightColumn namingRequired).run
          .empty).1 = some inference →
        inference.rejection = some .noOverlap → overlap.shared = 0 := by
  have hoverlap := overlap_eq_ok hlimit hleft hright
  refine ⟨_, hoverlap, ?_, fun hfew hfew' => ?_, fun namingRequired inference h hrejected => ?_⟩
  · rw [Finset.card_eq_zero, commonTexts_eq_empty_iff]
  · rw [Finset.card_eq_zero, commonTexts_of_card_le hfew hfew', Finset.disjoint_iff_inter_eq_empty]
  · obtain ⟨overlap, hasked, hshared⟩ := inferPair_overlap_of_noOverlap rfl h hrejected
    rw [show sample.profiler.overlap left leftColumn.name right rightColumn.name = _ from
      hoverlap] at hasked
    rwa [← Except.ok.inj hasked] at hshared

/-- Three users, and two orders of the last of them. Two values of a column are compared. -/
def lastUserSample : DataSample where
  tables := [⟨"users", ["id"], [[.int 1], [.int 2], [.int 3]]⟩,
    ⟨"orders", ["id", "user_id"], [[.int 1, .int 3], [.int 2, .int 3]]⟩]
  distinctLimit := 2

theorem values_orders : lastUserSample.values ordersTable "user_id" = .ok [.int 3, .int 3] := by
  rfl

theorem values_users : lastUserSample.values usersTable "id" = .ok [.int 1, .int 2, .int 3] := by
  rfl

theorem overlap_eq_zero_iff_users :
    lastUserSample.distinctLimit = (2 : Nat) ∧
      lastUserSample.values ordersTable "user_id" = .ok [.int 3, .int 3] ∧
      lastUserSample.values usersTable "id" = .ok [.int 1, .int 2, .int 3] ∧
      ∃ overlap, lastUserSample.overlap ordersTable "user_id" usersTable "id" = .ok overlap ∧
        overlap.shared = 0 := by
  have hlimit : lastUserSample.distinctLimit = (2 : Nat) := rfl
  obtain ⟨overlap, hoverlap, hzero, -⟩ := overlap_eq_zero_iff lastUserSample hlimit ordersTable
    ⟨"user_id", "int"⟩ usersTable ⟨"id", "int"⟩ values_orders values_users
  have hbefore : ∀ v ∈ textsOf [.int 3, .int 3], v ∈ textsOf [.int 1, .int 2, .int 3] →
      2 ≤ textsBefore [.int 3, .int 3] v ∨ 2 ≤ textsBefore [.int 1, .int 2, .int 3] v := by
    decide +kernel
  exact ⟨hlimit, values_orders, values_users, overlap, hoverlap, hzero.2 hbefore⟩

/-- The last user stands in both columns, but not among the first two users. -/
theorem overlap_zero_not_disjoint :
    ¬ ∀ (sample : DataSample) (left right : Table) (leftName rightName : String)
      (leftCells rightCells : List Cell) (overlap : OverlapProfile),
      1 ≤ sample.distinctLimit → sample.values left leftName = .ok leftCells →
      sample.values right rightName = .ok rightCells →
      sample.overlap left leftName right rightName = .ok overlap → overlap.shared = 0 →
      ∀ v ∈ textsOf leftCells, v ∉ textsOf rightCells := by
  intro h
  have hlimit : lastUserSample.distinctLimit = (2 : Nat) := rfl
  have hshared : (commonTexts 2 [.int 3, .int 3] [.int 1, .int 2, .int 3]).card = 0 := by
    decide +kernel
  exact h lastUserSample ordersTable usersTable "user_id" "id" _ _ _ (by decide) values_orders
    values_users (overlap_eq_ok hlimit values_orders values_users) hshared "3" (by decide +kernel)
    (by decide +kernel)

end DataSample

end SemanticLayer
