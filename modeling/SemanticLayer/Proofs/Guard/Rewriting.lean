import SemanticLayer.Proofs.Distinct
import SemanticLayer.Proofs.Sql.Span

/-!
What a guard does to a text. A text that it lets through is the same text with each reference
replaced by the one name that it stands for; a text that it refuses has a reference that stands for
no name or for more than one.
-/

namespace SemanticLayer

open Sql

/-- A text is that of the tokens from a place on, except that a name stands in place of the tokens
of each reference. -/
inductive Sql.Rewrites (named : TableReference → String → Prop) :
    Nat → List TableReference → List Token → String → Prop
  | done (place : Nat) : Rewrites named place [] [] ""
  | keep {place : Nat} {references : List TableReference} {token : Token} {rest : List Token}
      {text : String} (later : Rewrites named (place + 1) references rest text) :
      Rewrites named place references (token :: rest) (token.text ++ text)
  | replace {r : TableReference} {references : List TableReference} {tokens : List Token}
      {name text : String} (name_fits : named r name) (size : r.start < r.stop)
      (length : r.stop ≤ r.start + tokens.length)
      (later : Rewrites named r.stop references (tokens.drop (r.stop - r.start)) text) :
      Rewrites named r.start (r :: references) tokens (name ++ text)

theorem Sql.Rewrites.mono {named other : TableReference → String → Prop} {place : Nat}
    {references : List TableReference} {tokens : List Token} {text : String}
    (h : Rewrites named place references tokens text)
    (hnamed : ∀ r ∈ references, ∀ name, named r name → other r name) :
    Rewrites other place references tokens text := by
  induction h with
  | done place => exact .done place
  | keep _ ih => exact .keep (ih hnamed)
  | replace hname size length _ ih =>
    exact .replace (hnamed _ List.mem_cons_self _ hname) size length
      (ih fun r hr => hnamed r (List.mem_cons_of_mem _ hr))

namespace Guard

/-! ### Verdicts -/

variable {guard : Guard} {r : TableReference} {canonical : String}

/-- The reference stands for one name only. -/
def Resolves (guard : Guard) (r : TableReference) (canonical : String) : Prop :=
  r.resolvable = true ∧ guard.candidates r.identifier = [canonical]

/-- The reference stands for several names. -/
def IsAmbiguous (guard : Guard) (r : TableReference) : Prop :=
  r.resolvable = true ∧ 2 ≤ (guard.candidates r.identifier).length

/-- The reference stands for no name. -/
def IsBlocked (guard : Guard) (r : TableReference) : Prop :=
  r.resolvable = true → guard.candidates r.identifier = []

theorem judge_eq_resolved : guard.judge r = .resolved canonical ↔ guard.Resolves r canonical := by
  unfold judge Resolves
  cases r.resolvable with
  | false => simp
  | true =>
    match guard.candidates r.identifier with
    | [] => simp
    | [name] => simp
    | _ :: _ :: _ => simp

theorem judge_eq_ambiguous : guard.judge r = .ambiguous ↔ guard.IsAmbiguous r := by
  unfold judge IsAmbiguous
  cases r.resolvable with
  | false => simp
  | true =>
    match guard.candidates r.identifier with
    | [] => simp
    | [name] => simp
    | _ :: _ :: _ => simp

theorem judge_eq_blocked : guard.judge r = .blocked ↔ guard.IsBlocked r := by
  unfold judge IsBlocked
  cases r.resolvable with
  | false => simp
  | true =>
    match guard.candidates r.identifier with
    | [] => simp
    | [name] => simp
    | _ :: _ :: _ => simp

theorem mem_identifiersWith {verdict : Verdict} {references : List TableReference}
    {identifier : String} : identifier ∈ guard.identifiersWith verdict references ↔
      ∃ r ∈ references, guard.judge r = verdict ∧ r.identifier = identifier := by
  simp [identifiersWith, and_assoc]

theorem identifiersWith_eq_nil {verdict : Verdict} {references : List TableReference}
    (h : guard.identifiersWith verdict references = []) :
    ∀ r ∈ references, guard.judge r ≠ verdict := by
  intro r hr hverdict
  have hmem : r.identifier ∈ guard.identifiersWith verdict references :=
    mem_identifiersWith.2 ⟨r, hr, hverdict, rfl⟩
  simp [h] at hmem

/-- Where every reference stands for one name, every reference is replaced. -/
theorem map_fst_replacements {references : List TableReference}
    (h : ∀ r ∈ references, ∃ canonical, guard.judge r = .resolved canonical) :
    (guard.replacements references).map Prod.fst = references := by
  induction references with
  | nil => rfl
  | cons r rest ih =>
    obtain ⟨canonical, hcanonical⟩ := h r (by simp)
    have hrest := ih fun other hother => h other (by simp [hother])
    unfold replacements at hrest ⊢
    rw [List.filterMap_cons_some (by rw [hcanonical]), List.map_cons, hrest]

theorem resolves_of_mem_replacements {references : List TableReference}
    (h : (r, canonical) ∈ guard.replacements references) : guard.Resolves r canonical := by
  obtain ⟨other, -, heq⟩ := List.mem_filterMap.1 h
  rw [← judge_eq_resolved]
  split at heq
  · rename_i hjudge
    cases heq
    exact hjudge
  · cases heq

theorem mem_named {fits : String → Bool} : canonical ∈ guard.named fits ↔
    ∃ entry ∈ guard.tables, entry.canonical = canonical ∧
      ∃ spelling ∈ entry.spellings, fits spelling = true := by
  simp only [named, mem_distinct, List.mem_map, List.mem_filter, List.any_eq_true]
  constructor
  · rintro ⟨entry, ⟨hentry, hfits⟩, hcanonical⟩
    exact ⟨entry, hentry, hcanonical, hfits⟩
  · rintro ⟨entry, hentry, hcanonical, hfits⟩
    exact ⟨entry, ⟨hentry, hfits⟩, hcanonical⟩

/-- A name that a reference stands for is that of a table of the guard. -/
theorem Resolves.exists_table (h : guard.Resolves r canonical) :
    ∃ entry ∈ guard.tables, entry.canonical = canonical := by
  have htable {fits : String → Bool} (hnamed : canonical ∈ guard.named fits) :
      ∃ entry ∈ guard.tables, entry.canonical = canonical := by
    obtain ⟨entry, hentry, hcanonical, -⟩ := mem_named.1 hnamed
    exact ⟨entry, hentry, hcanonical⟩
  have hmem : canonical ∈ guard.candidates r.identifier := by simp [h.2]
  unfold candidates at hmem
  split at hmem
  · dsimp only at hmem
    split at hmem
    · cases hmem
    · exact htable hmem
  · exact htable hmem

/-! ### Replacing -/

theorem replaceFrom_skip (replacements : List (TableReference × String)) (place skip : Nat)
    (tokens : List Token) :
    replaceFrom replacements place skip tokens =
      replaceFrom replacements (place + skip) 0 (tokens.drop skip) := by
  induction skip generalizing place tokens with
  | zero => rfl
  | succ skip ih =>
    cases tokens with
    | nil => simp [replaceFrom]
    | cons token rest =>
      rw [replaceFrom, ih, List.drop_succ_cons, Nat.add_right_comm]
      rfl

/-- What is left to replace from a place on: the names fit, the references are in order, and they are
those that a search by place still finds. -/
structure Awaits (named : TableReference → String → Prop)
    (replacements : List (TableReference × String)) (bound place : Nat)
    (pairs : List (TableReference × String)) : Prop where
  named : ∀ pair ∈ pairs, named pair.1 pair.2
  order : InOrder bound place (pairs.map Prod.fst)
  found : ∀ later, place ≤ later →
    replacements.find? (·.1.start == later) = pairs.find? (·.1.start == later)

section Awaits

variable {named : TableReference → String → Prop}
  {replacements pairs others : List (TableReference × String)} {pair : TableReference × String}
  {bound place : Nat}

/-- A reference that starts at the place is found there, and the others come after it. -/
theorem Awaits.next (h : Awaits named replacements bound pair.1.start (pair :: others)) :
    replacements.find? (·.1.start == pair.1.start) = some pair ∧ pair.1.start < pair.1.stop ∧
      pair.1.stop ≤ bound ∧ Awaits named replacements bound pair.1.stop others := by
  have horder := h.order
  rw [List.map_cons] at horder
  cases horder with
  | cons start size stop later =>
    have hfound : replacements.find? (·.1.start == pair.1.start) = some pair := by
      rw [h.found _ (Nat.le_refl _)]
      exact List.find?_cons_of_pos (by simp)
    refine ⟨hfound, size, stop, fun other hother => h.named other (by simp [hother]), later, ?_⟩
    intro place hplace
    rw [h.found place (by omega), List.find?_cons_of_neg]
    simp only [beq_iff_eq]
    omega

/-- Where no reference starts, none is found. -/
theorem Awaits.skip (h : Awaits named replacements bound place pairs)
    (hnext : ∀ pair others, pairs = pair :: others → pair.1.start ≠ place) :
    replacements.find? (·.1.start == place) = none ∧
      Awaits named replacements bound (place + 1) pairs := by
  have hlater : InOrder bound (place + 1) (pairs.map Prod.fst) := by
    have horder := h.order
    cases pairs with
    | nil => exact .nil _
    | cons pair others =>
      have hne := hnext pair others rfl
      rw [List.map_cons] at horder ⊢
      cases horder with
      | cons start size stop later => exact .cons (by omega) size stop later
  refine ⟨?_, h.named, hlater, fun later hle => h.found later (by omega)⟩
  rw [h.found place (Nat.le_refl _), List.find?_eq_none]
  intro pair hpair
  have hle := hlater.le_start pair.1 (List.mem_map_of_mem hpair)
  simp only [beq_iff_eq]
  omega

/-- A reference that is found is replaced, and its tokens are left out. -/
theorem replaceFrom_of_found {token : Token} {rest : List Token}
    (hfound : replacements.find? (·.1.start == pair.1.start) = some pair)
    (hsize : pair.1.start < pair.1.stop) :
    replaceFrom replacements pair.1.start 0 (token :: rest) =
      pair.2 :: replaceFrom replacements pair.1.stop 0
        ((token :: rest).drop (pair.1.stop - pair.1.start)) := by
  have hplace : pair.1.start + 1 + (pair.1.stop - pair.1.start - 1) = pair.1.stop := by
    omega
  have hcount : pair.1.stop - pair.1.start = pair.1.stop - pair.1.start - 1 + 1 := by
    omega
  rw [replaceFrom, hfound]
  dsimp only
  rw [replaceFrom_skip, hplace, hcount, List.drop_succ_cons, Nat.add_sub_cancel]

end Awaits

/-- References that are in order are replaced one after the other. -/
theorem replaceFrom_rewrites {named : TableReference → String → Prop}
    {replacements pairs : List (TableReference × String)} {bound place : Nat}
    (tokens : List Token) (h : Awaits named replacements bound place pairs)
    (hbound : place + tokens.length = bound) :
    Rewrites named place (pairs.map Prod.fst) tokens
      (String.join (replaceFrom replacements place 0 tokens)) := by
  cases tokens with
  | nil =>
    cases pairs with
    | nil => exact .done place
    | cons pair others =>
      cases h.order with
      | cons start size stop later =>
        rw [List.length_nil] at hbound
        omega
  | cons token rest =>
    by_cases hhere : ∃ pair others, pairs = pair :: others ∧ pair.1.start = place
    · obtain ⟨pair, others, rfl, rfl⟩ := hhere
      obtain ⟨hfound, hsize, hstop, hothers⟩ := h.next
      have hlength : pair.1.stop + ((token :: rest).drop (pair.1.stop - pair.1.start)).length =
          bound := by
        rw [List.length_drop]
        omega
      rw [replaceFrom_of_found hfound hsize, String.join_cons]
      exact .replace (h.named pair List.mem_cons_self) hsize (by omega)
        (replaceFrom_rewrites _ hothers hlength)
    · obtain ⟨hnone, hlater⟩ := h.skip fun pair others heq hstart =>
        hhere ⟨pair, others, heq, hstart⟩
      rw [List.length_cons] at hbound
      rw [replaceFrom, hnone]
      dsimp only
      rw [String.join_cons]
      exact .keep (replaceFrom_rewrites rest hlater (by omega))
  termination_by tokens.length
  decreasing_by
    · subst_vars
      simp only [List.length_drop, List.length_cons]
      omega
    · subst_vars
      simp only [List.length_cons]
      omega

/-! ### Texts -/

/-- A text that is let through has every reference replaced by the one name that it stands for, and
nothing else. -/
theorem confineTokens_eq_ok {tokens : List Token} {text : String}
    (h : guard.confineTokens tokens = .ok text) :
    Rewrites guard.Resolves 0 (tableReferences tokens) tokens text := by
  unfold confineTokens at h
  dsimp only at h
  split at h
  · rename_i hambiguous hblocked
    obtain rfl := Except.ok.inj h
    have hresolved : ∀ r ∈ tableReferences tokens,
        ∃ canonical, guard.judge r = .resolved canonical := by
      intro r hr
      cases hjudge : guard.judge r with
      | resolved canonical => exact ⟨canonical, rfl⟩
      | ambiguous => exact absurd hjudge (identifiersWith_eq_nil hambiguous r hr)
      | blocked => exact absurd hjudge (identifiersWith_eq_nil hblocked r hr)
    have hmap := map_fst_replacements hresolved
    have hawaits : Awaits guard.Resolves (guard.replacements (tableReferences tokens))
        tokens.length 0 (guard.replacements (tableReferences tokens)) :=
      { named := fun _ hpair => resolves_of_mem_replacements hpair
        order := hmap.symm ▸ tableReferences_inOrder tokens
        found := fun _ _ => rfl }
    have hrewrites := replaceFrom_rewrites tokens hawaits (Nat.zero_add _)
    rwa [hmap] at hrewrites
  · cases h
  · cases h

/-- A text is refused because of the references that stand for several names or, if there are none,
because of those that stand for none. -/
theorem confineTokens_eq_error {tokens : List Token} {report : Report}
    (h : guard.confineTokens tokens = .error report) :
    (∃ r ∈ tableReferences tokens, guard.IsAmbiguous r) ∧
        report = .ambiguous (guard.identifiersWith .ambiguous (tableReferences tokens)) ∨
      (∀ r ∈ tableReferences tokens, ¬ guard.IsAmbiguous r) ∧
        (∃ r ∈ tableReferences tokens, guard.IsBlocked r) ∧
        report = .blocked (guard.identifiersWith .blocked (tableReferences tokens)) := by
  have hexists {verdict : Verdict}
      (hnonempty : guard.identifiersWith verdict (tableReferences tokens) ≠ []) :
      ∃ r ∈ tableReferences tokens, guard.judge r = verdict := by
    obtain ⟨identifier, hmem⟩ := List.exists_mem_of_ne_nil _ hnonempty
    obtain ⟨r, hr, hjudge, -⟩ := mem_identifiersWith.1 hmem
    exact ⟨r, hr, hjudge⟩
  unfold confineTokens at h
  dsimp only at h
  split at h
  · cases h
  · rename_i hambiguous hblocked
    refine .inr ⟨?_, ?_, (Except.error.inj h).symm⟩
    · intro r hr
      rw [← judge_eq_ambiguous]
      exact identifiersWith_eq_nil hambiguous r hr
    · obtain ⟨r, hr, hjudge⟩ := hexists hblocked
      exact ⟨r, hr, judge_eq_blocked.1 hjudge⟩
  · rename_i hambiguous _
    refine .inl ⟨?_, (Except.error.inj h).symm⟩
    obtain ⟨r, hr, hjudge⟩ := hexists fun hnil => hambiguous hnil
    exact ⟨r, hr, judge_eq_ambiguous.1 hjudge⟩

end Guard

/-- The tables that a text may name are tables with a name in their engine, under this name. -/
theorem ScopedTable.mem_ofTables {tables : List Table} {entry : ScopedTable}
    (h : entry ∈ ofTables tables) :
    ∃ table ∈ tables, table.runtimeRef = some entry.canonical := by
  obtain ⟨table, hmem, rfl⟩ := List.mem_map.1 h
  obtain ⟨htable, hpresent⟩ := List.mem_filter.1 hmem
  have hcanonical : (ofTable table).canonical = table.runtimeRef.getD "" := by
    unfold ofTable
    dsimp only
    split <;> rfl
  refine ⟨table, htable, ?_⟩
  cases href : table.runtimeRef with
  | none => simp [href, presentText] at hpresent
  | some name => rw [hcanonical, href, Option.getD_some]

end SemanticLayer
