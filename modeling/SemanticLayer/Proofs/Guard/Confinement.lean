import SemanticLayer.Proofs.Guard.Names
import SemanticLayer.Proofs.Guard.Rewriting

/-!
Which texts a guard lets through, and what it reports of the others. A name means the tables that
have it among their spellings or, where there is none, those with a spelling of the same letters and
digits; a text goes through if every reference means one table. The tables count as a set: neither
their order nor their repetition matters.
-/

namespace SemanticLayer

open Sql

/-- The names of the references of a kind, each of them once, in the order in which they occur
first. -/
structure Sql.ListsNames (kind : TableReference → Prop) (references : List TableReference)
    (names : List String) : Prop where
  mem : ∀ name, name ∈ names ↔ ∃ r ∈ references, kind r ∧ r.identifier = name
  nodup : names.Nodup
  order : names.Pairwise fun name later =>
    ∃ before r after, references = before ++ r :: after ∧ kind r ∧ r.identifier = name ∧
      ∀ earlier ∈ before, kind earlier → earlier.identifier ≠ later

theorem Sql.listsNames_distinct (kind : TableReference → Prop) [DecidablePred kind]
    (references : List TableReference) :
    ListsNames kind references
      (distinct ((references.filter fun r => kind r).map TableReference.identifier)) where
  mem name := by
    simp only [mem_distinct, List.mem_map, List.mem_filter, decide_eq_true_eq, and_assoc]
  nodup := nodup_distinct _
  order := by
    refine (pairwise_distinct _).imp ?_
    rintro name later ⟨before, after, hvalues, hlater⟩
    obtain ⟨front, back, hfilter, rfl, hback⟩ := List.map_eq_append_iff.1 hvalues
    obtain ⟨r, rest, rfl, hname, -⟩ := List.map_eq_cons_iff.1 hback
    obtain ⟨start, others, rfl, hfront, hothers⟩ := List.filter_eq_append_iff.1 hfilter
    obtain ⟨skipped, tail, rfl, hskipped, hkind, -⟩ := List.filter_eq_cons_iff.1 hothers
    refine ⟨start ++ skipped, r, tail, by simp, by simpa using hkind, hname, ?_⟩
    intro earlier hearlier hwanted heq
    rcases List.mem_append.1 hearlier with hstart | hskip
    · refine hlater (List.mem_map.2 ⟨earlier, ?_, heq⟩)
      rw [← hfront]
      exact List.mem_filter.2 ⟨hstart, by simpa using hwanted⟩
    · exact hskipped earlier hskip (by simpa using hwanted)

theorem Sql.Rewrites.exists_name {named : TableReference → String → Prop} {place : Nat}
    {references : List TableReference} {tokens : List Token} {text : String}
    (h : Rewrites named place references tokens text) : ∀ r ∈ references, ∃ name, named r name := by
  induction h with
  | done place => simp
  | keep _ ih => exact ih
  | replace hname _ _ _ ih => exact List.forall_mem_cons.2 ⟨⟨_, hname⟩, ih⟩

namespace Guard

variable {guard other : Guard} {r : TableReference} {identifier canonical : String}

/-! ### What a name means -/

/-- The name stands for the table: it is one of the table's spellings in its dotted form or, where it
is no spelling of any table, it has the letters and digits of one. -/
def StandsFor (guard : Guard) (identifier canonical : String) : Prop :=
  (∃ entry ∈ guard.tables, entry.canonical = canonical ∧
      normalizeReference identifier ∈ entry.spellings) ∨
    (∀ entry ∈ guard.tables, normalizeReference identifier ∉ entry.spellings) ∧
      ∃ entry ∈ guard.tables, entry.canonical = canonical ∧
        ∃ spelling ∈ entry.spellings,
          relaxReference spelling = relaxReference (normalizeReference identifier) ∧
            relaxReference spelling ≠ ""

/-- The reference can be read, and its name stands for the table. -/
def Means (guard : Guard) (r : TableReference) (canonical : String) : Prop :=
  r.resolvable = true ∧ guard.StandsFor r.identifier canonical

def MeansSeveral (guard : Guard) (r : TableReference) : Prop :=
  ∃ one two, one ≠ two ∧ guard.Means r one ∧ guard.Means r two

def MeansNothing (guard : Guard) (r : TableReference) : Prop :=
  ∀ canonical, ¬ guard.Means r canonical

theorem mem_candidates : canonical ∈ guard.candidates identifier ↔
    guard.StandsFor identifier canonical := by
  have hspelled : (∃ name, name ∈ guard.named (· == normalizeReference identifier)) ↔
      ∃ entry ∈ guard.tables, normalizeReference identifier ∈ entry.spellings := by
    simp only [mem_named, beq_iff_eq, exists_eq_right]
    constructor
    · rintro ⟨name, entry, hentry, -, hspelling⟩
      exact ⟨entry, hentry, hspelling⟩
    · rintro ⟨entry, hentry, hspelling⟩
      exact ⟨entry.canonical, entry, hentry, rfl, hspelling⟩
  unfold candidates StandsFor
  split
  · rename_i hnone
    have hunspelled : ∀ entry ∈ guard.tables,
        normalizeReference identifier ∉ entry.spellings := by
      simpa [hnone] using hspelled
    have hexact : ¬ ∃ entry ∈ guard.tables, entry.canonical = canonical ∧
        normalizeReference identifier ∈ entry.spellings := by
      rintro ⟨entry, hentry, -, hspelling⟩
      exact hunspelled entry hentry hspelling
    -- Candidates are looked up by the letters and digits of the identifier as it is written, which
    -- are those of its dotted form.
    rw [or_iff_right hexact, and_iff_right hunspelled, relaxReference_normalizeReference]
    dsimp only
    split
    · rename_i hempty
      rw [String.isEmpty_iff] at hempty
      rw [hempty]
      simp
    · rename_i hletters
      rw [String.isEmpty_iff] at hletters
      simp only [mem_named, beq_iff_eq]
      constructor
      · rintro ⟨entry, hentry, hcanonical, spelling, hspelling, hsame⟩
        exact ⟨entry, hentry, hcanonical, spelling, hspelling, hsame,
          fun hempty => hletters (hsame.symm.trans hempty)⟩
      · rintro ⟨entry, hentry, hcanonical, spelling, hspelling, hsame, -⟩
        exact ⟨entry, hentry, hcanonical, spelling, hspelling, hsame⟩
  · rename_i hsome
    obtain ⟨entry, hentry, hspelling⟩ := hspelled.1 (List.exists_mem_of_ne_nil _ hsome)
    rw [or_iff_left fun hunspelled => hunspelled.1 entry hentry hspelling]
    simp only [mem_named, beq_iff_eq, exists_eq_right]

theorem nodup_candidates : (guard.candidates identifier).Nodup := by
  unfold candidates
  split
  · dsimp only
    split
    · exact List.nodup_nil
    · exact nodup_distinct _
  · exact nodup_distinct _

/-! ### What a reference means -/

theorem means_iff : guard.Means r canonical ↔
    r.resolvable = true ∧ canonical ∈ guard.candidates r.identifier :=
  and_congr_right fun _ => mem_candidates.symm

theorem resolves_iff : guard.Resolves r canonical ↔
    ∀ name, guard.Means r name ↔ name = canonical := by
  simp only [means_iff, Resolves]
  constructor
  · rintro ⟨hresolvable, hone⟩ name
    simp [hresolvable, hone]
  · intro h
    have hmeans := (h canonical).2 rfl
    refine ⟨hmeans.1, List.perm_singleton.1 ?_⟩
    rw [List.perm_ext_iff_of_nodup nodup_candidates (List.nodup_singleton _)]
    intro name
    rw [List.mem_singleton, ← h name, and_iff_right hmeans.1]

theorem isAmbiguous_iff : guard.IsAmbiguous r ↔ guard.MeansSeveral r := by
  have hnodup : (guard.candidates r.identifier).Nodup := nodup_candidates
  simp only [MeansSeveral, means_iff, IsAmbiguous]
  generalize guard.candidates r.identifier = names at hnodup
  constructor
  · rintro ⟨hresolvable, hlength⟩
    match names, hlength with
    | one :: two :: _, _ =>
      refine ⟨one, two, ?_, ⟨hresolvable, by simp⟩, hresolvable, by simp⟩
      rintro rfl
      simp at hnodup
  · rintro ⟨one, two, hne, ⟨hresolvable, hone⟩, -, htwo⟩
    refine ⟨hresolvable, ?_⟩
    match names with
    | [] => simp at hone
    | [name] =>
      rw [List.mem_singleton] at hone htwo
      exact absurd (hone.trans htwo.symm) hne
    | _ :: _ :: _ => simp

theorem isBlocked_iff : guard.IsBlocked r ↔ guard.MeansNothing r := by
  simp only [MeansNothing, means_iff, IsBlocked, List.eq_nil_iff_forall_not_mem, not_and]
  exact forall_comm

/-! ### The tables as a set -/

theorem judge_of_mem_iff (h : ∀ entry, entry ∈ other.tables ↔ entry ∈ guard.tables)
    (r : TableReference) : other.judge r = guard.judge r := by
  have hmeans : other.Means r = guard.Means r := by
    funext canonical
    simp only [Means, StandsFor, h]
  cases hjudge : guard.judge r with
  | resolved canonical =>
    rwa [judge_eq_resolved, resolves_iff, hmeans, ← resolves_iff, ← judge_eq_resolved]
  | ambiguous =>
    rwa [judge_eq_ambiguous, isAmbiguous_iff, MeansSeveral, hmeans, ← MeansSeveral,
      ← isAmbiguous_iff, ← judge_eq_ambiguous]
  | blocked =>
    rwa [judge_eq_blocked, isBlocked_iff, MeansNothing, hmeans, ← MeansNothing, ← isBlocked_iff,
      ← judge_eq_blocked]

theorem confine_of_mem_iff (h : ∀ entry, entry ∈ other.tables ↔ entry ∈ guard.tables)
    (sql : String) : other.confine sql = guard.confine sql := by
  unfold confine confineTokens identifiersWith replacements
  simp only [judge_of_mem_iff h]

/-! ### Texts -/

theorem listsNames_identifiersWith {verdict : Verdict} {kind : TableReference → Prop}
    (h : ∀ r, guard.judge r = verdict ↔ kind r) (references : List TableReference) :
    ListsNames kind references (guard.identifiersWith verdict references) := by
  obtain rfl : (fun r => guard.judge r = verdict) = kind := funext fun r => propext (h r)
  exact listsNames_distinct _ references

/-- A text goes through if and only if each of its references means one table. -/
theorem confine_isOk_iff {sql : String} : (∃ text, guard.confine sql = .ok text) ↔
    ∀ r ∈ tableReferences (tokenize sql), ∃! canonical, guard.Means r canonical := by
  constructor
  · rintro ⟨text, htext⟩ r hr
    obtain ⟨canonical, hresolves⟩ := (confineTokens_eq_ok htext).exists_name r hr
    have hmeans := resolves_iff.1 hresolves
    exact ⟨canonical, (hmeans canonical).2 rfl, fun name hname => (hmeans name).1 hname⟩
  · intro hunique
    cases hconfine : guard.confine sql with
    | ok text => exact ⟨text, rfl⟩
    | error report =>
      rcases confineTokens_eq_error hconfine with
        ⟨⟨r, hr, hambiguous⟩, -⟩ | ⟨-, ⟨r, hr, hblocked⟩, -⟩
      · obtain ⟨one, two, hne, hone, htwo⟩ := isAmbiguous_iff.1 hambiguous
        exact absurd ((hunique r hr).unique hone htwo) hne
      · obtain ⟨canonical, hmeans⟩ := (hunique r hr).exists
        exact absurd hmeans (isBlocked_iff.1 hblocked canonical)

/-- A guard lets a text through if and only if each of its references means one table, and puts in
the canonical names of these tables. Otherwise it reports the references that mean several tables
or, if there are none, those that mean none, by their names. The order and the repetition of its
tables make no difference. -/
theorem confine_verdict (guard : Guard) (sql : String) :
    ((∃ text, guard.confine sql = .ok text) ↔
        ∀ r ∈ tableReferences (tokenize sql), ∃! canonical, guard.Means r canonical) ∧
      (∀ text, guard.confine sql = .ok text →
        Rewrites guard.Means 0 (tableReferences (tokenize sql)) (tokenize sql) text) ∧
      (∀ report, guard.confine sql = .error report →
        (∃ r ∈ tableReferences (tokenize sql), guard.MeansSeveral r) ∧
            (∃ names, report = .ambiguous names ∧
              ListsNames guard.MeansSeveral (tableReferences (tokenize sql)) names) ∨
          (∀ r ∈ tableReferences (tokenize sql), ¬ guard.MeansSeveral r) ∧
            ∃ names, report = .blocked names ∧
              ListsNames guard.MeansNothing (tableReferences (tokenize sql)) names) ∧
      ∀ other : Guard, (∀ entry, entry ∈ other.tables ↔ entry ∈ guard.tables) →
        other.confine sql = guard.confine sql := by
  refine ⟨confine_isOk_iff, ?_, ?_, fun other h => confine_of_mem_iff h sql⟩
  · intro text htext
    refine (confineTokens_eq_ok htext).mono fun r _ canonical hresolves => ?_
    exact (resolves_iff.1 hresolves canonical).2 rfl
  · intro report hreport
    rcases confineTokens_eq_error hreport with
      ⟨⟨r, hr, hambiguous⟩, rfl⟩ | ⟨hnone, -, rfl⟩
    · exact .inl ⟨⟨r, hr, isAmbiguous_iff.1 hambiguous⟩, _, rfl, listsNames_identifiersWith
        (fun r => judge_eq_ambiguous.trans isAmbiguous_iff) _⟩
    · refine .inr ⟨fun r hr hseveral => hnone r hr (isAmbiguous_iff.2 hseveral), _, rfl, ?_⟩
      exact listsNames_identifiersWith (fun r => judge_eq_blocked.trans isBlocked_iff) _

def ordersTwice : Guard :=
  ⟨[⟨"public.orders", none, some "public", some "orders", []⟩,
    ⟨"archive.orders", none, some "archive", some "orders", []⟩]⟩

def ordersThrice : Guard :=
  ⟨ordersTwice.tables.reverse ++ ordersTwice.tables.take 1⟩

theorem confine_verdict_ordersTwice :
    ordersTwice.confine "FROM Public_Orders" = .ok "FROM public.orders" ∧
      ordersThrice.confine "FROM Public_Orders" = .ok "FROM public.orders" ∧
      (∀ r ∈ tableReferences (tokenize "FROM Public_Orders"),
        ∃! canonical, ordersTwice.Means r canonical) ∧
      ordersTwice.confine "FROM a, orders" = .error (.ambiguous ["orders"]) ∧
      (∃ r ∈ tableReferences (tokenize "FROM a, orders"), ordersTwice.MeansSeveral r) ∧
      ordersTwice.confine "FROM a, b, a" = .error (.blocked ["a", "b"]) ∧
      ListsNames ordersTwice.MeansNothing (tableReferences (tokenize "FROM a, b, a"))
        ["a", "b"] := by
  have hok : ordersTwice.confine "FROM Public_Orders" = .ok "FROM public.orders" := by
    decide +kernel
  have hambiguous : ordersTwice.confine "FROM a, orders" = .error (.ambiguous ["orders"]) := by
    decide +kernel
  have hblocked : ordersTwice.confine "FROM a, b, a" = .error (.blocked ["a", "b"]) := by
    decide +kernel
  have hsame : ∀ entry, entry ∈ ordersThrice.tables ↔ entry ∈ ordersTwice.tables := by
    intro entry
    simp only [ordersThrice, List.mem_append, List.mem_reverse]
    exact or_iff_left_of_imp List.mem_of_mem_take
  obtain ⟨hunique, -, -, hset⟩ := confine_verdict ordersTwice "FROM Public_Orders"
  obtain ⟨-, -, hseveral, -⟩ := confine_verdict ordersTwice "FROM a, orders"
  obtain ⟨-, -, hnothing, -⟩ := confine_verdict ordersTwice "FROM a, b, a"
  refine ⟨hok, (hset _ hsame).trans hok, hunique.1 ⟨_, hok⟩, hambiguous, ?_, hblocked, ?_⟩
  · rcases hseveral _ hambiguous with ⟨hsome, -⟩ | ⟨-, names, hreport, -⟩
    · exact hsome
    · cases congrArg Report.kind hreport
  · rcases hnothing _ hblocked with ⟨-, names, hreport, -⟩ | ⟨-, names, hreport, hlists⟩
    · cases congrArg Report.kind hreport
    · rwa [← Option.some.inj (congrArg Report.identifiers hreport)] at hlists

end Guard

end SemanticLayer
