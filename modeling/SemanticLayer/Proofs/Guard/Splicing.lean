import SemanticLayer.Proofs.Guard.Rewriting

/-!
The text that a guard lets through, token by token. The tokens of a reference give way to its one
name, and every other token is written as it is, once and in its place. The references cover tokens
of their own: no token belongs to two of them.
-/

namespace SemanticLayer

open Sql

namespace Sql

/-- The reference that the token of a place belongs to. -/
def referenceAt? (references : List TableReference) (place : Nat) : Option TableReference :=
  references.find? fun r => r.start ≤ place && place < r.stop

/-- What is written for the token of a place: the token itself or, within a reference, the name of
the reference for its first token and nothing for the others. -/
def writtenAt (references : List TableReference) (nameOf : TableReference → String) (place : Nat)
    (token : Token) : String :=
  match referenceAt? references place with
  | none => token.text
  | some r => if place = r.start then nameOf r else ""

/-- What is written for tokens, of which the first has the given place. -/
def writtenFrom (references : List TableReference) (nameOf : TableReference → String)
    (place : Nat) (tokens : List Token) : String :=
  String.join (tokens.mapIdx fun index token =>
    writtenAt references nameOf (place + index) token)

variable {references : List TableReference} {nameOf : TableReference → String} {r : TableReference}
  {place : Nat}

theorem referenceAt?_eq_none (h : ∀ r ∈ references, place < r.start) :
    referenceAt? references place = none := by
  rw [referenceAt?, List.find?_eq_none]
  intro r hr
  have hlater := h r hr
  simp only [Bool.and_eq_true, decide_eq_true_eq]
  omega

theorem referenceAt?_cons_of_mem (hstart : r.start ≤ place) (hstop : place < r.stop) :
    referenceAt? (r :: references) place = some r :=
  List.find?_cons_of_pos (by simp [hstart, hstop])

theorem referenceAt?_cons_of_le (hstop : r.stop ≤ place) :
    referenceAt? (r :: references) place = referenceAt? references place :=
  List.find?_cons_of_neg (by simp [hstop])

@[simp]
theorem writtenFrom_nil : writtenFrom references nameOf place [] = "" := rfl

theorem writtenFrom_cons (token : Token) (rest : List Token) :
    writtenFrom references nameOf place (token :: rest) =
      writtenAt references nameOf place token ++
        writtenFrom references nameOf (place + 1) rest := by
  simp only [writtenFrom, List.mapIdx_cons, String.join_cons, Nat.add_zero]
  congr 4
  funext index token
  rw [Nat.add_right_comm, Nat.add_assoc]

theorem writtenFrom_zero (tokens : List Token) : writtenFrom references nameOf 0 tokens =
    String.join (tokens.mapIdx (writtenAt references nameOf)) := by
  simp only [writtenFrom, Nat.zero_add]

/-- A reference that lies before all of the tokens does not show in them. -/
theorem writtenFrom_cons_of_le (hstop : r.stop ≤ place) (tokens : List Token) :
    writtenFrom (r :: references) nameOf place tokens =
      writtenFrom references nameOf place tokens := by
  induction tokens generalizing place with
  | nil => rfl
  | cons token rest ih =>
    rw [writtenFrom_cons, writtenFrom_cons, ih (by omega), writtenAt, writtenAt,
      referenceAt?_cons_of_le hstop]

/-- Nothing is written for the tokens of a reference after its first one. -/
theorem writtenFrom_within (hstart : r.start < place) (hstop : place ≤ r.stop)
    (tokens : List Token) :
    writtenFrom (r :: references) nameOf place tokens =
      writtenFrom (r :: references) nameOf r.stop (tokens.drop (r.stop - place)) := by
  induction tokens generalizing place with
  | nil => simp
  | cons token rest ih =>
    rcases Nat.eq_or_lt_of_le hstop with rfl | hinside
    · rw [Nat.sub_self, List.drop_zero]
    · have hcount : r.stop - place = r.stop - (place + 1) + 1 := by omega
      rw [writtenFrom_cons, ih (by omega) hinside, hcount, List.drop_succ_cons, writtenAt,
        referenceAt?_cons_of_mem (Nat.le_of_lt hstart) hinside]
      dsimp only
      rw [if_neg (by omega), String.empty_append]

/-- A whole reference is written as its name. -/
theorem writtenFrom_reference (hsize : r.start < r.stop) {tokens : List Token}
    (hne : tokens ≠ []) :
    writtenFrom (r :: references) nameOf r.start tokens =
      nameOf r ++ writtenFrom references nameOf r.stop (tokens.drop (r.stop - r.start)) := by
  obtain ⟨token, rest, rfl⟩ := List.exists_cons_of_ne_nil hne
  have hcount : r.stop - r.start = r.stop - (r.start + 1) + 1 := by omega
  rw [writtenFrom_cons, writtenFrom_within (Nat.lt_succ_self _) hsize, hcount,
    List.drop_succ_cons, writtenFrom_cons_of_le (Nat.le_refl _), writtenAt,
    referenceAt?_cons_of_mem (Nat.le_refl _) hsize]
  dsimp only
  rw [if_pos rfl]

/-- Without references, all tokens are written as they are. -/
theorem writtenFrom_no_references (tokens : List Token) :
    writtenFrom [] nameOf place tokens = Token.textOf tokens := by
  induction tokens generalizing place with
  | nil => rfl
  | cons token rest ih =>
    rw [writtenFrom_cons, ih, Token.textOf, Token.textOf, List.map_cons, String.join_cons]
    rfl

namespace Rewrites

variable {named : TableReference → String → Prop} {tokens : List Token} {text : String}

/-- No reference begins before the place that is rewritten from. -/
theorem le_start (h : Rewrites named place references tokens text) :
    ∀ r ∈ references, place ≤ r.start := by
  induction h with
  | done => simp
  | keep _ ih =>
    intro r hr
    exact Nat.le_of_succ_le (ih r hr)
  | replace _ size _ _ ih =>
    intro other hother
    rcases List.mem_cons.1 hother with rfl | hother
    · exact Nat.le_refl _
    · exact (Nat.le_of_lt size).trans (ih other hother)

/-- Where each reference has one name, rewriting writes the tokens one by one. -/
theorem eq_writtenFrom
    (h : Rewrites (fun r name => name = nameOf r) place references tokens text) :
    text = writtenFrom references nameOf place tokens := by
  induction h with
  | done => rfl
  | keep later ih =>
    rw [writtenFrom_cons, ih, writtenAt, referenceAt?_eq_none later.le_start]
  | @replace r _ tokens _ _ name_eq size length later ih =>
    have hne : tokens ≠ [] := List.ne_nil_of_length_pos (by omega)
    rw [writtenFrom_reference size hne, name_eq, ih]

end Rewrites

end Sql

namespace Guard

variable {guard : Guard} {tokens : List Token} {text : String}

/-- The canonical name that a reference gives way to. -/
def canonicalOf (guard : Guard) (r : TableReference) : String :=
  (guard.candidates r.identifier).headD ""

theorem Resolves.eq_canonicalOf {r : TableReference} {canonical : String}
    (h : guard.Resolves r canonical) : canonical = guard.canonicalOf r := by
  rw [canonicalOf, h.2, List.headD_cons]

/-- What a text is, beside the tokens that it is made from, if nothing but the references was
changed. -/
structure Splices (guard : Guard) (tokens : List Token) (text : String) : Prop where
  size : ∀ r ∈ tableReferences tokens, r.start < r.stop ∧ r.stop ≤ tokens.length
  order : (tableReferences tokens).Pairwise fun r later => r.stop ≤ later.start
  /-- The name of a reference is the only one that it may stand for, and a table has it. -/
  resolved : ∀ r ∈ tableReferences tokens,
    guard.Resolves r (guard.canonicalOf r) ∧
      ∃ entry ∈ guard.tables, entry.canonical = guard.canonicalOf r
  written : text =
    String.join (tokens.mapIdx (writtenAt (tableReferences tokens) guard.canonicalOf))

end Guard

theorem Sql.InOrder.spans {bound place : Nat} {references : List TableReference}
    (h : InOrder bound place references) :
    (∀ r ∈ references, r.start < r.stop ∧ r.stop ≤ bound) ∧
      references.Pairwise fun r later => r.stop ≤ later.start := by
  induction h with
  | nil => exact ⟨by simp, .nil⟩
  | cons _ size stop later ih =>
    exact ⟨List.forall_mem_cons.2 ⟨⟨size, stop⟩, ih.1⟩, .cons later.le_start ih.2⟩

theorem Sql.Rewrites.named_of_mem {named : TableReference → String → Prop} {place : Nat}
    {references : List TableReference} {tokens : List Token} {text : String}
    (h : Rewrites named place references tokens text) :
    ∀ r ∈ references, ∃ name, named r name := by
  induction h with
  | done => simp
  | keep _ ih => exact ih
  | replace name_fits _ _ _ ih => exact List.forall_mem_cons.2 ⟨⟨_, name_fits⟩, ih⟩

namespace Guard

variable {guard : Guard} {tokens : List Token} {text : String}

theorem splices_of_confineTokens (h : guard.confineTokens tokens = .ok text) :
    guard.Splices tokens text := by
  have hrewrites := confineTokens_eq_ok h
  obtain ⟨hsize, horder⟩ := (tableReferences_inOrder tokens).spans
  have hwritten := (hrewrites.mono fun _ _ _ hname => hname.eq_canonicalOf).eq_writtenFrom
  refine ⟨hsize, horder, fun r hr => ?_, ?_⟩
  · obtain ⟨name, hname⟩ := hrewrites.named_of_mem r hr
    obtain rfl := hname.eq_canonicalOf
    exact ⟨hname, hname.exists_table⟩
  · rw [hwritten, writtenFrom_zero]

/-- Tokens without references are let through as they are. -/
theorem confineTokens_of_no_references (h : tableReferences tokens = []) :
    guard.confineTokens tokens = .ok (Token.textOf tokens) := by
  have hok : guard.confineTokens tokens = .ok (String.join (replaceFrom [] 0 0 tokens)) := by
    unfold confineTokens
    rw [h]
    rfl
  have hwritten := (splices_of_confineTokens hok).written
  rw [h, ← writtenFrom_zero, writtenFrom_no_references] at hwritten
  rw [hok, hwritten]

/-- Nothing but the references of a text is changed: they cover tokens of their own, each of them
gives way to the one name that it stands for, and every other token stays as it is, once and in
order. A text without references is let through unchanged. -/
theorem confine_splices (guard : Guard) :
    (∀ tokens text, guard.confineTokens tokens = .ok text → guard.Splices tokens text) ∧
      ∀ sql, tableReferences (tokenize sql) = [] → guard.confine sql = .ok sql := by
  refine ⟨fun tokens text => splices_of_confineTokens, fun sql h => ?_⟩
  rw [confine, confineTokens_of_no_references h, textOf_tokenize]

def shopTables : Guard :=
  ⟨[⟨"\x60acme.shop.orders\x60", some "acme", some "shop", some "orders", []⟩,
    ⟨"\x60acme.shop.people\x60", some "acme", some "shop", some "people", []⟩]⟩

/-- Two references with aliases and a comment between them; the second name has three tokens. -/
theorem confine_splices_comment :
    let sql := "SELECT o.id FROM orders o -- new\nJOIN shop.people AS p ON p.id = o.person"
    let spliced := "SELECT o.id FROM \x60acme.shop.orders\x60 o -- new\n" ++
      "JOIN \x60acme.shop.people\x60 AS p ON p.id = o.person"
    shopTables.confineTokens (tokenize sql) = .ok spliced ∧
      shopTables.Splices (tokenize sql) spliced ∧
      tableReferences (tokenize "SELECT 1 -- none") = [] ∧
      shopTables.confine "SELECT 1 -- none" = .ok "SELECT 1 -- none" := by
  intro sql spliced
  have h : shopTables.confineTokens (tokenize sql) = .ok spliced := by decide +kernel
  have hnone : tableReferences (tokenize "SELECT 1 -- none") = [] := by decide +kernel
  exact ⟨h, (confine_splices shopTables).1 _ _ h, hnone, (confine_splices shopTables).2 _ hnone⟩

end Guard

end SemanticLayer
