import Mathlib.Control.Monad.Basic
import SemanticLayer.Proofs.Guard.Rewriting
import SemanticLayer.Proofs.Sql.Layout

/-!
What a guard decides about a text in two layouts. It looks at the names of the references and at
nothing else, so texts whose references have the same names get the same verdict. Trivia that tear
no name apart keep the verdict, unless they turn a word that the scanner acts at into one that it
passes over.
-/

namespace SemanticLayer

open Sql

namespace Guard

variable {guard : Guard}

/-- The canonical name that is put in for a reference. -/
def Verdict.canonical? : Verdict → Option String
  | .resolved canonical => some canonical
  | _ => none

/-- What a guard decides about a text: the canonical names that it puts in, in order, or the kind of
its report. -/
def verdict (guard : Guard) (sql : String) : Except ErrorKind (List String) :=
  match guard.confine sql with
  | .ok _ => .ok ((guard.replacements (tableReferences (tokenize sql))).map Prod.snd)
  | .error report => .error report.kind

/-- The verdict on a reference with the key. -/
def judgeKey (guard : Guard) (key : String × Bool) : Verdict :=
  guard.judge ⟨"", key.1, none, 0, 0, key.2⟩

theorem judge_eq_judgeKey (r : TableReference) : guard.judge r = guard.judgeKey r.key :=
  rfl

theorem identifiersWith_of_keys {one two : List TableReference}
    (h : one.map TableReference.key = two.map TableReference.key) (verdict : Verdict) :
    guard.identifiersWith verdict one = guard.identifiersWith verdict two := by
  have hkeys (references : List TableReference) : guard.identifiersWith verdict references =
      distinct (((references.map TableReference.key).filter fun key =>
        guard.judgeKey key == verdict).map Prod.fst) := by
    rw [identifiersWith, List.filter_map, List.map_map]
    rfl
  rw [hkeys, hkeys, h]

theorem map_snd_replacements_of_keys {one two : List TableReference}
    (h : one.map TableReference.key = two.map TableReference.key) :
    (guard.replacements one).map Prod.snd = (guard.replacements two).map Prod.snd := by
  have hkeys (references : List TableReference) :
      (guard.replacements references).map Prod.snd =
        (references.map TableReference.key).filterMap fun key =>
          (guard.judgeKey key).canonical? := by
    rw [replacements, List.map_filterMap, List.filterMap_map]
    refine List.filterMap_congr fun r _ => ?_
    rw [judge_eq_judgeKey, Function.comp_apply]
    cases guard.judgeKey r.key <;> rfl
  rw [hkeys, hkeys, h]

/-- The verdict hangs on the keys of the references alone. -/
theorem verdict_of_keys {one two : String}
    (h : (tableReferences (tokenize one)).map TableReference.key =
      (tableReferences (tokenize two)).map TableReference.key) :
    guard.verdict one = guard.verdict two := by
  unfold verdict confine confineTokens
  dsimp only
  rw [identifiersWith_of_keys h, identifiersWith_of_keys h, map_snd_replacements_of_keys h]
  generalize guard.identifiersWith .ambiguous _ = ambiguous
  generalize guard.identifiersWith .blocked _ = blocked
  match ambiguous, blocked with
  | [], [] => rfl
  | [], _ :: _ => rfl
  | _ :: _, _ => rfl

/-- Trivia put in between the tokens of a text keep the verdict, if they tear no name of a table
apart and leave every word as it is, as far as references are concerned. -/
theorem verdict_of_layout {sql relaid : String} {gap size : Nat}
    (h : Relaid (tokenize sql) (tokenize relaid) gap size) :
    guard.verdict relaid = guard.verdict sql :=
  (verdict_of_keys h.map_key_tableReferences).symm

def ordersOnly : Guard :=
  ⟨[⟨"public.orders", none, none, some "orders", []⟩]⟩

theorem verdict_of_layout_comment :
    Relaid (tokenize "SELECT EXISTS(SELECT 1 FROM orders)")
        (tokenize "SELECT EXISTS/**/ (SELECT 1 FROM orders)") 3 2 ∧
      ordersOnly.verdict "SELECT EXISTS/**/ (SELECT 1 FROM orders)" =
        ordersOnly.verdict "SELECT EXISTS(SELECT 1 FROM orders)" := by
  have h : Relaid (tokenize "SELECT EXISTS(SELECT 1 FROM orders)")
      (tokenize "SELECT EXISTS/**/ (SELECT 1 FROM orders)") 3 2 := by
    decide +kernel
  exact ⟨h, verdict_of_layout h⟩

/-- A blank decides whether a subquery is scanned, and whether the second part of a name is read. -/
theorem verdict_depends_on_layout :
    ordersOnly.verdict "SELECT (SELECT(1) FROM secret) FROM orders" =
        .ok ["public.orders"] ∧
      ordersOnly.verdict "SELECT (SELECT (1) FROM secret) FROM orders" =
        .error .blockedTableReference ∧
      ordersOnly.verdict "SELECT * FROM orders .secret" = .ok ["public.orders"] ∧
      ordersOnly.verdict "SELECT * FROM orders.secret" = .error .blockedTableReference := by
  decide +kernel

end Guard

end SemanticLayer
