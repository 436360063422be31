import Mathlib.Data.List.DropRight
import SemanticLayer.Proofs.Sql.Reading
import SemanticLayer.Proofs.Sql.Span
import SemanticLayer.Sql.ReadOnly

/-!
How tokens are divided into statements. A statement goes on until a token that closes it, and beyond
that with blanks and a line comment; no token but blanks at the very end is lost.
-/

namespace SemanticLayer.Sql

open Text

namespace Splitting

variable {state : Splitting} {token : Token} {tokens : List Token}

/-! ### Steps -/

theorem close_ended (sorts : List Block) : (state.close sorts).ended = state.ended := by
  unfold close
  split
  · split <;> rfl
  · rfl

theorem readClosing_ended (word : String) : (state.readClosing word).ended = state.ended := by
  unfold readClosing
  split <;> first | exact close_ended _ | rfl

theorem readInside_ended (word : String) : (state.readInside word).ended = state.ended := by
  unfold readInside
  split <;> first | exact readClosing_ended _ | rfl

/-- What is open changes with a token, but not whether the statement is complete. -/
theorem track_ended : (state.track token).ended = state.ended := by
  unfold track
  dsimp only
  split_ifs <;> first
    | rfl
    | exact close_ended _
    | exact readInside_ended _
    | exact readClosing_ended _
    | skip
  split <;> rfl

/-- Inside parentheses or a block, where a semicolon closes nothing. -/
def IsOpen (state : Splitting) : Prop :=
  0 < state.level ∨ .body ∈ state.blocks

theorem read_isOpen : (state.read token).IsOpen ↔ (state.track token).IsOpen := by
  unfold read
  dsimp only
  split_ifs <;> rfl

/-- Whether the token completes the statement. -/
def IsClosedBy (state : Splitting) (token : Token) : Prop :=
  token.isMark ";" = true ∧ ¬(state.read token).IsOpen ∨
    token.isMark ";" = false ∧ separatesBatches token = true

theorem read_ended : (state.read token).ended = true ↔ state.ended = true ∨ state.IsClosedBy token := by
  rw [IsClosedBy, read_isOpen, IsOpen, read]
  dsimp only
  cases hmark : token.isMark ";" with
  | true => simp [track_ended]
  | false =>
    cases hbatch : separatesBatches token with
    | true => simp
    | false =>
      simp only [Bool.false_eq_true, if_false]
      split <;> simp [track_ended]

theorem read_tokens : (state.read token).tokens = token :: state.tokens := by
  unfold read
  dsimp only
  split_ifs <;> rfl

/-- The state after the tokens, if they all belong to the statement. -/
def readAll (state : Splitting) (tokens : List Token) : Splitting :=
  tokens.foldl read state

/-- A statement that is complete stays so. -/
theorem readAll_ended (tokens : List Token) (h : state.ended = true) :
    (state.readAll tokens).ended = true := by
  induction tokens generalizing state with
  | nil => exact h
  | cons token rest ih => exact ih (read_ended.2 (.inl h))

/-- A statement is complete because one of its tokens closed it. -/
theorem exists_isClosedBy (h : (state.readAll tokens).ended = true) (hstart : state.ended = false) :
    ∃ before token rest, tokens = before ++ token :: rest ∧
      (state.readAll before).IsClosedBy token := by
  induction tokens generalizing state with
  | nil => exact absurd (hstart.symm.trans h) (by simp)
  | cons token rest ih =>
    cases hended : (state.read token).ended with
    | true =>
      refine ⟨[], token, rest, rfl, ?_⟩
      exact (read_ended.1 hended).resolve_left (by simp [hstart])
    | false =>
      obtain ⟨before, other, later, rfl, hclosed⟩ := ih h hended
      exact ⟨token :: before, other, later, rfl, hclosed⟩

/-- One of the tokens completes the statement. -/
def Closes (tokens : List Token) : Prop :=
  ∃ before token rest, tokens = before ++ token :: rest ∧ (start.readAll before).IsClosedBy token

theorem readAll_append (state : Splitting) (tokens later : List Token) :
    state.readAll (tokens ++ later) = (state.readAll tokens).readAll later :=
  List.foldl_append

theorem readAll_start_ended : (start.readAll tokens).ended = true ↔ Closes tokens := by
  constructor
  · exact fun h => exists_isClosedBy h rfl
  · rintro ⟨before, token, rest, rfl, hclosed⟩
    rw [readAll_append]
    exact readAll_ended rest (read_ended.2 (.inr hclosed))

/-! ### Runs -/

/-- What may stand after a statement that is complete, and still belongs to it. -/
def Trails (token : Token) : Prop :=
  token.kind = .whitespace ∨ token.kind = .lineComment

/-- The tokens all belong to the statement. -/
def Continues (state : Splitting) (tokens : List Token) : Prop :=
  ∀ before token rest, tokens = before ++ token :: rest →
    (state.readAll before).ended = true → Trails token

theorem continues_nil : state.Continues [] := by
  intro before token rest h
  simp at h

theorem continues_cons : state.Continues (token :: tokens) ↔
    (state.ended = true → Trails token) ∧ (state.read token).Continues tokens := by
  constructor
  · intro h
    refine ⟨h [] token tokens rfl, ?_⟩
    rintro before other rest rfl
    exact h (token :: before) other rest rfl
  · rintro ⟨hfirst, hrest⟩ (_ | ⟨first, before⟩) other rest h
    · obtain ⟨rfl, -⟩ := List.cons.inj h
      exact hfirst
    · obtain ⟨rfl, hlater⟩ := List.cons.inj h
      exact hrest before other rest hlater

theorem continues_append {later : List Token} : state.Continues (tokens ++ later) ↔
    state.Continues tokens ∧ (state.readAll tokens).Continues later := by
  induction tokens generalizing state with
  | nil => exact ⟨fun h => ⟨continues_nil, h⟩, fun h => h.2⟩
  | cons token rest ih =>
    rw [List.cons_append, continues_cons, continues_cons, ih, and_assoc]
    rfl

/-- Tokens that close nothing belong to the statement under way. -/
theorem continues_of_not_isClosedBy (hstart : state.ended = false)
    (h : ∀ token ∈ tokens, ∀ state : Splitting, ¬state.IsClosedBy token) :
    state.Continues tokens := by
  rintro before token rest rfl hended
  obtain ⟨first, closing, later, rfl, hclosed⟩ := exists_isClosedBy hended hstart
  exact absurd hclosed (h closing (by simp) _)

theorem run_cons_of_trails (h : state.ended = true → Trails token) :
    state.run (token :: tokens) = (state.read token).run tokens := by
  rw [run, if_neg]
  rintro hends
  simp only [Bool.and_eq_true, bne_iff_ne] at hends
  exact (h hends.1.1).elim hends.1.2 hends.2

theorem run_cons_of_not_trails (hended : state.ended = true) (h : ¬Trails token) :
    state.run (token :: tokens) = state.tokens.reverse :: start.run (token :: tokens) := by
  have hstart : start.run (token :: tokens) = (start.read token).run tokens :=
    run_cons_of_trails fun hstart => by cases hstart
  rw [hstart, run, if_pos]
  simpa [hended, Trails] using h

theorem run_of_continues (h : state.Continues tokens) :
    state.run tokens =
      if (state.tokens.reverse ++ tokens).all (·.kind.isBlank) then []
      else [state.tokens.reverse ++ tokens] := by
  induction tokens generalizing state with
  | nil => simp [run]
  | cons token rest ih =>
    obtain ⟨hfirst, hrest⟩ := continues_cons.1 h
    rw [run_cons_of_trails hfirst, ih hrest, read_tokens, List.reverse_cons, List.append_assoc,
      List.singleton_append]

/-- Where the tokens do not all belong to the statement, it is followed by what starts with the first
that does not. -/
theorem run_of_not_continues (h : ¬state.Continues tokens) :
    ∃ before token rest, tokens = before ++ token :: rest ∧
      (state.readAll before).ended = true ∧ ¬Trails token ∧
      state.run tokens = (state.tokens.reverse ++ before) :: start.run (token :: rest) := by
  induction tokens generalizing state with
  | nil => exact absurd continues_nil h
  | cons token rest ih =>
    rw [continues_cons, not_and_or] at h
    by_cases hfirst : state.ended = true → Trails token
    · obtain ⟨before, other, later, rfl, hended, hother, hrun⟩ :=
        ih (h.resolve_left (not_not.2 hfirst))
      refine ⟨token :: before, other, later, rfl, hended, hother, ?_⟩
      rw [run_cons_of_trails hfirst, hrun, read_tokens, List.reverse_cons, List.append_assoc,
        List.singleton_append]
    · obtain ⟨hended, htoken⟩ := Classical.not_imp.1 hfirst
      refine ⟨[], token, rest, rfl, hended, htoken, ?_⟩
      rw [run_cons_of_not_trails hended htoken, List.append_nil]

/-- No token that is more than a blank is lost. -/
theorem exists_mem_run (h : token ∈ state.tokens ∨ token ∈ tokens)
    (hkind : token.kind.isBlank = false) : ∃ statement ∈ state.run tokens, token ∈ statement := by
  induction tokens generalizing state with
  | nil =>
    have htoken : token ∈ state.tokens := h.resolve_right (by simp)
    have hall : ¬state.tokens.all (·.kind.isBlank) = true := by
      intro hall
      rw [List.all_eq_true] at hall
      exact absurd ((hall token htoken).symm.trans hkind) (by simp)
    rw [run, if_neg hall]
    exact ⟨_, List.mem_singleton_self _, List.mem_reverse.2 htoken⟩
  | cons first rest ih =>
    by_cases hfirst : state.ended = true → Trails first
    · rw [run_cons_of_trails hfirst]
      refine ih ?_
      rw [read_tokens]
      simpa [or_assoc, or_comm, or_left_comm] using h
    · obtain ⟨hended, hnot⟩ := Classical.not_imp.1 hfirst
      rw [run_cons_of_not_trails hended hnot]
      rcases h with h | h
      · exact ⟨_, List.mem_cons_self, List.mem_reverse.2 h⟩
      · have hstart : start.run (first :: rest) = (start.read first).run rest :=
          run_cons_of_trails fun hstart => by cases hstart
        have hread : token ∈ (start.read first).tokens ∨ token ∈ rest := by
          rw [read_tokens]
          simpa [start] using h
        obtain ⟨statement, hstatement, hmem⟩ := ih hread
        exact ⟨statement, List.mem_cons_of_mem _ (hstart ▸ hstatement), hmem⟩

end Splitting

/-- The tokens are one statement if they all belong to it and are not all blank. -/
theorem statements_eq_self {tokens : List Token} : statements tokens = [tokens] ↔
    Splitting.start.Continues tokens ∧ tokens.all (·.kind.isBlank) = false := by
  constructor
  · intro h
    have hcontinues : Splitting.start.Continues tokens := by
      by_contra hnot
      obtain ⟨before, token, rest, rfl, -, -, hrun⟩ := Splitting.run_of_not_continues hnot
      have hfirst := List.head_eq_of_cons_eq (hrun.symm.trans h)
      simp [Splitting.start] at hfirst
    refine ⟨hcontinues, ?_⟩
    rw [← Bool.not_eq_true]
    intro hall
    have hrun := Splitting.run_of_continues hcontinues
    rw [if_pos (by simpa [Splitting.start] using hall)] at hrun
    cases hrun.symm.trans h
  · rintro ⟨hcontinues, hall⟩
    refine (Splitting.run_of_continues hcontinues).trans ?_
    rw [if_neg (by simpa [Splitting.start] using hall)]
    rfl

end SemanticLayer.Sql
