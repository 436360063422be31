import SemanticLayer.Proofs.Sql.Scan
import SemanticLayer.Sql.Lexer

/-!
The tokens of a text and of its references. The tokens put together are the text. A reference covers
at least one token, and references come in the order of their tokens: none begins before the one
before it ends.
-/

namespace SemanticLayer.Sql

theorem textOf_readTokens (count : Nat) (left : Option Char) (chars : List Char)
    (h : chars.length ≤ count) :
    Token.textOf (readTokens count left chars) = String.ofList chars := by
  induction count generalizing left chars with
  | zero =>
    rw [List.eq_nil_of_length_eq_zero (Nat.le_zero.1 h)]
    rfl
  | succ count ih =>
    cases chars with
    | nil => rfl
    | cons c rest =>
      -- Every step takes a character, so the count is enough for what is left.
      have hrest (n : Nat) : ((c :: rest).drop (max 1 n)).length ≤ count := by
        rw [List.length_drop]
        rw [List.length_cons] at h ⊢
        omega
      have hlater (left : Option Char) (n : Nat) :
          Token.textOf (readTokens count left ((c :: rest).drop (max 1 n))) =
            String.ofList ((c :: rest).drop (max 1 n)) := ih left _ (hrest n)
      unfold Token.textOf at hlater ⊢
      rw [readTokens, List.map_cons, String.join_cons, hlater, ← String.ofList_append,
        List.take_append_drop]

/-- The tokens of a text, put together, are the text. -/
theorem textOf_tokenize (sql : String) : Token.textOf (tokenize sql) = sql := by
  rw [tokenize, textOf_readTokens _ _ _ (Nat.le_refl _), String.ofList_toList]

/-- The references cover tokens from a place on and before the bound, one after the other. -/
inductive InOrder (bound : Nat) : Nat → List TableReference → Prop
  | nil (place : Nat) : InOrder bound place []
  | cons {place : Nat} {r : TableReference} {rest : List TableReference} (start : place ≤ r.start)
      (size : r.start < r.stop) (stop : r.stop ≤ bound) (later : InOrder bound r.stop rest) :
      InOrder bound place (r :: rest)

theorem InOrder.mono {bound place earlier : Nat} {references : List TableReference}
    (h : InOrder bound place references) (hle : earlier ≤ place) :
    InOrder bound earlier references := by
  cases h with
  | nil => exact .nil _
  | cons start size stop later => exact .cons (hle.trans start) size stop later

theorem InOrder.le_start {bound place : Nat} {references : List TableReference}
    (h : InOrder bound place references) : ∀ r ∈ references, place ≤ r.start := by
  induction h with
  | nil => simp
  | cons start size _ _ ih =>
    intro other hother
    rcases List.mem_cons.1 hother with rfl | hother
    · exact start
    · have hlater := ih other hother
      omega

theorem two_mul_length_moreParts (tokens : List Token) :
    2 * (moreParts tokens).length ≤ tokens.length := by
  induction tokens using moreParts.induct with
  | case1 separator part rest hparts ih =>
    rw [moreParts, if_pos hparts]
    simp only [List.length_cons]
    omega
  | case2 separator part rest hparts => simp [moreParts, hparts]
  | case3 tokens hparts => simp [moreParts]

/-- The tokens of a reference are among those that are read with it. -/
theorem readReference_span {declared : List String} {keyword : String} {start : Nat}
    {token : Token} {rest : List Token} {r : TableReference}
    (h : (readReference declared keyword start token rest).1 = some r) :
    r.start = start ∧ r.start < r.stop ∧ r.stop ≤ start + 1 + rest.length ∧
      r.stop ≤ start + (readReference declared keyword start token rest).2 := by
  have hparts := two_mul_length_moreParts rest
  unfold readReference at h ⊢
  dsimp only at h ⊢
  split at h
  · cases h
  · rename_i hplain
    rw [if_neg hplain]
    split at h
    · cases h
    · rename_i hname
      cases h
      rw [if_neg hname]
      dsimp only
      omega

namespace Scan

variable {declared : List String} {scan : Scan} {token : Token} {rest : List Token}

/-- What one step finds: nothing, or one reference, whose tokens are passed over before anything
else is found. -/
theorem step_found (declared : List String) (scan : Scan) (token : Token) (rest : List Token) :
    let next := (scan.step declared token rest).2
    (scan.step declared token rest).1 = [] ∧ scan.position + scan.skip ≤ next.position + next.skip ∨
      ∃ r, (scan.step declared token rest).1 = [r] ∧ scan.skip = 0 ∧ r.start = scan.position ∧
        r.start < r.stop ∧ r.stop ≤ scan.position + 1 + rest.length ∧
        r.stop ≤ next.position + next.skip := by
  have hposition : (scan.step declared token rest).2.position = scan.position + 1 := step_frame.1
  dsimp only
  rw [hposition]
  rcases Nat.eq_zero_or_pos scan.skip with hskip | hskip
  · -- A token that is not passed over can always be followed by others.
    have hle : scan.position + scan.skip ≤
        scan.position + 1 + (scan.step declared token rest).2.skip := by omega
    cases htrivia : token.isTrivia with
    | true => exact .inl ⟨by rw [step_of_trivia hskip htrivia], hle⟩
    | false =>
      cases hexpecting : scan.expecting with
      | false => exact .inl ⟨by rw [step_of_calm hskip htrivia hexpecting], hle⟩
      | true =>
        rw [step_of_expecting hskip htrivia hexpecting] at hle ⊢
        cases hpart : token.isIdentifierPart with
        | true =>
          have hextent : (readReference declared scan.keyword scan.position token rest).2 =
              token.extent rest := readReference_extent
          rw [readTable_of_part hpart, ← hextent] at hle ⊢
          cases hread : (readReference declared scan.keyword scan.position token rest).1 with
          | none => exact .inl ⟨rfl, hle⟩
          | some r =>
            obtain ⟨hstart, hsize, hlength, hstop⟩ := readReference_span hread
            refine .inr ⟨r, rfl, hskip, hstart, hsize, hlength, ?_⟩
            simp only [advance]
            omega
        | false =>
          unfold readTable at hle ⊢
          dsimp only at hle ⊢
          split
          · exact .inl ⟨rfl, by omega⟩
          · split
            · exact .inl ⟨rfl, by omega⟩
            · rw [if_neg (by simp [hpart])]
              exact .inr ⟨_, rfl, hskip, rfl, Nat.lt_succ_self _, by dsimp only; omega,
                by dsimp only; omega⟩
  · refine .inl ⟨by rw [step_of_skip hskip], ?_⟩
    rw [step_of_skip hskip]
    simp only [advance]
    omega

theorem run_inOrder (declared : List String) (scan : Scan) (tokens : List Token) :
    InOrder (scan.position + tokens.length) (scan.position + scan.skip)
      (scan.run declared tokens) := by
  induction tokens generalizing scan with
  | nil => exact .nil _
  | cons token rest ih =>
    have hposition : (scan.step declared token rest).2.position = scan.position + 1 :=
      step_frame.1
    have hlater := ih (scan.step declared token rest).2
    rw [hposition] at hlater
    rw [run, List.length_cons, Nat.add_comm rest.length, ← Nat.add_assoc]
    dsimp only
    rcases step_found declared scan token rest with
      ⟨hnone, hle⟩ | ⟨r, hfound, hskip, hstart, hsize, hlength, hstop⟩
    · rw [hnone, List.nil_append]
      exact hlater.mono (by omega)
    · rw [hfound, List.singleton_append]
      exact .cons (by omega) hsize hlength (hlater.mono (by omega))

end Scan

/-- The references of a text cover tokens of it, one after the other. -/
theorem tableReferences_inOrder (tokens : List Token) :
    InOrder tokens.length 0 (tableReferences tokens) := by
  have h := Scan.run_inOrder (cteNames tokens) Scan.start tokens
  simpa [tableReferences, Scan.start] using h

end SemanticLayer.Sql
