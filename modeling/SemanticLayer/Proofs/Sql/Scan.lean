import SemanticLayer.Proofs.Sql.Reference

/-!
The states of the scanner. A reference starts at the place whose token is read into it, so what is
found at a place is decided by the state before it and by the tokens from there on.
-/

namespace SemanticLayer.Sql

open Text

/-- The token at `next` is the first one from `place` on that is no trivia. -/
structure IsNext (tokens : List Token) (place next : Nat) (token : Token) : Prop where
  le : place ≤ next
  found : tokens[next]? = some token
  significant : token.isTrivia = false
  trivia : ∀ between < next, place ≤ between → tokens[between]?.any Token.isTrivia = true

instance (tokens : List Token) (place next : Nat) (token : Token) :
    Decidable (IsNext tokens place next token) :=
  decidable_of_iff
    (place ≤ next ∧ tokens[next]? = some token ∧ token.isTrivia = false ∧
      ∀ between < next, place ≤ between → tokens[between]?.any Token.isTrivia = true)
    ⟨fun ⟨le, found, significant, trivia⟩ => ⟨le, found, significant, trivia⟩,
      fun h => ⟨h.le, h.found, h.significant, h.trivia⟩⟩

theorem IsNext.skipTrivia_drop {tokens : List Token} {place next : Nat} {token : Token}
    (h : IsNext tokens place next token) :
    skipTrivia (tokens.drop place) = token :: tokens.drop (next + 1) := by
  obtain ⟨hlt, hfound⟩ := List.getElem?_eq_some_iff.1 h.found
  have hdrop : tokens.drop place =
      (tokens.drop place).take (next - place) ++ token :: tokens.drop (next + 1) := by
    have hle := h.le
    have hplace : place + (next - place) = next := by omega
    conv => lhs; rw [← List.take_append_drop (next - place) (tokens.drop place)]
    rw [List.drop_drop, hplace, List.drop_eq_getElem_cons hlt, hfound]
  have hlead : ∀ other ∈ (tokens.drop place).take (next - place), other.isTrivia = true := by
    intro other hother
    obtain ⟨count, hcount, rfl⟩ := List.mem_take_iff_getElem.1 hother
    rw [List.length_drop] at hcount
    have hany := h.trivia (place + count) (by omega) (by omega)
    rw [List.getElem?_eq_getElem (by omega), Option.any_some] at hany
    rwa [List.getElem_drop]
  rw [skipTrivia, hdrop, List.dropWhile_append_of_pos hlead,
    List.dropWhile_cons_of_neg (by simp [h.significant])]

namespace Scan

variable {declared : List String} {scan : Scan} {token : Token} {rest tokens : List Token}
  {place : Nat}

/-! ### Steps -/

theorem step_of_skip (h : 0 < scan.skip) :
    scan.step declared token rest =
      ([], { scan with skip := scan.skip - 1 }.advance token) := by
  rw [step, if_pos h]

theorem step_of_trivia (hskip : scan.skip = 0) (h : token.isTrivia = true) :
    scan.step declared token rest = ([], scan.advance token) := by
  rw [step, if_neg (by omega), if_pos h]

theorem step_of_expecting (hskip : scan.skip = 0) (htrivia : token.isTrivia = false)
    (h : scan.expecting = true) :
    scan.step declared token rest =
      ((scan.readTable declared token rest).1,
        (scan.readTable declared token rest).2.advance token) := by
  rw [step, if_neg (by omega), if_neg (by simp [htrivia]), if_pos h]

theorem step_of_calm (hskip : scan.skip = 0) (htrivia : token.isTrivia = false)
    (h : scan.expecting = false) :
    scan.step declared token rest = ([], (scan.readToken token rest).advance token) := by
  rw [step, if_neg (by omega), if_neg (by simp [htrivia]), if_neg (by simp [h])]

/-- Keywords are no parentheses. -/
theorem readToken_keyword {keyword : String} (hkeyword : token.keyword? = some keyword) :
    scan.readToken token rest =
      match tableKeyword? scan.previous token with
      | some put =>
        if scan.scope.holdsQuery || put == "TABLE" then
          { scan with
            expecting := true
            keyword := put
            scope := ⟨scan.scope.holdsQuery,
              scan.scope.listsTables || put == "FROM" || put == "DELETE FROM"⟩ }
        else
          scan.readListToken token
      | none => scan.readListToken token := by
  rewrite [readToken, Token.isMark_of_keyword? hkeyword, Token.isMark_of_keyword? hkeyword,
    if_neg (by simp), if_neg (by simp)]
  rfl

theorem readListToken_of_keyword? {keyword : String} (hkeyword : token.keyword? = some keyword)
    (hlist : keyword ∉ listTerminators) : scan.readListToken token = scan := by
  unfold readListToken
  split
  · rw [Token.isMark_of_keyword? hkeyword, Token.isKeywordOf_of_keyword? hkeyword,
      if_neg (by simp), if_neg (by simpa using hlist)]
  · rfl

/-- Reading a token changes the scope and what is expected, and nothing else. -/
theorem readToken_frame :
    (scan.readToken token rest).position = scan.position ∧
      (scan.readToken token rest).skip = scan.skip ∧
      (scan.readToken token rest).previous = scan.previous := by
  have hlist : (scan.readListToken token).position = scan.position ∧
      (scan.readListToken token).skip = scan.skip ∧
      (scan.readListToken token).previous = scan.previous := by
    unfold readListToken
    split
    · split
      · exact ⟨rfl, rfl, rfl⟩
      · split <;> exact ⟨rfl, rfl, rfl⟩
    · exact ⟨rfl, rfl, rfl⟩
  unfold readToken
  split
  · exact ⟨rfl, rfl, rfl⟩
  split
  · unfold leave
    split <;> exact ⟨rfl, rfl, rfl⟩
  split
  · split
    · exact ⟨rfl, rfl, rfl⟩
    · exact hlist
  · exact hlist

theorem readTable_frame :
    (scan.readTable declared token rest).2.position = scan.position ∧
      (scan.readTable declared token rest).2.previous = scan.previous := by
  unfold readTable
  dsimp only
  split
  · exact ⟨rfl, rfl⟩
  split
  · exact ⟨rfl, rfl⟩
  split
  · exact ⟨rfl, rfl⟩
  · exact ⟨readToken_frame.1, readToken_frame.2.2⟩

theorem step_frame :
    (scan.step declared token rest).2.position = scan.position + 1 ∧
      (scan.step declared token rest).2.previous =
        if token.isTrivia then scan.previous else some token := by
  have hadvance (next : Scan) (hposition : next.position = scan.position)
      (hprevious : next.previous = scan.previous) :
      (next.advance token).position = scan.position + 1 ∧
        (next.advance token).previous =
          if token.isTrivia then scan.previous else some token := by
    simp [advance, hposition, hprevious]
  rcases Nat.eq_zero_or_pos scan.skip with hskip | hskip
  · cases htrivia : token.isTrivia with
    | true => simp [step_of_trivia hskip htrivia, advance, htrivia]
    | false =>
      rw [← htrivia]
      cases hexpecting : scan.expecting with
      | true =>
        rw [step_of_expecting hskip htrivia hexpecting]
        exact hadvance _ readTable_frame.1 readTable_frame.2
      | false =>
        rw [step_of_calm hskip htrivia hexpecting]
        exact hadvance _ readToken_frame.1 readToken_frame.2.2
  · rw [step_of_skip hskip]
    exact hadvance _ rfl rfl

/-- A token that may not stand where a table is expected is read as if none were. -/
theorem step_of_other (hskip : scan.skip = 0) (htrivia : token.isTrivia = false)
    (hopen : token.isMark "(" = false) (hmodifier : token.isKeywordOf tableModifiers = false)
    (hpart : token.isIdentifierPart = false) :
    (scan.step declared token rest).2 =
      ({ scan with expecting := false }.readToken token rest).advance token := by
  cases hexpecting : scan.expecting with
  | true =>
    rw [step_of_expecting hskip htrivia hexpecting, readTable, hopen, hmodifier, hpart,
      if_neg (by simp), if_neg (by simp), if_neg (by simp)]
  | false =>
    rw [step_of_calm hskip htrivia hexpecting]
    cases scan
    cases hexpecting
    rfl

theorem start_of_mem_readTable {r : TableReference}
    (h : r ∈ (scan.readTable declared token rest).1) : r.start = scan.position := by
  unfold readTable at h
  dsimp only at h
  split at h
  · simp at h
  split at h
  · simp at h
  split at h
  · unfold readReference at h
    dsimp only at h
    split at h
    · simp at h
    split at h
    · simp at h
    · rw [List.mem_singleton.1 h]
  · rw [List.mem_singleton.1 h]

/-- A reference starts where it is found. -/
theorem start_of_mem_step {r : TableReference}
    (h : r ∈ (scan.step declared token rest).1) : r.start = scan.position := by
  unfold step at h
  split at h
  · simp at h
  split at h
  · simp at h
  split at h
  · exact start_of_mem_readTable h
  · simp at h

/-! ### States -/

/-- The state before the token at a place. -/
def reach (tokens : List Token) : Nat → Scan
  | 0 => start
  | place + 1 =>
    match tokens[place]? with
    | some token => ((reach tokens place).step (cteNames tokens) token (tokens.drop (place + 1))).2
    | none => reach tokens place

theorem reach_succ (h : tokens[place]? = some token) :
    reach tokens (place + 1) =
      ((reach tokens place).step (cteNames tokens) token (tokens.drop (place + 1))).2 := by
  rw [reach, h]

theorem position_reach (h : place ≤ tokens.length) : (reach tokens place).position = place := by
  induction place with
  | zero => rfl
  | succ place ih =>
    have htoken : tokens[place]? = some tokens[place] := List.getElem?_eq_getElem h
    rw [reach_succ htoken, step_frame.1, ih (by omega)]

/-- What is found from a place on is found at one of the places that follow. -/
theorem mem_run_reach (tokens : List Token) (r : TableReference) (place : Nat) :
    r ∈ (reach tokens place).run (cteNames tokens) (tokens.drop place) ↔
      ∃ later token, place ≤ later ∧ tokens[later]? = some token ∧
        r ∈ ((reach tokens later).step (cteNames tokens) token (tokens.drop (later + 1))).1 := by
  rcases Nat.lt_or_ge place tokens.length with hlt | hge
  · have htoken : tokens[place]? = some tokens[place] := List.getElem?_eq_getElem hlt
    rw [List.drop_eq_getElem_cons hlt, run]
    dsimp only
    rw [List.mem_append, ← reach_succ htoken, mem_run_reach tokens r (place + 1)]
    constructor
    · rintro (h | ⟨later, token, hle, h⟩)
      · exact ⟨place, tokens[place], Nat.le_refl _, htoken, h⟩
      · exact ⟨later, token, by omega, h⟩
    · rintro ⟨later, token, hle, hlater, h⟩
      rcases Nat.eq_or_lt_of_le hle with rfl | hlt
      · obtain rfl := Option.some.inj (htoken.symm.trans hlater)
        exact .inl h
      · exact .inr ⟨later, token, hlt, hlater, h⟩
  · rw [List.drop_eq_nil_of_le hge]
    constructor
    · intro h
      exact absurd h List.not_mem_nil
    · rintro ⟨later, token, hle, hlater, -⟩
      rw [List.getElem?_eq_none (by omega)] at hlater
      cases hlater
  termination_by tokens.length - place

/-- A reference starts at a place exactly if one is found there. -/
theorem exists_reference_iff :
    (∃ r ∈ tableReferences tokens, r.start = place) ↔
      ∃ token, tokens[place]? = some token ∧
        ((reach tokens place).step (cteNames tokens) token (tokens.drop (place + 1))).1 ≠ [] := by
  have hmem (r : TableReference) := mem_run_reach tokens r 0
  constructor
  · rintro ⟨r, hr, rfl⟩
    obtain ⟨later, token, -, hlater, hfound⟩ := (hmem r).1 hr
    have hstart := start_of_mem_step hfound
    rw [position_reach (by grind)] at hstart
    rw [hstart]
    exact ⟨token, hlater, List.ne_nil_of_mem hfound⟩
  · rintro ⟨token, htoken, hfound⟩
    obtain ⟨r, hr⟩ := List.exists_mem_of_ne_nil _ hfound
    have hstart := start_of_mem_step hr
    rw [position_reach (by grind)] at hstart
    exact ⟨r, (hmem r).2 ⟨place, token, Nat.zero_le _, htoken, hr⟩, hstart⟩

theorem previous_reach (tokens : List Token) (place : Nat) :
    (reach tokens place).previous =
      ((tokens.take place).filter fun token => !token.isTrivia).getLast? := by
  induction place with
  | zero => rfl
  | succ place ih =>
    cases htoken : tokens[place]? with
    | none =>
      rw [List.getElem?_eq_none_iff] at htoken
      rw [reach, List.getElem?_eq_none htoken, List.take_of_length_le (by omega), ih,
        List.take_of_length_le htoken]
    | some token =>
      rw [reach_succ htoken, step_frame.2, ih, List.take_add_one, htoken]
      cases htrivia : token.isTrivia <;> simp [htrivia]

/-- Trivia change nothing but the place. -/
theorem reach_of_trivia {next : Nat} (hskip : (reach tokens place).skip = 0) (hle : place ≤ next)
    (htrivia : ∀ between < next, place ≤ between → tokens[between]?.any Token.isTrivia = true) :
    ∃ position, reach tokens next = { reach tokens place with position } := by
  induction hle with
  | refl => exact ⟨_, rfl⟩
  | @step next hle ih =>
    obtain ⟨position, hbefore⟩ := ih fun between hlt => htrivia between (by omega)
    have hany := htrivia next (by omega) hle
    cases htoken : tokens[next]? with
    | none => simp [htoken] at hany
    | some token =>
      have htokenTrivia : token.isTrivia = true := by simpa [htoken] using hany
      have hfree : (reach tokens next).skip = 0 := by rw [hbefore, hskip]
      refine ⟨position + 1, ?_⟩
      rw [reach_succ htoken, step_of_trivia hfree htokenTrivia, hbefore]
      simp [advance, htokenTrivia]

/-! ### Names -/

/-- The name of a table is read from the place on. -/
structure Reads (tokens : List Token) (place : Nat) (token : Token) : Prop where
  found : tokens[place]? = some token
  free : (reach tokens place).skip = 0
  significant : token.isTrivia = false
  expected : (reach tokens place).expecting = true
  part : token.isIdentifierPart = true

instance (tokens : List Token) (place : Nat) (token : Token) :
    Decidable (Reads tokens place token) :=
  decidable_of_iff
    (tokens[place]? = some token ∧ (reach tokens place).skip = 0 ∧ token.isTrivia = false ∧
      (reach tokens place).expecting = true ∧ token.isIdentifierPart = true)
    ⟨fun ⟨found, free, significant, expected, part⟩ =>
        ⟨found, free, significant, expected, part⟩,
      fun h => ⟨h.found, h.free, h.significant, h.expected, h.part⟩⟩

theorem readTable_of_part (hpart : token.isIdentifierPart = true) :
    scan.readTable declared token rest =
      ((readReference declared scan.keyword scan.position token rest).1.toList,
        { scan with expecting := false, skip := token.extent rest - 1 }) := by
  rw [readTable, (Token.standsInName_of_isIdentifierPart hpart).notOpen,
    Token.isKeywordOf_modifiers hpart, if_neg (by simp), if_neg (by simp), if_pos hpart,
    ← readReference_extent]

/-- Only names have other tokens read along with them. -/
theorem skip_readTable (hskip : scan.skip = 0) (hpart : token.isIdentifierPart = false) :
    (scan.readTable declared token rest).2.skip = 0 := by
  unfold readTable
  dsimp only
  split
  · exact hskip
  split
  · exact hskip
  split
  · simp_all
  · exact readToken_frame.2.1.trans hskip

namespace Reads

theorem step_eq (h : Reads tokens place token) :
    (reach tokens place).step (cteNames tokens) token (tokens.drop (place + 1)) =
      ((readReference (cteNames tokens) (reach tokens place).keyword (reach tokens place).position
          token (tokens.drop (place + 1))).1.toList,
        { reach tokens place with
          expecting := false
          skip := token.extent (tokens.drop (place + 1)) - 1 }.advance token) := by
  rw [step_of_expecting h.free h.significant h.expected, readTable_of_part h.part]

/-- While the tokens of a name are passed over, nothing else happens. -/
theorem reach_eq (h : Reads tokens place token) (count : Nat)
    (hcount : count < token.extent (tokens.drop (place + 1)))
    (hlength : place + count < tokens.length) :
    (reach tokens (place + 1 + count)).skip + count + 1 =
        token.extent (tokens.drop (place + 1)) ∧
      (reach tokens (place + 1 + count)).expecting = false ∧
      (reach tokens (place + 1 + count)).scope = (reach tokens place).scope ∧
      (reach tokens (place + 1 + count)).outer = (reach tokens place).outer := by
  induction count with
  | zero =>
    rw [Nat.add_zero, reach_succ h.found, h.step_eq]
    refine ⟨?_, rfl, rfl, rfl⟩
    simp only [advance]
    omega
  | succ count ih =>
    obtain ⟨hskip, hexpecting, hscope, houter⟩ := ih (by omega) (by omega)
    have hnext : tokens[place + 1 + count]? = some tokens[place + 1 + count] :=
      List.getElem?_eq_getElem (by omega)
    rw [← Nat.add_assoc (place + 1), reach_succ hnext, step_of_skip (by omega)]
    refine ⟨?_, hexpecting, hscope, houter⟩
    simp only [advance]
    omega

end Reads

/-- Tokens are passed over only along with a name. -/
theorem exists_reads_of_skip (hplace : place ≤ tokens.length)
    (hskip : 0 < (reach tokens place).skip) :
    ∃ first token, first < place ∧ Reads tokens first token ∧
      place + (reach tokens place).skip = first + token.extent (tokens.drop (first + 1)) := by
  induction place with
  | zero => simp [reach, start] at hskip
  | succ place ih =>
    have htoken : tokens[place]? = some tokens[place] := List.getElem?_eq_getElem hplace
    rw [reach_succ htoken] at hskip ⊢
    rcases Nat.eq_zero_or_pos (reach tokens place).skip with hfree | hbusy
    · cases htrivia : tokens[place].isTrivia with
      | true =>
        rw [step_of_trivia hfree htrivia] at hskip
        simp [advance, hfree] at hskip
      | false =>
        cases hexpecting : (reach tokens place).expecting with
        | false =>
          rw [step_of_calm hfree htrivia hexpecting] at hskip
          simp [advance, readToken_frame.2.1, hfree] at hskip
        | true =>
          cases hpart : tokens[place].isIdentifierPart with
          | false =>
            rw [step_of_expecting hfree htrivia hexpecting] at hskip
            simp [advance, skip_readTable hfree hpart] at hskip
          | true =>
            have hreads : Reads tokens place tokens[place] :=
              ⟨htoken, hfree, htrivia, hexpecting, hpart⟩
            refine ⟨place, tokens[place], by omega, hreads, ?_⟩
            have hpos := tokens[place].extent_pos (tokens.drop (place + 1))
            simp only [hreads.step_eq, advance]
            omega
    · obtain ⟨first, token, hlt, hreads, hsum⟩ := ih (by omega) hbusy
      refine ⟨first, token, by omega, hreads, ?_⟩
      simp only [step_of_skip hbusy, advance]
      omega

/-- The reference of a name that is read is left out only for the array function and for single
declared names. -/
theorem exists_reference_of_part (hfound : tokens[place]? = some token)
    (htrivia : token.isTrivia = false) (hpart : token.isIdentifierPart = true) :
    (∃ r ∈ tableReferences tokens, r.start = place) ↔
      Reads tokens place token ∧ token.opensUnnest (tokens.drop (place + 1)) = false ∧
        (moreParts (tokens.drop (place + 1)) = [] →
          lower (unquote token.text) ∉ cteNames tokens) := by
  have hname : (readReference (cteNames tokens) (reach tokens place).keyword
      (reach tokens place).position token (tokens.drop (place + 1))).1.toList ≠ [] ↔
      token.opensUnnest (tokens.drop (place + 1)) = false ∧
        (moreParts (tokens.drop (place + 1)) = [] →
          lower (unquote token.text) ∉ cteNames tokens) := by
    rw [ne_eq, Option.toList_eq_nil_iff, readReference_eq_none]
    simp
  rw [exists_reference_iff, ← hname]
  constructor
  · rintro ⟨other, hother, hsome⟩
    obtain rfl := Option.some.inj (hother.symm.trans hfound)
    have hfree : (reach tokens place).skip = 0 := by
      by_contra hskip
      rw [step_of_skip (Nat.pos_of_ne_zero hskip)] at hsome
      exact hsome rfl
    have hexpected : (reach tokens place).expecting = true := by
      by_contra hcalm
      rw [step_of_calm hfree htrivia (by simpa using hcalm)] at hsome
      exact hsome rfl
    have hreads : Reads tokens place other := ⟨hother, hfree, htrivia, hexpected, hpart⟩
    rw [hreads.step_eq] at hsome
    exact ⟨hreads, hsome⟩
  · rintro ⟨hreads, hsome⟩
    exact ⟨token, hfound, by rwa [hreads.step_eq]⟩

end Scan

end SemanticLayer.Sql
