import SemanticLayer.Proofs.Sql.Appending
import SemanticLayer.Proofs.Sql.ReadOnly
import SemanticLayer.Sql.RowLimit

/-!
Where the limit of rows stands. A count that is lowered stands before the end of the statement. A
limit that is put after a text leaves the tokens of the text as they are, but for a line comment or a
line break at its end, so it belongs to the one statement of the text just if no semicolon has
completed that.
-/

namespace SemanticLayer.Sql

open Text

section

variable {clause : List Char}

/-! ### Tokens -/

theorem readTokens_succ (count : Nat) (left : Option Char) {cs : List Char} (hne : cs ≠ []) :
    readTokens (count + 1) left cs =
      ⟨(tokenAt left cs).1, String.ofList (cs.take (max 1 (tokenAt left cs).2))⟩ ::
        readTokens count ((cs.take (max 1 (tokenAt left cs).2)).getLast?.or left)
          (cs.drop (max 1 (tokenAt left cs).2)) := by
  cases cs with
  | nil => exact absurd rfl hne
  | cons c rest => rfl

theorem readTokens_nil (count : Nat) (left : Option Char) : readTokens count left [] = [] := by
  cases count <;> rfl

/-- The tokens of a text where the clause follows, and what is left of the clause: the tokens are
the same, or the last one is of a line and takes the line break as well. -/
inductive IsFollowed (clause : List Char) : List Token → List Token → List Char → Prop
  | apart (tokens : List Token) : IsFollowed clause tokens tokens clause
  | line {kind : TokenKind} (hkind : kind ∈ lineKinds) (before : List Token)
      (short long : String) :
      IsFollowed clause (before ++ [⟨kind, short⟩]) (before ++ [⟨kind, long⟩]) clause.tail

theorem IsFollowed.cons {tokens longer : List Token} {rest : List Char}
    (h : IsFollowed clause tokens longer rest) (token : Token) :
    IsFollowed clause (token :: tokens) (token :: longer) rest := by
  cases h with
  | apart => exact .apart _
  | line hkind before short long => exact .line hkind (token :: before) short long

/-- The tokens of a text and of a clause after it. -/
theorem readTokens_append (hclause : IsClause clause) (left : Option Char) {cs : List Char}
    {n m : Nat} (hn : cs.length ≤ n) (hm : (cs ++ clause).length ≤ m) :
    ∃ longer rest count later, rest.length ≤ count ∧
      readTokens m left (cs ++ clause) = longer ++ readTokens count later rest ∧
        IsFollowed clause (readTokens n left cs) longer rest ∧
          (rest = clause ∨ rest = clause.tail ∧ later = some '\n') := by
  induction n generalizing m left cs with
  | zero =>
    obtain rfl := List.eq_nil_of_length_eq_zero (Nat.le_zero.1 hn)
    exact ⟨[], clause, m, left, hm, rfl, .apart _, .inl rfl⟩
  | succ n ih =>
    by_cases hne : cs = []
    · subst hne
      rw [readTokens_nil]
      exact ⟨[], clause, m, left, hm, rfl, .apart _, .inl rfl⟩
    -- The first token takes a character at least, so the counts are enough for what is left.
    have hpos := List.length_pos_iff.2 hne
    rw [List.length_append] at hm
    obtain ⟨m, rfl⟩ : ∃ k, m = k + 1 := ⟨m - 1, by omega⟩
    rw [readTokens_succ _ _ hne, readTokens_succ _ _ (List.append_ne_nil_of_left_ne_nil hne _)]
    rcases tokenAt_append hclause left hne with h | ⟨kind, hkind, hhere, hthere⟩
    · rw [h]
      have hle := tokenAt_le left hne
      generalize hsize : max 1 (tokenAt left cs).2 = size at hle ⊢
      have hsizePos : 1 ≤ size := hsize ▸ le_max_left _ _
      rw [List.take_append_of_le_length hle, List.drop_append_of_le_length hle]
      have hcount : (cs.drop size).length ≤ n := by
        rw [List.length_drop]
        omega
      have hmore : (cs.drop size ++ clause).length ≤ m := by
        rw [List.length_append, List.length_drop]
        omega
      obtain ⟨longer, rest, count, later, hcount, hread, hfollowed, hrest⟩ :=
        ih ((cs.take size).getLast?.or left) hcount hmore
      refine ⟨_ :: longer, rest, count, later, hcount, ?_, hfollowed.cons _, hrest⟩
      rw [hread, List.cons_append]
    · rw [hhere, hthere]
      have hsize : max 1 cs.length = cs.length := max_eq_right hpos
      have hlongSize : max 1 (cs.length + 1) = cs.length + 1 := max_eq_right (by omega)
      have hlast : ((cs ++ clause).take (cs.length + 1)).getLast? = some '\n' := by
        obtain ⟨rest, rfl⟩ := hclause.begins
        rw [List.take_length_add_append]
        exact List.getLast?_concat ..
      dsimp only
      rw [hsize, hlongSize, List.take_length, List.drop_length, readTokens_nil,
        List.drop_append, List.drop_eq_nil_of_le (by omega), Nat.add_sub_cancel_left,
        List.nil_append, List.drop_one, hlast]
      refine ⟨[_], clause.tail, m, _, ?_, rfl, .line hkind [] _ _, .inr ⟨rfl, rfl⟩⟩
      rw [List.length_tail]
      omega

theorem mem_of_mem_readTokens {count : Nat} {left : Option Char} {cs : List Char} {token : Token}
    (h : token ∈ readTokens count left cs) {c : Char} (hc : c ∈ token.text.toList) : c ∈ cs := by
  fun_induction readTokens count left cs with
  | case1 | case2 => cases h
  | case3 count left d rest right kind length hkind read ih =>
    rcases List.mem_cons.1 h with rfl | h
    · rw [String.toList_ofList] at hc
      exact List.mem_of_mem_take hc
    · exact List.mem_of_mem_drop (ih h)

theorem tokenAt_clause (hclause : IsClause clause) (left : Option Char) :
    tokenAt left clause = (.newline, 1) := by
  obtain ⟨rest, rfl⟩ := hclause.begins
  have hquotation : quotation? left (['\n', 'L', 'I'] ++ rest) = none := by
    have hmark : dollarMark? (['\n', 'L', 'I'] ++ rest) = none := rfl
    rw [quotation?_eq, hmark, Option.bind_none, ite_self]
    rfl
  have hrule : firstRule? left (['\n', 'L', 'I'] ++ rest) = some (.newline, 1) := rfl
  rw [tokenAt, hquotation, hrule]
  rfl

/-- One rule makes line comments. -/
theorem rules_lineComment : ∀ rule ∈ rules, (∀ text, rule.kind text ≠ .lineComment) ∨
    rule.pattern = Rule.lineCommentMark.seq Rule.restOfLine := by
  have hword (word : String) : wordKind word ≠ .lineComment := by
    unfold wordKind
    split_ifs <;> exact TokenKind.noConfusion
  simpa [rules, markRules, valueRules, wordRules, Rule.always] using
    .inl fun text => hword (upper text)

theorem Token.IsLexed.reads_lineComment {token : Token} (h : token.IsLexed)
    (hkind : token.kind = .lineComment) :
    (Rule.lineCommentMark.seq Rule.restOfLine).Reads token.text.toList := by
  cases h with
  | quotation h text =>
    dsimp only at hkind
    rw [hkind] at h
    exact absurd h (by decide)
  | unknown text => cases hkind
  | @rule rule hrule cs hreads =>
    rcases rules_lineComment rule hrule with hnot | hpattern
    · exact absurd hkind (hnot _)
    · rwa [hpattern, ← String.toList_ofList (l := cs)] at hreads

/-- What is left of the clause starts with a token that does not trail after a statement. -/
theorem IsFollowed.exists_not_trails (hclause : IsClause clause) {tokens longer : List Token}
    {rest : List Char} (h : IsFollowed clause tokens longer rest) {count : Nat}
    (hcount : rest.length ≤ count) (left : Option Char) :
    ∃ token later, readTokens count left rest = token :: later ∧ ¬Splitting.Trails token := by
  have hbegins := hclause.begins
  cases h with
  | apart =>
    have hne : clause ≠ [] := by
      rintro rfl
      simp at hbegins
    obtain ⟨count, rfl⟩ : ∃ n, count = n + 1 := by
      have hpos := List.length_pos_iff.2 hne
      exact ⟨count - 1, by omega⟩
    rw [readTokens_succ _ _ hne, tokenAt_clause hclause]
    exact ⟨_, _, rfl, by simp [Splitting.Trails]⟩
  | line hkind before short long =>
    obtain ⟨more, rfl⟩ := hbegins
    change ('L' :: 'I' :: more).length ≤ count at hcount
    obtain ⟨count, rfl⟩ : ∃ n, count = n + 1 := by
      rw [List.length_cons] at hcount
      exact ⟨count - 1, by omega⟩
    change ∃ token later, readTokens (count + 1) left ('L' :: 'I' :: more) = token :: later ∧ _
    rw [readTokens_succ _ _ (List.cons_ne_nil _ _)]
    refine ⟨_, _, rfl, ?_⟩
    have hlexed := isLexed_tokenAt left ('L' :: 'I' :: more)
    obtain ⟨size, hsize⟩ : ∃ n, max 1 (tokenAt left ('L' :: 'I' :: more)).2 = n + 1 :=
      ⟨max 1 (tokenAt left ('L' :: 'I' :: more)).2 - 1, by omega⟩
    rw [hsize, List.take_succ_cons] at hlexed ⊢
    generalize (tokenAt left ('L' :: 'I' :: more)).1 = kind at hlexed ⊢
    generalize List.take size ('I' :: more) = letters at hlexed ⊢
    rintro (hkind | hkind)
    · have hblank := hlexed.isBlank (by rw [hkind]; rfl) 'L' (by simp)
      exact absurd hblank (by decide)
    · have hreads := hlexed.reads_lineComment hkind
      rw [String.toList_ofList] at hreads
      exact absurd hreads.mayStart (by decide +kernel)

/-! ### Statements -/

open Splitting

theorem not_isClosedBy_line {kind : TokenKind} (hkind : kind ∈ lineKinds) (text : String)
    (state : Splitting) : ¬state.IsClosedBy ⟨kind, text⟩ := by
  unfold lineKinds at hkind
  rintro (⟨hmark, -⟩ | ⟨-, hbatch⟩)
  · simp only [Token.isMark, Bool.and_eq_true, beq_iff_eq] at hmark
    exact absurd (hmark.1 ▸ hkind) (by decide)
  · simp only [separatesBatches, Bool.and_eq_true, beq_iff_eq] at hbatch
    exact absurd (hbatch.1 ▸ hkind) (by decide)

namespace IsFollowed

variable {tokens longer : List Token} {rest : List Char}

theorem readAll_ended (h : IsFollowed clause tokens longer rest) (state : Splitting) :
    (state.readAll longer).ended = (state.readAll tokens).ended := by
  cases h with
  | apart => rfl
  | line hkind before short long =>
    rw [readAll_append, readAll_append, Bool.eq_iff_iff]
    change ((state.readAll before).read _).ended = true ↔
      ((state.readAll before).read _).ended = true
    rw [read_ended, read_ended, or_iff_left (not_isClosedBy_line hkind long _),
      or_iff_left (not_isClosedBy_line hkind short _)]

theorem continues_iff (h : IsFollowed clause tokens longer rest) (state : Splitting) :
    state.Continues longer ↔ state.Continues tokens := by
  cases h with
  | apart => rfl
  | line hkind before short long =>
    rw [continues_append, continues_append, continues_cons, continues_cons]
    simp only [continues_nil, Trails]

theorem all_isBlank (h : IsFollowed clause tokens longer rest) :
    longer.all (·.kind.isBlank) = tokens.all (·.kind.isBlank) := by
  cases h with
  | apart => rfl
  | line hkind before short long => simp only [List.all_append, List.all_cons]

theorem mem_clause (h : IsFollowed clause tokens longer rest) {c : Char} (hc : c ∈ rest) :
    c ∈ clause := by
  cases h with
  | apart => exact hc
  | line => exact List.mem_of_mem_tail hc

end IsFollowed

/-- With a clause after it, a text that is one statement is still one statement just if nothing in it
completes that. -/
theorem statements_append (hclause : IsClause clause) {text : String}
    (hsingle : statements (tokenize text) = [tokenize text]) :
    statements (tokenize (text ++ String.ofList clause)) =
        [tokenize (text ++ String.ofList clause)] ↔ ¬Closes (tokenize text) := by
  have htext : (text ++ String.ofList clause).toList = text.toList ++ clause := by simp
  obtain ⟨longer, rest, count, left, hcount, hread, hfollowed, -⟩ :=
    readTokens_append hclause none le_rfl le_rfl
  change IsFollowed clause (tokenize text) longer rest at hfollowed
  obtain ⟨token, later, htail, htrails⟩ := hfollowed.exists_not_trails hclause hcount left
  have htokens : tokenize (text ++ String.ofList clause) = longer ++ token :: later := by
    rw [tokenize, htext, hread, htail]
  obtain ⟨hcontinues, hblank⟩ := statements_eq_self.1 hsingle
  rw [statements_eq_self, htokens, continues_append, hfollowed.continues_iff, List.all_append,
    hfollowed.all_isBlank, hblank, ← readAll_start_ended, Bool.not_eq_true]
  constructor
  · rintro ⟨⟨-, hclauseContinues⟩, -⟩
    rw [← hfollowed.readAll_ended, ← Bool.not_eq_true]
    exact fun hended => htrails ((continues_cons.1 hclauseContinues).1 hended)
  · intro hended
    refine ⟨⟨hcontinues, continues_of_not_isClosedBy ?_ ?_⟩, rfl⟩
    · rw [hfollowed.readAll_ended, hended]
    · -- The clause has none of the characters of a token that completes a statement.
      intro closing hclosing state hclosed
      rw [← htail] at hclosing
      have hmem : ∀ c ∈ closing.text.toList, c ∈ clause := fun c hc =>
        hfollowed.mem_clause (mem_of_mem_readTokens hclosing hc)
      obtain ⟨c, hc, rfl | rfl⟩ := hclosed.exists_mem
      · exact hclause.not_mem (by decide) (hmem _ hc)
      · exact hclause.not_mem (by decide) (hmem _ hc)

end

/-! ### Limits -/

theorem mem_toString_int {n : Int} {c : Char} (hc : c ∈ (toString n).toList) :
    c = '-' ∨ c.isDigit = true := by
  have hnat : ∀ n : Nat, ∀ c ∈ n.repr.toList, c.isDigit = true := by
    intro n c hc
    rw [Nat.toList_repr] at hc
    exact Nat.isDigit_of_mem_toDigits (by decide) (by decide) hc
  cases n with
  | ofNat n => exact .inr (hnat n c hc)
  | negSucc n =>
    change c ∈ ("-" ++ (n + 1).repr).toList at hc
    rw [String.toList_append, List.mem_append] at hc
    rcases hc with hc | hc
    · exact .inl (by simpa using hc)
    · exact .inr (hnat _ c hc)

theorem isClause_limit (maxRows : Int) : IsClause ("\nLIMIT " ++ toString maxRows).toList where
  begins := by
    rw [String.toList_append]
    exact List.prefix_append_of_prefix ⟨['M', 'I', 'T', ' '], rfl⟩
  marks := by
    have hword : "\nLIMIT ".toList.tail <+: Pattern.clauseMarks := by decide
    have hdigit : ∀ k < 10, Char.ofNat (48 + k) ∈ Pattern.clauseMarks := by decide
    intro c hc
    rw [String.toList_append, List.tail_append_of_ne_nil (by decide), List.mem_append] at hc
    rcases hc with hc | hc
    · exact hword.subset hc
    · rcases mem_toString_int hc with rfl | hc
      · decide
      · simp only [Char.isDigit, Bool.and_eq_true, decide_eq_true_eq, ge_iff_le,
          UInt32.le_iff_toNat_le] at hc
        change 48 ≤ c.toNat ∧ c.toNat ≤ 57 at hc
        have hmem := hdigit (c.toNat - 48) (by omega)
        rwa [Nat.add_sub_cancel' hc.1, Char.ofNat_toNat] at hmem

/-- The token says how many rows there may be: a number, or the word for all of them. -/
def Token.IsCount (token : Token) : Prop :=
  token.kind = .integer ∨ token.kind.isKeyword = true ∧ upper token.text = "ALL"

theorem Token.IsCount.not_trails {token : Token} (h : token.IsCount) : ¬Splitting.Trails token := by
  rintro (hkind | hkind) <;> simp [IsCount, hkind, TokenKind.isKeyword] at h

/-- What may become of a text whose rows are bounded. -/
inductive IsBounded (text : String) (maxRows : Int) : String → Prop
  | kept : IsBounded text maxRows text
  /-- A count is replaced that stands before the end of the statement. -/
  | lowered {before after : List Token} {token : Token}
      (htokens : tokenize text = before ++ token :: after) (hcount : token.IsCount)
      (hinside : ¬Splitting.Closes before) :
      IsBounded text maxRows (Token.textOf before ++ toString maxRows ++ Token.textOf after)
  /-- A limit is put after the text. It belongs to the statement just if nothing completes that. -/
  | appended
      (hinside : statements (tokenize (text ++ "\nLIMIT " ++ toString maxRows)) =
          [tokenize (text ++ "\nLIMIT " ++ toString maxRows)] ↔
        ¬Splitting.Closes (tokenize text)) :
      IsBounded text maxRows (text ++ "\nLIMIT " ++ toString maxRows)

theorem lowered?_eq_some {maxRows : Int} {token : Token} {text : String}
    (h : lowered? maxRows token = .ok (some text)) : token.IsCount ∧ text = toString maxRows := by
  unfold lowered? at h
  split at h
  · rename_i hkind
    split at h
    · split at h
      · exact ⟨.inl (beq_iff_eq.1 hkind), (Option.some.inj (Except.ok.inj h)).symm⟩
      · cases h
    · cases h
  · split at h
    · rename_i hword
      rw [Bool.and_eq_true, beq_iff_eq] at hword
      exact ⟨.inr hword, (Option.some.inj (Except.ok.inj h)).symm⟩
    · cases h

theorem lowerFirst_eq_ok {maxRows : Int} {tokens later : List Token}
    (h : lowerFirst maxRows tokens = .ok later) :
    later = tokens ∨ ∃ before token after, tokens = before ++ token :: after ∧ token.IsCount ∧
      later = before ++ { token with text := toString maxRows } :: after := by
  induction tokens generalizing later with
  | nil => exact .inl (Except.ok.inj h).symm
  | cons token rest ih =>
    rw [lowerFirst] at h
    split at h
    · obtain ⟨more, hmore, rfl⟩ := map_eq_ok.1 h
      rcases ih hmore with rfl | ⟨before, count, after, rfl, hcount, rfl⟩
      · exact .inl rfl
      · exact .inr ⟨token :: before, count, after, rfl, hcount, rfl⟩
    · obtain ⟨found, hfound, rfl⟩ := map_eq_ok.1 h
      cases found with
      | none => exact .inl rfl
      | some text =>
        obtain ⟨hcount, rfl⟩ := lowered?_eq_some hfound
        exact .inr ⟨[], token, rest, rfl, hcount, rfl⟩

/-- Where the rows of a text that is one statement are bounded, a count that is lowered belongs to
the statement, and so does a limit that is put after the text, unless the statement is complete. -/
theorem isBounded_of_boundRows {text bounded : String} {maxRows : Int}
    (hsingle : statements (tokenize text) = [tokenize text])
    (h : boundRows text maxRows = .ok bounded) : IsBounded text maxRows bounded := by
  unfold boundRows at h
  dsimp only at h
  split at h
  · obtain rfl := Except.ok.inj h
    split
    · exact .kept
    · have hinside := statements_append (isClause_limit maxRows) hsingle
      rw [String.ofList_toList, ← String.append_assoc] at hinside
      exact .appended hinside
  · rename_i place _
    obtain ⟨later, hlater, rfl⟩ := map_eq_ok.1 h
    have htext := List.take_append_drop (place + 1) (tokenize text)
    rcases lowerFirst_eq_ok hlater with rfl | ⟨between, token, after, hdrop, hcount, rfl⟩
    · rw [htext, textOf_tokenize]
      exact .kept
    · rw [hdrop, ← List.append_assoc] at htext
      have hinside := (statements_eq_self.1 hsingle).1 _ _ _ htext.symm
      have hbounded : IsBounded text maxRows _ := .lowered htext.symm hcount fun hcloses =>
        hcount.not_trails (hinside (Splitting.readAll_start_ended.2 hcloses))
      have hjoin : Token.textOf ((tokenize text).take (place + 1) ++
          (between ++ { token with text := toString maxRows } :: after)) =
          Token.textOf ((tokenize text).take (place + 1) ++ between) ++ toString maxRows ++
            Token.textOf after := by
        simp [Token.textOf, String.append_assoc]
      rwa [hjoin]

end SemanticLayer.Sql
