import SemanticLayer.Proofs.Guard.Confinement
import SemanticLayer.Proofs.Sql.TableList

/-!
No place where a table has to stand is passed over. What a table keyword or the comma of a list of
tables puts is expected at the next token that is no trivia, and that token either leads on to the
places after it, or is a name, or makes every guard refuse the text.
-/

namespace SemanticLayer

open Text Sql

namespace Sql

theorem squeezeBlanks_concat {last : Char} (h : isBlank last = false) (cs : List Char) :
    squeezeBlanks (cs ++ [last]) = squeezeBlanks cs ++ [last] := by
  fun_induction squeezeBlanks cs with
  | case1 => simp [squeezeBlanks, h]
  | case2 c hblank => simp [squeezeBlanks, h, hblank]
  | case3 c hblank => simp [squeezeBlanks, h, hblank]
  | case4 c d rest hblank hnext ih =>
    simp only [List.cons_append] at ih ⊢
    rw [squeezeBlanks, if_pos hblank, if_pos hnext, ih]
  | case5 c d rest hblank hnext ih =>
    simp only [List.cons_append] at ih ⊢
    rw [squeezeBlanks, if_pos hblank, if_neg hnext, ih]
  | case6 c d rest hblank ih =>
    simp only [List.cons_append] at ih ⊢
    rw [squeezeBlanks, if_neg hblank, ih]

/-- A quotation mark at the end of a text stays there when the text is read as a keyword. -/
theorem getLast?_of_isEnclosed {token : Token} {keyword : String}
    (h : token.keyword? = some keyword) (hquoted : isEnclosed '"' token.text.toList = true) :
    keyword.toList.getLast? = some '"' := by
  obtain ⟨-, rfl⟩ := Token.keyword?_eq_some h
  simp only [isEnclosed, Bool.and_eq_true, beq_iff_eq, List.getLast?_eq_some_iff] at hquoted
  obtain ⟨-, cs, hcs⟩ := hquoted
  have hupper : upperChar '"' = ['"'] := by decide
  simp [upper, hcs, hupper, squeezeBlanks_concat (show isBlank '"' = false by decide)]

/-- A keyword that joins tables is no part of a name. -/
theorem Token.isIdentifierPart_of_join {token : Token} {keyword : String}
    (h : token.keyword? = some keyword) (hjoin : keyword.endsWith "JOIN" = true) :
    token.isIdentifierPart = false := by
  have hplain : isEnclosed '"' token.text.toList = false := by
    rw [← Bool.not_eq_true]
    intro hquoted
    have hlast := getLast?_of_isEnclosed h hquoted
    rw [String.endsWith_eq_endsWith_toSlice, String.Slice.endsWith_string_iff,
      String.copy_toSlice] at hjoin
    obtain ⟨front, hfront⟩ := hjoin
    simp [← hfront] at hlast
  obtain ⟨hname, hquoted, -⟩ := isName_of_keyword? h
  simp [isIdentifierPart, h, hname, hquoted, hplain, hjoin]

/-- The words that put a table. -/
theorem exists_keyword_of_put {previous : Option Token} {token : Token} {keyword : String}
    (h : tableKeyword? previous token = some keyword) :
    ∃ word, token.keyword? = some word ∧
      (word.endsWith "JOIN" = true ∨ word ∈ ["UPDATE", "INTO", "TABLE", "FROM"]) := by
  cases hword : token.keyword? with
  | none => simp [tableKeyword?, hword] at h
  | some word =>
    refine ⟨word, rfl, ?_⟩
    by_contra hother
    rw [not_or] at hother
    have hput : (word.endsWith "JOIN" || ["UPDATE", "INTO", "TABLE"].contains word) = false := by
      simp_all
    have hfrom : (word == "FROM") = false := by simp_all
    rw [tableKeyword?_eq_none hword hput hfrom] at h
    cases h

namespace Scan

variable {declared : List String} {scan : Scan} {token : Token} {rest tokens : List Token}
  {place next : Nat} {keyword : String}

/-! ### Putting a table -/

/-- In this state the token is a table keyword, or the comma of a list of tables. -/
inductive Puts (scan : Scan) (token : Token) : String → Prop
  | word {keyword : String} (put : tableKeyword? scan.previous token = some keyword)
      (counts : scan.scope.holdsQuery = true ∨ keyword = "TABLE") : Puts scan token keyword
  | comma (mark : token.isMark "," = true) (lists : scan.scope.listsTables = true) :
      Puts scan token "FROM"

/-- The token at the place is read as one that puts a table after it. -/
def PutsTable (tokens : List Token) (place : Nat) (keyword : String) : Prop :=
  (reach tokens place).skip = 0 ∧
    ∃ token, tokens[place]? = some token ∧ (reach tokens place).Puts token keyword

/-- A table that the keyword puts is expected at the place. -/
def Expects (tokens : List Token) (place : Nat) (keyword : String) : Prop :=
  (reach tokens place).skip = 0 ∧ (reach tokens place).expecting = true ∧
    (reach tokens place).keyword = keyword

/-- What puts a table is never taken for one. -/
theorem Puts.not_table (h : scan.Puts token keyword) :
    token.isTrivia = false ∧ token.isMark "(" = false ∧ token.isKeywordOf tableModifiers = false ∧
      token.isIdentifierPart = false := by
  cases h with
  | comma mark _ =>
    refine ⟨Token.isTrivia_of_isMark mark, ?_, ?_, Token.isIdentifierPart_of_isMark mark (by decide)⟩
    · simp [Token.isMark, (Token.isMark_iff.1 mark).2]
    · simp [Token.isKeywordOf, Token.keyword?_of_isMark mark]
  | word put _ =>
    obtain ⟨word, hword, hjoin | hmem⟩ := exists_keyword_of_put put
    · refine ⟨Token.isTrivia_of_keyword? hword, Token.isMark_of_keyword? hword _, ?_,
        Token.isIdentifierPart_of_join hword hjoin⟩
      have hmodifiers : ∀ word ∈ tableModifiers, word.endsWith "JOIN" = false := by decide +kernel
      rw [← Bool.not_eq_true, Token.isKeywordOf_of_keyword? hword, List.contains_iff_mem]
      intro hmem
      simp [hmodifiers word hmem] at hjoin
    · have hwords : ∀ word ∈ ["UPDATE", "INTO", "TABLE", "FROM"],
          word ∈ structuralKeywords ∧ tableModifiers.contains word = false := by decide
      obtain ⟨hstructural, hmodifier⟩ := hwords word hmem
      exact ⟨Token.isTrivia_of_keyword? hword, Token.isMark_of_keyword? hword _,
        (Token.isKeywordOf_of_keyword? hword _).trans hmodifier,
        Token.isIdentifierPart_of_structural hword hstructural⟩

theorem Puts.readToken (h : scan.Puts token keyword) (rest : List Token) :
    (scan.readToken token rest).expecting = true ∧
      (scan.readToken token rest).keyword = keyword := by
  cases h with
  | word put counts =>
    obtain ⟨word, hword, -⟩ := exists_keyword_of_put put
    rw [readToken_keyword hword, put]
    simp [counts]
  | comma mark lists =>
    have hclose : token.isMark ")" = false := by
      simp [Token.isMark, (Token.isMark_iff.1 mark).2]
    have hnone : tableKeyword? scan.previous token = none := by
      simp [tableKeyword?, Token.keyword?_of_isMark mark]
    rw [Scan.readToken, (Puts.comma mark lists).not_table.2.1, hclose, hnone, if_neg (by simp),
      if_neg (by simp)]
    simp [readListToken, lists, mark]

/-- What is put waits through the trivia. -/
theorem expects_of_trivia (h : Expects tokens place keyword) (hnext : IsNext tokens place next token) :
    Expects tokens next keyword := by
  obtain ⟨hskip, hexpecting, hkeyword⟩ := h
  obtain ⟨position, hreach⟩ := reach_of_trivia hskip hnext.le hnext.trivia
  rw [Expects, hreach]
  exact ⟨hskip, hexpecting, hkeyword⟩

theorem expects_of_putsTable (h : PutsTable tokens place keyword) :
    Expects tokens (place + 1) keyword := by
  obtain ⟨hskip, token, htoken, hputs⟩ := h
  obtain ⟨htrivia, hopen, hmodifier, hpart⟩ := hputs.not_table
  -- What is expected at the place itself does not decide how the token is read.
  have hcalm : Puts { reach tokens place with expecting := false } token keyword := by
    cases hputs with
    | word put counts => exact .word put counts
    | comma mark lists => exact .comma mark lists
  obtain ⟨hexpecting, hkeyword⟩ := hcalm.readToken (tokens.drop (place + 1))
  rw [Expects, reach_succ htoken, step_of_other hskip htrivia hopen hmodifier hpart]
  exact ⟨readToken_frame.2.1.trans hskip, hexpecting, hkeyword⟩

/-! ### What becomes of the place -/

/-- What a token is where a table is expected. -/
inductive Outcome where
  /-- It opens a parenthesis. -/
  | group
  /-- It may stand before a table. -/
  | modifier
  /-- It begins a name. -/
  | name
  /-- It cannot be read as a table. -/
  | unreadable
  deriving DecidableEq, Repr

end Scan

/-- What the token is where a table is expected. -/
def Token.outcome (token : Token) : Scan.Outcome :=
  if token.isMark "(" then .group
  else if token.isKeywordOf tableModifiers then .modifier
  else if token.isIdentifierPart then .name
  else .unreadable

namespace Scan

variable {declared : List String} {scan : Scan} {token : Token} {rest tokens : List Token}
  {place next : Nat} {keyword : String}

/-- The one token is the name of a common table expression. -/
def IsDeclared (tokens : List Token) (place : Nat) (token : Token) : Prop :=
  moreParts (tokens.drop (place + 1)) = [] ∧ lower (unquote token.text) ∈ cteNames tokens

/-- What happens at a place where a table that the keyword puts is expected. -/
def Outcome.Holds (tokens : List Token) (place : Nat) (token : Token) (keyword : String) :
    Outcome → Prop
  | .group =>
    token.isMark "(" = true ∧
      ∀ next inner, IsNext tokens (place + 1) next inner →
        if inner.startsQuery then (reach tokens next).expecting = false
        else Expects tokens next keyword
  | .modifier =>
    token.isKeywordOf tableModifiers = true ∧
      ∀ next inner, IsNext tokens (place + 1) next inner → Expects tokens next keyword
  | .name =>
    token.isIdentifierPart = true ∧
      ((∃ r ∈ tableReferences tokens, r.start = place ∧ r.keyword = keyword ∧ r.resolvable = true) ↔
        ¬ (IsDeclared tokens place token ∨ token.opensUnnest (tokens.drop (place + 1)) = true))
  | .unreadable =>
    (∃ r ∈ tableReferences tokens, r.start = place ∧ r.stop = place + 1 ∧
      r.keyword = keyword ∧ r.identifier = token.text ∧ r.resolvable = false) ∧
      ∀ guard : Guard, ∃ report, guard.confineTokens tokens = .error report

/-- The references that start at a place are those found with its token. -/
theorem mem_step_iff {r : TableReference} (hfound : tokens[place]? = some token) :
    r ∈ ((reach tokens place).step (cteNames tokens) token (tokens.drop (place + 1))).1 ↔
      r ∈ tableReferences tokens ∧ r.start = place := by
  obtain ⟨hlt, -⟩ := List.getElem?_eq_some_iff.1 hfound
  have hmem := mem_run_reach tokens r 0
  constructor
  · intro h
    exact ⟨hmem.2 ⟨place, token, Nat.zero_le _, hfound, h⟩,
      (start_of_mem_step h).trans (position_reach (by omega))⟩
  · rintro ⟨h, hstart⟩
    obtain ⟨later, other, -, hlater, hstep⟩ := hmem.1 h
    obtain ⟨hlaterLt, -⟩ := List.getElem?_eq_some_iff.1 hlater
    obtain rfl : later = place := by
      rw [← hstart, start_of_mem_step hstep, position_reach (by omega)]
    obtain rfl := Option.some.inj (hfound.symm.trans hlater)
    exact hstep

theorem readReference_fields {start : Nat} {r : TableReference}
    (h : (readReference declared keyword start token rest).1 = some r) :
    r.keyword = keyword ∧ r.resolvable = true := by
  unfold readReference at h
  dsimp only at h
  split at h
  · cases h
  split at h
  · cases h
  · cases h
    exact ⟨rfl, rfl⟩

/-- A reference that names no table makes every guard refuse the tokens. -/
theorem exists_report_of_unresolvable {r : TableReference} (hr : r ∈ tableReferences tokens)
    (hnone : r.resolvable = false) (guard : Guard) :
    ∃ report, guard.confineTokens tokens = .error report := by
  cases hconfine : guard.confineTokens tokens with
  | error report => exact ⟨report, rfl⟩
  | ok text =>
    obtain ⟨name, hresolves⟩ := (Guard.confineTokens_eq_ok hconfine).exists_name r hr
    exact absurd (hnone.symm.trans hresolves.1) (by simp)

section Cases

variable (hexpects : Expects tokens place keyword) (hfound : tokens[place]? = some token)
  (hsignificant : token.isTrivia = false)

include hexpects hfound hsignificant

theorem holds_group (hopen : token.isMark "(" = true) :
    Outcome.group.Holds tokens place token keyword := by
  obtain ⟨hskip, hexpecting, hkeyword⟩ := hexpects
  refine ⟨hopen, fun next inner hnext => ?_⟩
  have hfollows : follows (tokens.drop (place + 1)) (fun inner => !inner.startsQuery) =
      !inner.startsQuery := by
    simp [follows, hnext.skipTrivia_drop]
  have hinside : (reach tokens (place + 1)).skip = 0 ∧
      (reach tokens (place + 1)).expecting = (!inner.startsQuery) ∧
      (reach tokens (place + 1)).keyword = keyword := by
    rw [reach_succ hfound, step_of_expecting hskip hsignificant hexpecting, readTable, hopen,
      hfollows]
    exact ⟨hskip, rfl, hkeyword⟩
  obtain ⟨hskipInside, hexpectingInside, hkeywordInside⟩ := hinside
  cases hquery : inner.startsQuery with
  | true =>
    obtain ⟨position, hreach⟩ := reach_of_trivia hskipInside hnext.le hnext.trivia
    rw [if_pos rfl, hreach]
    simpa [hquery] using hexpectingInside
  | false =>
    rw [if_neg (by simp)]
    exact expects_of_trivia ⟨hskipInside, by simpa [hquery] using hexpectingInside, hkeywordInside⟩
      hnext

theorem holds_modifier (hmodifier : token.isKeywordOf tableModifiers = true) :
    Outcome.modifier.Holds tokens place token keyword := by
  obtain ⟨hskip, hexpecting, hkeyword⟩ := hexpects
  obtain ⟨word, -, hword⟩ := Token.isKeywordOf_iff.1 hmodifier
  refine ⟨hmodifier, fun next inner hnext => expects_of_trivia ?_ hnext⟩
  rw [Expects, reach_succ hfound, step_of_expecting hskip hsignificant hexpecting, readTable,
    Token.isMark_of_keyword? hword, if_neg (by simp), if_pos hmodifier]
  exact ⟨hskip, hexpecting, hkeyword⟩

theorem holds_name (hpart : token.isIdentifierPart = true) :
    Outcome.name.Holds tokens place token keyword := by
  have hreads : Reads tokens place token :=
    ⟨hfound, hexpects.1, hsignificant, hexpects.2.1, hpart⟩
  refine ⟨hpart, ?_⟩
  have hexists := exists_reference_of_part hfound hsignificant hpart
  constructor
  · rintro ⟨r, hr, hstart, -⟩ hleft
    obtain ⟨-, hplain, hdeclared⟩ := hexists.1 ⟨r, hr, hstart⟩
    rcases hleft with ⟨hsingle, hmem⟩ | hunnest
    · exact hdeclared hsingle hmem
    · simp [hplain] at hunnest
  · intro hleft
    rw [not_or] at hleft
    obtain ⟨r, hr, hstart⟩ := hexists.2
      ⟨hreads, by simpa using hleft.2, fun hsingle hmem => hleft.1 ⟨hsingle, hmem⟩⟩
    have hmem := (mem_step_iff hfound).2 ⟨hr, hstart⟩
    rw [hreads.step_eq, Option.mem_toList] at hmem
    obtain ⟨hkeyword, hresolvable⟩ := readReference_fields hmem
    exact ⟨r, hr, hstart, hkeyword.trans hexpects.2.2, hresolvable⟩

/-- What is found at the place when nothing there can be read as a table. -/
theorem holds_unreadable (hopen : token.isMark "(" = false)
    (hmodifier : token.isKeywordOf tableModifiers = false)
    (hpart : token.isIdentifierPart = false) :
    Outcome.unreadable.Holds tokens place token keyword := by
  obtain ⟨hskip, hexpecting, hkeyword⟩ := hexpects
  obtain ⟨hlt, -⟩ := List.getElem?_eq_some_iff.1 hfound
  have hmem : ⟨keyword, token.text, none, place, place + 1, false⟩ ∈
      ((reach tokens place).step (cteNames tokens) token (tokens.drop (place + 1))).1 := by
    rw [step_of_expecting hskip hsignificant hexpecting, readTable, hopen, hmodifier, hpart,
      if_neg (by simp), if_neg (by simp), if_neg (by simp), position_reach (by omega), hkeyword]
    exact List.mem_singleton_self _
  obtain ⟨hr, -⟩ := (mem_step_iff hfound).1 hmem
  exact ⟨⟨_, hr, rfl, rfl, rfl, rfl, rfl⟩, exists_report_of_unresolvable hr rfl⟩

/-- Only a token that cannot be read as a table has a reference that names none. -/
theorem not_table_of_unresolvable {r : TableReference} (hr : r ∈ tableReferences tokens)
    (hstart : r.start = place) (hnone : r.resolvable = false) :
    token.isMark "(" = false ∧ token.isKeywordOf tableModifiers = false ∧
      token.isIdentifierPart = false := by
  obtain ⟨hskip, hexpecting, -⟩ := hexpects
  have hmem := (mem_step_iff hfound).2 ⟨hr, hstart⟩
  rw [step_of_expecting hskip hsignificant hexpecting, readTable] at hmem
  dsimp only at hmem
  split at hmem
  · cases hmem
  split at hmem
  · cases hmem
  split at hmem
  · rw [Option.mem_toList] at hmem
    simp [(readReference_fields hmem).2] at hnone
  · simp_all

theorem holds_outcome : token.outcome.Holds tokens place token keyword := by
  unfold Token.outcome
  split
  · exact holds_group hexpects hfound hsignificant ‹_›
  split
  · exact holds_modifier hexpects hfound hsignificant ‹_›
  split
  · exact holds_name hexpects hfound hsignificant ‹_›
  · exact holds_unreadable hexpects hfound hsignificant (by simpa using ‹¬ token.isMark "(" = true›)
      (by simpa using ‹¬ token.isKeywordOf tableModifiers = true›)
      (by simpa using ‹¬ token.isIdentifierPart = true›)

theorem eq_outcome {outcome : Outcome} (h : outcome.Holds tokens place token keyword) :
    outcome = token.outcome := by
  cases outcome with
  | group => rw [Token.outcome, if_pos h.1]
  | modifier =>
    obtain ⟨word, -, hword⟩ := Token.isKeywordOf_iff.1 h.1
    rw [Token.outcome, Token.isMark_of_keyword? hword, if_neg (by simp), if_pos h.1]
  | name =>
    rw [Token.outcome, (Token.standsInName_of_isIdentifierPart h.1).notOpen,
      Token.isKeywordOf_modifiers h.1, if_neg (by simp), if_neg (by simp), if_pos h.1]
  | unreadable =>
    obtain ⟨⟨r, hr, hstart, -, -, -, hnone⟩, -⟩ := h
    obtain ⟨hopen, hmodifier, hpart⟩ :=
      not_table_of_unresolvable hexpects hfound hsignificant hr hstart hnone
    rw [Token.outcome, hopen, hmodifier, hpart, if_neg (by simp), if_neg (by simp),
      if_neg (by simp)]

end Cases

end Scan

open Scan

/-- The next token after one that puts a table is visited as the place of that table, and exactly one
of four things happens there: a parenthesis opens or a modifier stands there, and the table is
expected at the next token unless a query begins there; a name stands there, which has a reference
unless it is declared or that of the array function; or the token has a reference that names no
table, so that every guard refuses the text. -/
theorem table_place_is_settled {tokens : List Token} {place next : Nat} {token : Token}
    {keyword : String} (hputs : PutsTable tokens place keyword)
    (hnext : IsNext tokens (place + 1) next token) :
    Expects tokens next keyword ∧
      ∃! outcome : Outcome, outcome.Holds tokens next token keyword := by
  have hexpects : Expects tokens next keyword :=
    expects_of_trivia (expects_of_putsTable hputs) hnext
  exact ⟨hexpects, token.outcome, holds_outcome hexpects hnext.found hnext.significant,
    fun _ h => eq_outcome hexpects hnext.found hnext.significant h⟩

/-- `SELECT * FROM (orders JOIN 7)`. -/
def numberQuery : List Token :=
  [⟨.manipulation, "SELECT"⟩, ⟨.wildcard, "*"⟩, ⟨.keyword, "FROM"⟩, ⟨.whitespace, " "⟩,
    ⟨.punctuation, "("⟩, ⟨.name, "orders"⟩, ⟨.keyword, "JOIN"⟩, ⟨.integer, "7"⟩,
    ⟨.punctuation, ")"⟩]

/-- A parenthesis after a word and a number after another, in one text. -/
theorem table_place_is_settled_number :
    (PutsTable numberQuery 2 "FROM" ∧ IsNext numberQuery 3 4 ⟨.punctuation, "("⟩ ∧
      Expects numberQuery 4 "FROM" ∧
      ∃! outcome : Outcome, outcome.Holds numberQuery 4 ⟨.punctuation, "("⟩ "FROM") ∧
    PutsTable numberQuery 6 "JOIN" ∧ IsNext numberQuery 7 7 ⟨.integer, "7"⟩ ∧
      Expects numberQuery 7 "JOIN" ∧
      ∃! outcome : Outcome, outcome.Holds numberQuery 7 ⟨.integer, "7"⟩ "JOIN" := by
  have hfrom : PutsTable numberQuery 2 "FROM" :=
    ⟨by decide +kernel, _, rfl, .word (by decide +kernel) (by decide +kernel)⟩
  have hopen : IsNext numberQuery 3 4 ⟨.punctuation, "("⟩ := by decide +kernel
  have hjoin : PutsTable numberQuery 6 "JOIN" :=
    ⟨by decide +kernel, _, rfl, .word (by decide +kernel) (by decide +kernel)⟩
  have hnumber : IsNext numberQuery 7 7 ⟨.integer, "7"⟩ := by decide +kernel
  exact ⟨⟨hfrom, hopen, table_place_is_settled hfrom hopen⟩,
    hjoin, hnumber, table_place_is_settled hjoin hnumber⟩

end Sql

end SemanticLayer
