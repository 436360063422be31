import Mathlib.Data.List.TakeWhile
import SemanticLayer.Sql.Reference

/-!
What the names of tables and the tokens around them consist of: which tokens are parts of names,
what is read along with a name, and where a name has no reference.
-/

namespace SemanticLayer.Sql

open Text

deriving instance ReflBEq, LawfulBEq for TokenKind

/-! ### Tokens -/

namespace Token

variable {token : Token}

theorem isMark_iff {mark : String} :
    token.isMark mark = true ↔ token.kind = .punctuation ∧ token.text = mark := by
  simp [isMark]

theorem keyword?_of_isMark {mark : String} (h : token.isMark mark = true) :
    token.keyword? = none := by
  simp [keyword?, (isMark_iff.1 h).1, TokenKind.isKeyword]

theorem isTrivia_of_isMark {mark : String} (h : token.isMark mark = true) :
    token.isTrivia = false := by
  rw [isTrivia, (isMark_iff.1 h).1]
  rfl

/-- A mark that does not look quoted is no part of a name. -/
theorem isIdentifierPart_of_isMark {mark : String} (h : token.isMark mark = true)
    (hplain : isEnclosed '"' mark.toList = false) : token.isIdentifierPart = false := by
  obtain ⟨hkind, htext⟩ := isMark_iff.1 h
  simp [isIdentifierPart, keyword?_of_isMark h, hkind, htext, hplain, TokenKind.isName]

theorem keyword?_eq_some {keyword : String} (h : token.keyword? = some keyword) :
    token.kind.isKeyword = true ∧
      keyword = String.ofList (squeezeBlanks (upper token.text).toList) := by
  unfold keyword? at h
  split at h
  · rename_i hkind
    exact ⟨hkind, (Option.some.inj h).symm⟩
  · cases h

theorem exists_keyword? (h : token.kind.isKeyword = true) :
    ∃ keyword, token.keyword? = some keyword := by
  rw [keyword?, if_pos h]
  exact ⟨_, rfl⟩

theorem isTrivia_of_keyword? {keyword : String} (h : token.keyword? = some keyword) :
    token.isTrivia = false := by
  have hkind := (keyword?_eq_some h).1
  unfold isTrivia
  cases hcase : token.kind <;> first | rfl | simp [hcase, TokenKind.isKeyword] at hkind

theorem keyword?_of_isTrivia (h : token.isTrivia = true) :
    token.keyword? = none := by
  cases hkeyword : token.keyword? with
  | none => rfl
  | some keyword =>
    rw [isTrivia_of_keyword? hkeyword] at h
    cases h

theorem isMark_of_isTrivia (h : token.isTrivia = true) (mark : String) :
    token.isMark mark = false := by
  rw [← Bool.not_eq_true]
  intro hmark
  rw [isTrivia_of_isMark hmark] at h
  cases h

theorem isName_of_keyword? {keyword : String} (h : token.keyword? = some keyword) :
    token.kind.isName = false ∧ token.kind ≠ .quotedName ∧ token.kind ≠ .punctuation := by
  have hkind := (keyword?_eq_some h).1
  cases hcase : token.kind <;> simp [hcase, TokenKind.isKeyword, TokenKind.isName] at hkind ⊢

theorem isMark_of_keyword? {keyword : String} (h : token.keyword? = some keyword) (mark : String) :
    token.isMark mark = false := by
  rw [← Bool.not_eq_true, isMark_iff]
  exact fun hmark => (isName_of_keyword? h).2.2 hmark.1

end Token

theorem head?_squeezeBlanks {c : Char} {cs : List Char} (h : isBlank c = false) :
    (squeezeBlanks (c :: cs)).head? = some c := by
  cases cs <;> simp [squeezeBlanks, h]

/-- A quotation mark at the head of a text stays there when the text is read as a keyword. -/
theorem head?_of_isEnclosed {token : Token} {keyword : String}
    (h : token.keyword? = some keyword) (hquoted : isEnclosed '"' token.text.toList = true) :
    keyword.toList.head? = some '"' := by
  obtain ⟨-, rfl⟩ := Token.keyword?_eq_some h
  unfold isEnclosed at hquoted
  cases hcs : token.text.toList with
  | nil => simp [hcs] at hquoted
  | cons c cs =>
    obtain rfl : c = '"' := by
      simp [hcs] at hquoted
      exact hquoted.1.2
    have hupper : upperChar '"' = ['"'] := by decide
    simp [upper, hcs, hupper, head?_squeezeBlanks (show isBlank '"' = false by decide)]

/-- A keyword that ends names is no part of one. -/
theorem Token.isIdentifierPart_of_structural {token : Token} {keyword : String}
    (h : token.keyword? = some keyword) (hstructural : keyword ∈ structuralKeywords) :
    token.isIdentifierPart = false := by
  have hplain : isEnclosed '"' token.text.toList = false := by
    rw [← Bool.not_eq_true]
    intro hquoted
    have hhead := head?_of_isEnclosed h hquoted
    revert hhead
    have hnone : ∀ other ∈ structuralKeywords, other.toList.head? ≠ some '"' := by decide
    exact hnone keyword hstructural
  obtain ⟨hname, hquotedName, -⟩ := isName_of_keyword? h
  simp [isIdentifierPart, h, hname, hquotedName, hplain, hstructural]

theorem Token.isKeywordOf_iff {token : Token} {keywords : List String} :
    token.isKeywordOf keywords = true ↔ ∃ keyword ∈ keywords, token.keyword? = some keyword := by
  unfold isKeywordOf
  cases token.keyword? <;> simp

theorem Token.isKeywordOf_of_keyword? {token : Token} {keyword : String}
    (h : token.keyword? = some keyword) (keywords : List String) :
    token.isKeywordOf keywords = keywords.contains keyword := by
  rw [isKeywordOf, h, Option.any_some]

/-- A part of a name may not stand between a table keyword and the table. -/
theorem Token.isKeywordOf_modifiers {token : Token} (h : token.isIdentifierPart = true) :
    token.isKeywordOf tableModifiers = false := by
  rw [← Bool.not_eq_true, isKeywordOf_iff]
  rintro ⟨keyword, hmem, hkeyword⟩
  have hstructural : ∀ keyword ∈ tableModifiers, keyword ∈ structuralKeywords := by decide
  rw [isIdentifierPart_of_structural hkeyword (hstructural keyword hmem)] at h
  cases h

theorem tableKeyword?_eq_none {token : Token} {keyword : String} {previous : Option Token}
    (hkeyword : token.keyword? = some keyword)
    (hput : (keyword.endsWith "JOIN" || ["UPDATE", "INTO", "TABLE"].contains keyword) = false)
    (hfrom : (keyword == "FROM") = false) : tableKeyword? previous token = none := by
  unfold tableKeyword?
  rw [hkeyword]
  dsimp only
  rw [hput, hfrom, if_neg (by simp), if_neg (by simp)]

/-! ### Names -/

theorem mem_of_moreParts {tokens : List Token} {token : Token}
    (h : token ∈ tokens.take (2 * (moreParts tokens).length)) :
    token.isNameSeparator = true ∨ token.isIdentifierPart = true := by
  induction tokens using moreParts.induct with
  | case1 separator part rest hparts ih =>
    rw [moreParts, if_pos hparts, List.length_cons, Nat.mul_add_one, List.take_succ_cons,
      List.take_succ_cons, List.mem_cons, List.mem_cons] at h
    rw [Bool.and_eq_true] at hparts
    rcases h with rfl | rfl | h
    · exact .inl hparts.1
    · exact .inr hparts.2
    · exact ih h
  | case2 separator part rest hparts => simp [moreParts, hparts] at h
  | case3 tokens hparts => simp [moreParts] at h

/-- A parenthesis ends a name. -/
theorem moreParts_of_parenthesis {tokens : List Token}
    (h : tokens.head?.any (·.isMark "(") = true) : moreParts tokens = [] := by
  match tokens with
  | [] => rfl
  | [_] => rfl
  | separator :: part :: rest =>
    obtain ⟨hkind, htext⟩ := Token.isMark_iff.1 (show separator.isMark "(" = true by simpa using h)
    have hseparator : separator.isNameSeparator = false := by
      simp [Token.isNameSeparator, Token.isMark, hkind, htext, TokenKind.isOperator]
    simp [moreParts, hseparator]

theorem mem_foldl_append {c : Char} (parts : List String) (s : String)
    (h : c ∈ s.toList ∨ ∃ part ∈ parts, c ∈ part.toList) :
    c ∈ (parts.foldl (· ++ ·) s).toList := by
  induction parts generalizing s with
  | nil => simpa using h
  | cons part rest ih =>
    apply ih
    rw [String.toList_append, List.mem_append]
    rcases h with h | ⟨other, hother, h⟩
    · exact .inl (.inl h)
    · rcases List.mem_cons.1 hother with rfl | hother
      · exact .inl (.inr h)
      · exact .inr ⟨other, hother, h⟩

theorem exists_separator {tokens : List Token} (h : moreParts tokens ≠ []) :
    ∃ c, (c = '.' ∨ c = '-') ∧ ∃ part ∈ moreParts tokens, c ∈ part.toList := by
  match tokens, h with
  | separator :: part :: rest, h =>
    unfold moreParts at h ⊢
    split at h
    · rename_i hparts
      rw [if_pos hparts]
      rw [Bool.and_eq_true, Token.isNameSeparator, Bool.or_eq_true, Token.isMark_iff,
        Bool.and_eq_true, beq_iff_eq] at hparts
      rcases hparts.1 with ⟨-, htext⟩ | ⟨-, htext⟩
      · exact ⟨'.', .inl rfl, _, List.mem_cons_self, by simp [htext]⟩
      · exact ⟨'-', .inr rfl, _, List.mem_cons_self, by simp [htext]⟩
    · exact absurd rfl h

/-- A name of several parts is not the name of the array function. -/
theorem upper_ne_unnest {tokens : List Token} (s : String) (h : moreParts tokens ≠ []) :
    upper ((moreParts tokens).foldl (· ++ ·) s) ≠ "UNNEST" := by
  intro hunnest
  obtain ⟨c, hc, hpart⟩ := exists_separator h
  have hmem := mem_foldl_append _ s (.inr hpart)
  have hupper : c ∈ (upper ((moreParts tokens).foldl (· ++ ·) s)).toList := by
    rw [upper, String.toList_ofList, List.mem_flatMap]
    refine ⟨c, hmem, ?_⟩
    rcases hc with rfl | rfl <;> decide
  rw [hunnest] at hupper
  rcases hc with rfl | rfl <;> revert hupper <;> decide

/-! ### Aliases -/

theorem exists_lead (tokens : List Token) :
    ∃ lead, tokens = lead ++ skipTrivia tokens ∧ ∀ token ∈ lead, token.isTrivia = true :=
  ⟨tokens.takeWhile Token.isTrivia, List.takeWhile_append_dropWhile.symm,
    fun _ h => List.mem_takeWhile_imp h⟩

/-- What stands before an alias: trivia and at most the word `AS`. -/
theorem exists_aliasLead (tokens : List Token) :
    ∃ lead, tokens = lead ++
        (if (skipTrivia tokens).head?.any (·.isKeywordOf ["AS"]) then
          skipTrivia ((skipTrivia tokens).drop 1)
        else skipTrivia tokens) ∧
      ∀ token ∈ lead, token.isTrivia = true ∨ token.keyword? = some "AS" := by
  obtain ⟨front, htokens, hfront⟩ := exists_lead tokens
  split
  · rename_i has
    cases hrest : skipTrivia tokens with
    | nil => simp [hrest] at has
    | cons word rest =>
      obtain ⟨back, hback, htrivia⟩ := exists_lead rest
      have hword : word.keyword? = some "AS" := by
        simpa [hrest, Token.isKeywordOf_iff] using has
      refine ⟨front ++ word :: back, ?_, ?_⟩
      · rw [List.drop_one, List.tail_cons, List.append_assoc, List.cons_append, ← hback, ← hrest]
        exact htokens
      · intro token htoken
        rcases List.mem_append.1 htoken with htoken | htoken
        · exact .inl (hfront token htoken)
        · rcases List.mem_cons.1 htoken with rfl | htoken
          · exact .inr hword
          · exact .inl (htrivia token htoken)
  · exact ⟨front, htokens, fun token htoken => .inl (hfront token htoken)⟩

theorem aliasAt?_eq_some {tokens : List Token} {name : String} {size : Nat}
    (h : aliasAt? tokens = some (name, size)) :
    ∀ token ∈ tokens.take size,
      token.isTrivia = true ∨ token.keyword? = some "AS" ∨ token.kind.isName = true := by
  obtain ⟨lead, htokens, hlead⟩ := exists_aliasLead tokens
  unfold aliasAt? at h
  dsimp only at h
  split at h
  · rename_i last after hrest
    rw [hrest] at htokens
    split at h
    · rename_i hname
      obtain ⟨-, rfl⟩ := Prod.mk.inj (Option.some.inj h)
      have hsplit : tokens = (lead ++ [last]) ++ after := by
        rw [List.append_assoc]
        exact htokens
      have hsize : tokens.length - after.length = (lead ++ [last]).length := by
        rw [hsplit, List.length_append]
        omega
      intro token htoken
      rw [hsize, hsplit, List.take_left, List.mem_append] at htoken
      rcases htoken with htoken | htoken
      · exact (hlead token htoken).imp_right .inl
      · rw [List.mem_singleton.1 htoken]
        exact .inr (.inr hname)
    · cases h
  · cases h

/-! ### Reading -/

/-- Whether the token is the name of the array function, directly before its arguments. -/
def Token.opensUnnest (token : Token) (rest : List Token) : Bool :=
  rest.head?.any (·.isMark "(") && upper (unquote token.text) == "UNNEST"

theorem Token.exists_of_opensUnnest {token : Token} {rest : List Token}
    (h : token.opensUnnest rest = true) :
    ∃ mark after, rest = mark :: after ∧ mark.isMark "(" = true := by
  cases rest with
  | nil => simp [opensUnnest] at h
  | cons mark after =>
    rw [opensUnnest, Bool.and_eq_true] at h
    exact ⟨mark, after, rfl, by simpa using h.1⟩

/-- The number of tokens of a name and of the alias after it, `rest` being what follows the first
token. -/
def nameLength (rest : List Token) : Nat :=
  1 + 2 * (moreParts rest).length +
    ((aliasAt? (rest.drop (2 * (moreParts rest).length))).map Prod.snd).getD 0

theorem readReference_unnest {declared : List String} {keyword : String} {start : Nat}
    {token : Token} {rest : List Token} (h : token.opensUnnest rest = true) :
    readReference declared keyword start token rest = (none, 1 + groupLength 0 rest) := by
  rw [Token.opensUnnest, Bool.and_eq_true] at h
  simp [readReference, moreParts_of_parenthesis h.1, h.1, h.2]

/-- Except for the array function, what is read is a name with its alias, and all names but single
declared ones have a reference. -/
theorem readReference_name {declared : List String} {keyword : String} {start : Nat}
    {token : Token} {rest : List Token} (h : token.opensUnnest rest = false) :
    (readReference declared keyword start token rest).2 = nameLength rest ∧
      ((readReference declared keyword start token rest).1 = none ↔
        moreParts rest = [] ∧ lower (unquote token.text) ∈ declared) := by
  have hcond : (((rest.drop (2 * (moreParts rest).length)).head?.any (·.isMark "(")) &&
      upper ((moreParts rest).foldl (· ++ ·) (unquote token.text)) == "UNNEST") = false := by
    by_cases hparts : moreParts rest = []
    · simpa [Token.opensUnnest, hparts] using h
    · simp [upper_ne_unnest _ hparts]
  unfold readReference
  dsimp only
  rw [hcond, if_neg (by simp)]
  split
  · rename_i hdeclared
    rw [Bool.and_eq_true, List.isEmpty_iff, List.contains_iff_mem] at hdeclared
    refine ⟨rfl, iff_of_true rfl ⟨hdeclared.1, ?_⟩⟩
    simpa [hdeclared.1] using hdeclared.2
  · rename_i hdeclared
    refine ⟨rfl, iff_of_false (by simp) ?_⟩
    rintro ⟨hparts, hmem⟩
    simp [hparts, hmem] at hdeclared

/-- The number of tokens read along with a name. -/
def Token.extent (token : Token) (rest : List Token) : Nat :=
  if token.opensUnnest rest then 1 + groupLength 0 rest else nameLength rest

theorem Token.extent_pos (token : Token) (rest : List Token) : 0 < token.extent rest := by
  unfold extent nameLength
  split <;> omega

theorem readReference_extent {declared : List String} {keyword : String} {start : Nat}
    {token : Token} {rest : List Token} :
    (readReference declared keyword start token rest).2 = token.extent rest := by
  unfold Token.extent
  split
  · rename_i h
    rw [readReference_unnest h]
  · rename_i h
    exact (readReference_name (by simpa using h)).1

theorem readReference_eq_none {declared : List String} {keyword : String} {start : Nat}
    {token : Token} {rest : List Token} :
    (readReference declared keyword start token rest).1 = none ↔
      token.opensUnnest rest = true ∨
        moreParts rest = [] ∧ lower (unquote token.text) ∈ declared := by
  cases h : token.opensUnnest rest with
  | true => simp [readReference_unnest h]
  | false => simp [(readReference_name h).2]

/-- What no token of a name is, its alias included. -/
structure Token.StandsInName (token : Token) : Prop where
  notOpen : token.isMark "(" = false
  notClose : token.isMark ")" = false
  notFrom : token.keyword? ≠ some "FROM"

theorem Token.standsInName_of_kind {token : Token} (hmark : token.kind ≠ .punctuation)
    (hkeyword : token.kind.isKeyword = false) : token.StandsInName := by
  have hnone : token.keyword? = none := by simp [keyword?, hkeyword]
  refine ⟨?_, ?_, by simp [hnone]⟩ <;>
    · rw [← Bool.not_eq_true, isMark_iff]
      exact fun h => hmark h.1

theorem Token.standsInName_of_isIdentifierPart {token : Token}
    (h : token.isIdentifierPart = true) : token.StandsInName := by
  refine ⟨?_, ?_, fun hfrom => ?_⟩
  · rw [← Bool.not_eq_true]
    intro hmark
    simp [isIdentifierPart_of_isMark hmark (by decide)] at h
  · rw [← Bool.not_eq_true]
    intro hmark
    simp [isIdentifierPart_of_isMark hmark (by decide)] at h
  · simp [isIdentifierPart_of_structural hfrom (by decide)] at h

theorem Token.standsInName_of_isNameSeparator {token : Token}
    (h : token.isNameSeparator = true) : token.StandsInName := by
  rw [isNameSeparator, Bool.or_eq_true, isMark_iff, Bool.and_eq_true] at h
  rcases h with ⟨hkind, htext⟩ | ⟨hkind, -⟩
  · exact ⟨by simp [isMark, htext], by simp [isMark, htext],
      by simp [keyword?, hkind, TokenKind.isKeyword]⟩
  · cases hcase : token.kind <;> simp [hcase, TokenKind.isOperator] at hkind <;>
      exact standsInName_of_kind (by simp [hcase]) (by simp [hcase, TokenKind.isKeyword])

theorem Token.standsInName_of_alias {token : Token}
    (h : token.isTrivia = true ∨ token.keyword? = some "AS" ∨ token.kind.isName = true) :
    token.StandsInName := by
  rcases h with h | h | h
  · unfold isTrivia at h
    cases hcase : token.kind <;>
      simp [hcase, TokenKind.isTrivia, TokenKind.isBlank, TokenKind.isComment] at h <;>
      exact standsInName_of_kind (by simp [hcase]) (by simp [hcase, TokenKind.isKeyword])
  · exact ⟨isMark_of_keyword? h _, isMark_of_keyword? h _, by simp [h]⟩
  · cases hcase : token.kind <;> simp [hcase, TokenKind.isName] at h <;>
      exact standsInName_of_kind (by simp [hcase]) (by simp [hcase, TokenKind.isKeyword])

theorem standsInName_of_mem {rest : List Token} {token : Token}
    (h : token ∈ rest.take (nameLength rest - 1)) : token.StandsInName := by
  have hlength : nameLength rest - 1 = 2 * (moreParts rest).length +
      ((aliasAt? (rest.drop (2 * (moreParts rest).length))).map Prod.snd).getD 0 := by
    unfold nameLength
    omega
  rw [hlength, List.take_add, List.mem_append] at h
  rcases h with h | h
  · rcases mem_of_moreParts h with h | h
    · exact Token.standsInName_of_isNameSeparator h
    · exact Token.standsInName_of_isIdentifierPart h
  · cases halias : aliasAt? (rest.drop (2 * (moreParts rest).length)) with
    | none => simp [halias] at h
    | some found =>
      obtain ⟨name, size⟩ := found
      simp only [halias, Option.map_some, Option.getD_some] at h
      exact Token.standsInName_of_alias (aliasAt?_eq_some halias token h)

end SemanticLayer.Sql
