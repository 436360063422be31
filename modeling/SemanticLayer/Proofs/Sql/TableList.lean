import SemanticLayer.Proofs.Sql.Scan

/-!
Which items of a list of tables are found. A word after a table is its alias only if it is a name.
Any other word is read on its own, and where it is one that ends lists of tables, the items after it
are not read.
-/

namespace SemanticLayer.Sql

open Text

/-- The word stands at the place, after trivia and at most the word `AS`. -/
def IsAliasWord (tokens : List Token) (stop place : Nat) (word : Token) : Prop :=
  IsNext tokens stop place word ∨
    ∃ between < place, ∃ introducer ∈ tokens[between]?, IsNext tokens stop between introducer ∧
      introducer.keyword? = some "AS" ∧ IsNext tokens (between + 1) place word

instance (tokens : List Token) (stop place : Nat) (word : Token) :
    Decidable (IsAliasWord tokens stop place word) :=
  inferInstanceAs (Decidable (_ ∨ ∃ between < place, ∃ introducer ∈ tokens[between]?, _))

/-- A table with the items that follow it in a list of tables: a word in the place of its alias, a
comma and a name, which is neither declared nor the array function. -/
structure ListedPair (tokens : List Token) (place wordPlace commaPlace next : Nat)
    (table word name : Token) : Prop where
  reads : Scan.Reads tokens place table
  listed : (Scan.reach tokens place).scope.listsTables = true
  isAlias : IsAliasWord tokens
    (place + 1 + 2 * (moreParts (tokens.drop (place + 1))).length) wordPlace word
  isWord : word.kind.isName = true ∨ word.kind.isKeyword = true
  comma : ∃ comma ∈ tokens[commaPlace]?, comma.isMark "," = true ∧
    IsNext tokens (wordPlace + 1) commaPlace comma
  isNext : IsNext tokens (commaPlace + 1) next name
  part : name.isIdentifierPart = true
  undeclared : lower (unquote name.text) ∉ cteNames tokens
  plain : name.opensUnnest (tokens.drop (next + 1)) = false

instance (tokens : List Token) (place wordPlace commaPlace next : Nat) (table word name : Token) :
    Decidable (ListedPair tokens place wordPlace commaPlace next table word name) :=
  decidable_of_iff
    (Scan.Reads tokens place table ∧ (Scan.reach tokens place).scope.listsTables = true ∧
      IsAliasWord tokens (place + 1 + 2 * (moreParts (tokens.drop (place + 1))).length) wordPlace
        word ∧
      (word.kind.isName = true ∨ word.kind.isKeyword = true) ∧
      (∃ comma ∈ tokens[commaPlace]?, comma.isMark "," = true ∧
        IsNext tokens (wordPlace + 1) commaPlace comma) ∧
      IsNext tokens (commaPlace + 1) next name ∧ name.isIdentifierPart = true ∧
      lower (unquote name.text) ∉ cteNames tokens ∧
      name.opensUnnest (tokens.drop (next + 1)) = false)
    ⟨fun ⟨reads, listed, isAlias, isWord, comma, isNext, part, undeclared, plain⟩ =>
        ⟨reads, listed, isAlias, isWord, comma, isNext, part, undeclared, plain⟩,
      fun h => ⟨h.reads, h.listed, h.isAlias, h.isWord, h.comma, h.isNext, h.part, h.undeclared,
        h.plain⟩⟩

theorem Token.keyword?_of_isName {token : Token} (h : token.kind.isName = true) :
    token.keyword? = none := by
  cases hkeyword : token.keyword? with
  | none => rfl
  | some keyword =>
    rw [(isName_of_keyword? hkeyword).1] at h
    cases h

/-- Only a name is an alias. -/
theorem aliasAt?_of_isAliasWord {tokens : List Token} {stop place commaPlace : Nat}
    {word comma : Token} (h : IsAliasWord tokens stop place word)
    (hcomma : IsNext tokens (place + 1) commaPlace comma) (hmark : comma.isMark "," = true) :
    (aliasAt? (tokens.drop stop)).map Prod.snd =
      if word.kind.isName then some (place + 1 - stop) else none := by
  have hcommaName : comma.kind.isName = false := by
    rw [(Token.isMark_iff.1 hmark).1]
    rfl
  obtain ⟨hlt, -⟩ := List.getElem?_eq_some_iff.1 hcomma.found
  have hle := hcomma.le
  have hlength : tokens.length - stop - (tokens.length - (place + 1)) = place + 1 - stop := by
    omega
  rcases h with hword | ⟨between, -, introducer, -, hintroducer, has, hword⟩
  · rw [aliasAt?, hword.skipTrivia_drop]
    cases has : word.isKeywordOf ["AS"] with
    | true =>
      obtain ⟨keyword, -, hkeyword⟩ := Token.isKeywordOf_iff.1 has
      simp [has, hcomma.skipTrivia_drop, hcommaName, (Token.isName_of_keyword? hkeyword).1]
    | false => cases hname : word.kind.isName <;> simp [has, hname, hlength]
  · have has : introducer.isKeywordOf ["AS"] = true := by
      rw [Token.isKeywordOf_of_keyword? has]
      decide
    rw [aliasAt?, hintroducer.skipTrivia_drop]
    cases hname : word.kind.isName <;> simp [has, hname, hword.skipTrivia_drop, hlength]

namespace Scan

variable {declared : List String} {scan : Scan} {token : Token} {rest tokens : List Token}
  {place : Nat}

/-- No keyword that ends lists of tables puts a table after it. -/
theorem tableKeyword?_of_terminator {previous : Option Token}
    (h : token.isKeywordOf listTerminators = true) : tableKeyword? previous token = none := by
  obtain ⟨keyword, hmem, hkeyword⟩ := Token.isKeywordOf_iff.1 h
  have hothers : ∀ keyword ∈ listTerminators, (keyword.endsWith "JOIN" ||
      ["UPDATE", "INTO", "TABLE"].contains keyword) = false ∧ (keyword == "FROM") = false := by
    decide +kernel
  exact tableKeyword?_eq_none hkeyword (hothers keyword hmem).1 (hothers keyword hmem).2

/-- A keyword in a list of tables leaves the list open unless it ends lists. -/
theorem readToken_of_keyword? {keyword : String} (hkeyword : token.keyword? = some keyword)
    (hlists : scan.scope.listsTables = true) :
    (scan.readToken token rest).scope.listsTables = !token.isKeywordOf listTerminators := by
  have hlist : (scan.readListToken token).scope.listsTables =
      !token.isKeywordOf listTerminators := by
    unfold readListToken
    rw [if_pos hlists, Token.isMark_of_keyword? hkeyword, if_neg (by simp)]
    cases hends : token.isKeywordOf listTerminators with
    | true => rfl
    | false => exact hlists
  rw [readToken_keyword hkeyword]
  cases hput : tableKeyword? scan.previous token with
  | none => exact hlist
  | some put =>
    have hends : token.isKeywordOf listTerminators = false := by
      rw [← Bool.not_eq_true]
      intro hends
      rw [tableKeyword?_of_terminator hends] at hput
      cases hput
    dsimp only
    split
    · simp [hlists, hends]
    · exact hlist

/-- The word before an alias changes nothing. -/
theorem readToken_as (has : token.keyword? = some "AS") : scan.readToken token rest = scan := by
  rw [readToken_keyword has, tableKeyword?_eq_none has (by decide +kernel) (by decide)]
  exact readListToken_of_keyword? has (by decide)

/-- A list of tables is open, and no table is expected. -/
structure InList (scan : Scan) : Prop where
  free : scan.skip = 0
  calm : scan.expecting = false
  lists : scan.scope.listsTables = true

theorem InList.step_as (h : scan.InList) (has : token.keyword? = some "AS") :
    (scan.step declared token rest).2.InList := by
  rw [step_of_calm h.free (Token.isTrivia_of_keyword? has) h.calm, readToken_as has]
  exact ⟨h.free, h.calm, h.lists⟩

theorem InList.step_keyword {keyword : String} (h : scan.InList)
    (hkeyword : token.keyword? = some keyword) :
    (scan.step declared token rest).2.skip = 0 ∧
      (scan.step declared token rest).2.scope.listsTables =
        !token.isKeywordOf listTerminators := by
  rw [step_of_calm h.free (Token.isTrivia_of_keyword? hkeyword) h.calm]
  exact ⟨readToken_frame.2.1.trans h.free, readToken_of_keyword? hkeyword h.lists⟩

theorem InList.reach_next {next : Nat} (h : (reach tokens place).InList)
    (hnext : IsNext tokens place next token) : (reach tokens next).InList := by
  obtain ⟨position, hreach⟩ := reach_of_trivia h.free hnext.le hnext.trivia
  rw [hreach]
  exact ⟨h.free, h.calm, h.lists⟩

/-- After a comma of a list of tables a table is expected. -/
theorem readToken_comma (hmark : token.isMark "," = true) :
    (scan.readToken token rest).expecting = (scan.scope.listsTables || scan.expecting) := by
  have hkind := Token.isMark_iff.1 hmark
  have hother (mark : String) (h : mark ≠ ",") : token.isMark mark = false := by
    rw [← Bool.not_eq_true, Token.isMark_iff]
    exact fun hmark => h (hmark.2.symm.trans hkind.2)
  have hkeyword := Token.keyword?_of_isMark hmark
  unfold readToken tableKeyword? readListToken
  rw [hother "(" (by decide), hother ")" (by decide), hkeyword, if_neg (by simp), if_neg (by simp)]
  dsimp only
  cases hlists : scan.scope.listsTables with
  | true => simp [hmark]
  | false => simp

theorem step_comma (hskip : scan.skip = 0) (hmark : token.isMark "," = true) :
    (scan.step declared token rest).2.skip = 0 ∧
      (scan.step declared token rest).2.expecting = scan.scope.listsTables := by
  have hopen : token.isMark "(" = false := by
    rw [← Bool.not_eq_true, Token.isMark_iff, (Token.isMark_iff.1 hmark).2]
    simp
  have hmodifier : token.isKeywordOf tableModifiers = false := by
    rw [Token.isKeywordOf, Token.keyword?_of_isMark hmark, Option.any_none]
  rw [step_of_other hskip (Token.isTrivia_of_isMark hmark) hopen hmodifier
    (Token.isIdentifierPart_of_isMark hmark (by decide))]
  refine ⟨readToken_frame.2.1.trans hskip, (readToken_comma hmark).trans ?_⟩
  exact Bool.or_false _

end Scan

open Scan

namespace ListedPair

variable {tokens : List Token} {place wordPlace commaPlace next : Nat} {table word name : Token}

theorem aliasAt?_eq (h : ListedPair tokens place wordPlace commaPlace next table word name) :
    (aliasAt? (tokens.drop (place + 1 + 2 * (moreParts (tokens.drop (place + 1))).length))).map
        Prod.snd =
      if word.kind.isName then
        some (wordPlace + 1 - (place + 1 + 2 * (moreParts (tokens.drop (place + 1))).length))
      else none := by
  obtain ⟨comma, -, hmark, hcomma⟩ := h.comma
  exact aliasAt?_of_isAliasWord h.isAlias hcomma hmark

/-- The word that comes first after the name of the table is no parenthesis. -/
theorem opensUnnest_eq (h : ListedPair tokens place wordPlace commaPlace next table word name) :
    table.opensUnnest (tokens.drop (place + 1)) = false := by
  rw [← Bool.not_eq_true]
  intro hunnest
  obtain ⟨mark, after, hafter, hmark⟩ := Token.exists_of_opensUnnest hunnest
  have hparts : moreParts (tokens.drop (place + 1)) = [] := by
    apply moreParts_of_parenthesis
    simp [hafter, hmark]
  have hfirst (first : Nat) (token : Token) (hnext : IsNext tokens (place + 1) first token) :
      token = mark := by
    have htrivia := Token.isTrivia_of_isMark hmark
    have hskip := hnext.skipTrivia_drop
    rw [hafter, skipTrivia, List.dropWhile_cons_of_neg (by simp [htrivia])] at hskip
    exact (List.cons.inj hskip).1.symm
  have hkind := (Token.isMark_iff.1 hmark).1
  have hisAlias := h.isAlias
  rw [hparts, List.length_nil, Nat.mul_zero, Nat.add_zero] at hisAlias
  rcases hisAlias with hword | ⟨between, -, introducer, -, hintroducer, has, -⟩
  · have hisWord := h.isWord
    rw [hfirst _ _ hword, hkind] at hisWord
    simp [TokenKind.isName, TokenKind.isKeyword] at hisWord
  · rw [hfirst _ _ hintroducer] at has
    exact absurd has (by simp [Token.keyword?_of_isMark hmark])

theorem stop_le (h : ListedPair tokens place wordPlace commaPlace next table word name) :
    place + 1 + 2 * (moreParts (tokens.drop (place + 1))).length ≤ wordPlace := by
  rcases h.isAlias with hword | ⟨between, -, introducer, -, hintroducer, -, hword⟩
  · exact hword.le
  · have hfirst := hintroducer.le
    have hsecond := hword.le
    omega

theorem extent_eq (h : ListedPair tokens place wordPlace commaPlace next table word name) :
    table.extent (tokens.drop (place + 1)) =
      if word.kind.isName then wordPlace + 1 - place
      else 1 + 2 * (moreParts (tokens.drop (place + 1))).length := by
  have hle := h.stop_le
  rw [Token.extent, h.opensUnnest_eq, if_neg (by simp), nameLength, List.drop_drop, h.aliasAt?_eq]
  split
  · rw [Option.getD_some]
    omega
  · rfl

/-- After the word the list of tables is open, unless the word is one that ends lists. -/
theorem reach_word (h : ListedPair tokens place wordPlace commaPlace next table word name) :
    (reach tokens (wordPlace + 1)).skip = 0 ∧
      (reach tokens (wordPlace + 1)).scope.listsTables =
        !word.isKeywordOf listTerminators := by
  have hle := h.stop_le
  have hextent := h.extent_eq
  obtain ⟨comma, -, -, hcomma⟩ := h.comma
  have hcommaLe := hcomma.le
  obtain ⟨hlt, -⟩ := List.getElem?_eq_some_iff.1 hcomma.found
  rcases h.isWord with hname | hkind
  · -- The word is read along with the table.
    rw [if_pos hname] at hextent
    obtain ⟨hskip, -, hscope, -⟩ := h.reads.reach_eq (wordPlace - place) (by omega) (by omega)
    have hplace : place + 1 + (wordPlace - place) = wordPlace + 1 := by omega
    rw [hplace] at hskip hscope
    refine ⟨by omega, ?_⟩
    rw [hscope, h.listed, Token.isKeywordOf, Token.keyword?_of_isName hname]
    rfl
  · obtain ⟨keyword, hkeyword⟩ := Token.exists_keyword? hkind
    rw [if_neg (by simp [(Token.isName_of_keyword? hkeyword).1])] at hextent
    obtain ⟨hskip, hcalm, hscope, -⟩ := h.reads.reach_eq
      (2 * (moreParts (tokens.drop (place + 1))).length) (by omega) (by omega)
    have hlist : (reach tokens
        (place + 1 + 2 * (moreParts (tokens.drop (place + 1))).length)).InList :=
      ⟨by omega, hcalm, by rw [hscope, h.listed]⟩
    rcases h.isAlias with hword | ⟨between, -, introducer, -, hintroducer, has, hword⟩
    · rw [reach_succ hword.found]
      exact (hlist.reach_next hword).step_keyword hkeyword
    · have hafter : (reach tokens (between + 1)).InList := by
        rw [reach_succ hintroducer.found]
        exact (hlist.reach_next hintroducer).step_as has
      rw [reach_succ hword.found]
      exact (hafter.reach_next hword).step_keyword hkeyword

end ListedPair

/-- The item after a table in a list of tables is found exactly if the word in the place of the
alias is not one that ends lists. -/
theorem listed_name_found_iff {tokens : List Token} {place wordPlace commaPlace next : Nat}
    {table word name : Token}
    (h : ListedPair tokens place wordPlace commaPlace next table word name) :
    (∃ r ∈ tableReferences tokens, r.start = next) ↔
      word.isKeywordOf listTerminators = false := by
  obtain ⟨comma, -, hmark, hcomma⟩ := h.comma
  obtain ⟨hskip, hlists⟩ := h.reach_word
  obtain ⟨position, hbefore⟩ := reach_of_trivia hskip hcomma.le hcomma.trivia
  have hafter : (reach tokens (commaPlace + 1)).skip = 0 ∧
      (reach tokens (commaPlace + 1)).expecting = !word.isKeywordOf listTerminators := by
    rw [reach_succ hcomma.found, hbefore, ← hlists]
    exact step_comma hskip hmark
  obtain ⟨position, hreach⟩ := reach_of_trivia hafter.1 h.isNext.le h.isNext.trivia
  rw [exists_reference_of_part h.isNext.found h.isNext.significant h.part]
  constructor
  · rintro ⟨hreads, -⟩
    have hexpected := hreads.expected
    rw [hreach] at hexpected
    simpa using hafter.2.symm.trans hexpected
  · intro hlist
    refine ⟨⟨h.isNext.found, ?_, h.isNext.significant, ?_, h.part⟩, h.plain,
      fun _ => h.undeclared⟩
    · rw [hreach]
      exact hafter.1
    · rw [hreach]
      exact hafter.2.trans (by rw [hlist, Bool.not_false])

/-- `SELECT * FROM orders o, customers`. -/
def aliasQuery : List Token :=
  [⟨.manipulation, "SELECT"⟩, ⟨.wildcard, "*"⟩, ⟨.keyword, "FROM"⟩, ⟨.name, "orders"⟩,
    ⟨.name, "o"⟩, ⟨.punctuation, ","⟩, ⟨.name, "customers"⟩]

theorem listed_name_found_alias :
    ListedPair aliasQuery 3 4 5 6 ⟨.name, "orders"⟩ ⟨.name, "o"⟩ ⟨.name, "customers"⟩ ∧
      ∃ r ∈ tableReferences aliasQuery, r.start = 6 := by
  have h : ListedPair aliasQuery 3 4 5 6 ⟨.name, "orders"⟩ ⟨.name, "o"⟩ ⟨.name, "customers"⟩ := by
    decide +kernel
  exact ⟨h, (listed_name_found_iff h).2 (by decide)⟩

/-- `SELECT * FROM orders AS offset, secret`. -/
def offsetQuery : List Token :=
  [⟨.manipulation, "SELECT"⟩, ⟨.wildcard, "*"⟩, ⟨.keyword, "FROM"⟩, ⟨.name, "orders"⟩,
    ⟨.keyword, "AS"⟩, ⟨.keyword, "offset"⟩, ⟨.punctuation, ","⟩, ⟨.name, "secret"⟩]

/-- `SELECT * FROM orders values, secret`. -/
def valuesQuery : List Token :=
  [⟨.manipulation, "SELECT"⟩, ⟨.wildcard, "*"⟩, ⟨.keyword, "FROM"⟩, ⟨.name, "orders"⟩,
    ⟨.keyword, "values"⟩, ⟨.punctuation, ","⟩, ⟨.name, "secret"⟩]

/-- Items are missed after aliases that are words that end lists. -/
theorem listed_name_missed :
    (ListedPair offsetQuery 3 5 6 7 ⟨.name, "orders"⟩ ⟨.keyword, "offset"⟩ ⟨.name, "secret"⟩ ∧
        ∀ r ∈ tableReferences offsetQuery, r.start ≠ 7) ∧
      ListedPair valuesQuery 3 4 5 6 ⟨.name, "orders"⟩ ⟨.keyword, "values"⟩ ⟨.name, "secret"⟩ ∧
        ∀ r ∈ tableReferences valuesQuery, r.start ≠ 6 := by
  decide +kernel

end SemanticLayer.Sql
