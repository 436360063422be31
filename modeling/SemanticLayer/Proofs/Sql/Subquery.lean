import SemanticLayer.Proofs.Sql.Group

/-!
Which names after the word `FROM` are found. The scanner decides by the first word of a parenthesis
whether queries in it are read, and it passes over the arguments of array functions. A query that
goes on after a parenthesis of its own, or that stands in the arguments of an array function, is
therefore not read.
-/

namespace SemanticLayer.Sql

open Text

/-- The word `SELECT` stands before the place, in the same innermost parenthesis. -/
def FollowsSelect (tokens : List Token) (place : Nat) : Prop :=
  ∃ first < place, tokens[first]?.bind Token.keyword? = some "SELECT" ∧
    (openBefore tokens first).head? = (openBefore tokens place).head?

instance (tokens : List Token) (place : Nat) : Decidable (FollowsSelect tokens place) :=
  inferInstanceAs (Decidable (∃ first < place, _))

/-- The word `FROM`, unless it belongs to a comparison, with the name after it, unless that is
declared or an array function. -/
structure FromName (tokens : List Token) (place next : Nat) (name : Token) : Prop where
  word : tokens[place]?.bind Token.keyword? = some "FROM"
  previous : (((tokens.take place).filter fun token => !token.isTrivia).getLast?).bind
    Token.keyword? ≠ some "DISTINCT"
  isNext : IsNext tokens (place + 1) next name
  part : name.isIdentifierPart = true
  undeclared : lower (unquote name.text) ∉ cteNames tokens
  plain : name.opensUnnest (tokens.drop (next + 1)) = false

instance (tokens : List Token) (place next : Nat) (name : Token) :
    Decidable (FromName tokens place next name) :=
  decidable_of_iff
    (tokens[place]?.bind Token.keyword? = some "FROM" ∧
      (((tokens.take place).filter fun token => !token.isTrivia).getLast?).bind
        Token.keyword? ≠ some "DISTINCT" ∧
      IsNext tokens (place + 1) next name ∧ name.isIdentifierPart = true ∧
      lower (unquote name.text) ∉ cteNames tokens ∧
      name.opensUnnest (tokens.drop (next + 1)) = false)
    ⟨fun ⟨word, previous, isNext, part, undeclared, plain⟩ =>
        ⟨word, previous, isNext, part, undeclared, plain⟩,
      fun h => ⟨h.word, h.previous, h.isNext, h.part, h.undeclared, h.plain⟩⟩

namespace Scan

variable {declared : List String} {scan : Scan} {token : Token} {rest tokens : List Token}
  {place : Nat}

/-- A place among the arguments of an array function that is read as a table. -/
def InsideUnnest (tokens : List Token) (place : Nat) : Prop :=
  ∃ first token, first < place ∧ Reads tokens first token ∧
    token.opensUnnest (tokens.drop (first + 1)) = true ∧
    place < first + 1 + groupLength 0 (tokens.drop (first + 1))

theorem tableKeyword?_from {previous : Option Token} (hword : token.keyword? = some "FROM")
    (hprevious : previous.bind Token.keyword? ≠ some "DISTINCT") :
    tableKeyword? previous token = some "FROM" ∨
      tableKeyword? previous token = some "DELETE FROM" := by
  have hjoin : "FROM".endsWith "JOIN" = false := by decide +kernel
  unfold tableKeyword?
  rw [hword]
  dsimp only
  rw [hjoin, if_neg (by decide), if_pos (by decide)]
  split
  · contradiction
  · exact .inr rfl
  · exact .inl rfl

/-- After the word `FROM` a table is expected exactly if a query is read. -/
theorem step_from (hskip : scan.skip = 0) (hword : token.keyword? = some "FROM")
    (hprevious : scan.previous.bind Token.keyword? ≠ some "DISTINCT") :
    (scan.step declared token rest).2.skip = 0 ∧
      (scan.step declared token rest).2.expecting = scan.scope.holdsQuery := by
  have hmodifier : token.isKeywordOf tableModifiers = false := by
    rw [Token.isKeywordOf_of_keyword? hword]
    decide
  rw [step_of_other hskip (Token.isTrivia_of_keyword? hword) (Token.isMark_of_keyword? hword _)
    hmodifier (Token.isIdentifierPart_of_structural hword (by decide))]
  refine ⟨readToken_frame.2.1.trans hskip, ?_⟩
  rw [advance, readToken_keyword hword, readListToken_of_keyword? hword (by decide)]
  rcases tableKeyword?_from hword hprevious with hput | hput
  · rw [hput]
    cases hquery : scan.scope.holdsQuery <;> simp
  · rw [hput]
    cases hquery : scan.scope.holdsQuery <;> simp

/-- The word `FROM` is passed over only among the arguments of array functions. -/
theorem skip_pos_iff_insideUnnest (hplace : tokens[place]? = some token)
    (hword : token.keyword? = some "FROM") :
    0 < (reach tokens place).skip ↔ InsideUnnest tokens place := by
  obtain ⟨hlt, rfl⟩ := List.getElem?_eq_some_iff.1 hplace
  constructor
  · intro hskip
    obtain ⟨first, name, hfirst, hreads, hsum⟩ := exists_reads_of_skip (by omega) hskip
    rw [Token.extent] at hsum
    split at hsum
    · rename_i hunnest
      exact ⟨first, name, hfirst, hreads, hunnest, by omega⟩
    · exfalso
      have hmem : tokens[place] ∈
          (tokens.drop (first + 1)).take (nameLength (tokens.drop (first + 1)) - 1) := by
        rw [List.mem_take_iff_getElem]
        exact ⟨place - first - 1, by rw [List.length_drop]; omega, by
          rw [List.getElem_drop]
          congr 1
          omega⟩
      exact (standsInName_of_mem hmem).notFrom hword
  · rintro ⟨first, name, hfirst, hreads, hunnest, hinside⟩
    have hextent : name.extent (tokens.drop (first + 1)) =
        1 + groupLength 0 (tokens.drop (first + 1)) := by
      rw [Token.extent, if_pos hunnest]
    have hcount : first + 1 + (place - first - 1) = place := by omega
    obtain ⟨hskip, -⟩ := hreads.reach_eq (place - first - 1) (by omega) (by omega)
    rw [hcount] at hskip
    omega

/-- After a token that is passed over no name comes next. -/
theorem not_reads_of_skip {next : Nat} (hplace : place < tokens.length)
    (hskip : 0 < (reach tokens place).skip) (hnext : IsNext tokens (place + 1) next token) :
    ¬ Reads tokens next token := by
  intro hreads
  have hle := hnext.le
  obtain ⟨hlt, -⟩ := List.getElem?_eq_some_iff.1 hnext.found
  obtain ⟨first, name, hfirst, hname, hsum⟩ := exists_reads_of_skip (by omega) hskip
  rcases Nat.lt_or_ge next (first + name.extent (tokens.drop (first + 1))) with hinside | houtside
  · have hcount : first + 1 + (next - first - 1) = next := by omega
    obtain ⟨hbusy, -⟩ := hname.reach_eq (next - first - 1) (by omega) (by omega)
    rw [hcount, hreads.free] at hbusy
    omega
  · -- What was read ends before the trivia do, and no table is expected then.
    obtain ⟨stop, hstop⟩ : ∃ stop, stop = first + name.extent (tokens.drop (first + 1)) := ⟨_, rfl⟩
    have hcount : first + 1 + (stop - first - 1) = stop := by omega
    obtain ⟨hfree, hcalm, -⟩ := hname.reach_eq (stop - first - 1) (by omega) (by omega)
    rw [hcount] at hfree hcalm
    have hskipped : (reach tokens stop).skip = 0 := by omega
    obtain ⟨position, hreach⟩ := reach_of_trivia hskipped (hstop ▸ houtside)
      fun between hbetween hfrom => hnext.trivia between hbetween (by omega)
    have hexpected := hreads.expected
    rw [hreach] at hexpected
    exact absurd (hcalm.symm.trans hexpected) (by simp)

end Scan

open Scan

/-- A name after the word `FROM` is found exactly if the word is not among the arguments of an array
function and, where it stands in parentheses, the innermost one begins like a query or stands where
a table has to. -/
theorem from_name_found_iff {tokens : List Token} {place next : Nat} {name : Token}
    (h : FromName tokens place next name) :
    (∃ r ∈ tableReferences tokens, r.start = next) ↔
      ¬ InsideUnnest tokens place ∧
        ∀ opened ∈ (openBefore tokens place).head?, holdsQuery tokens opened = true := by
  obtain ⟨word, hplace, hword⟩ := Option.bind_eq_some_iff.1 h.word
  obtain ⟨hlt, -⟩ := List.getElem?_eq_some_iff.1 hplace
  rw [exists_reference_of_part h.isNext.found h.isNext.significant h.part,
    ← skip_pos_iff_insideUnnest hplace hword]
  rcases Nat.eq_zero_or_pos (reach tokens place).skip with hfree | hbusy
  · have hprevious : (reach tokens place).previous.bind Token.keyword? ≠ some "DISTINCT" := by
      rw [previous_reach]
      exact h.previous
    have hafter : (reach tokens (place + 1)).skip = 0 ∧
        (reach tokens (place + 1)).expecting = (reach tokens place).scope.holdsQuery := by
      rw [reach_succ hplace]
      exact step_from hfree hword hprevious
    obtain ⟨position, hreach⟩ := reach_of_trivia hafter.1 h.isNext.le h.isNext.trivia
    rw [← holdsQuery_reach hlt hfree, ← hafter.2]
    constructor
    · rintro ⟨hreads, -⟩
      refine ⟨by omega, ?_⟩
      rw [← hreads.expected, hreach]
    · rintro ⟨-, hexpecting⟩
      refine ⟨⟨h.isNext.found, ?_, h.isNext.significant, ?_, h.part⟩, h.plain,
        fun _ => h.undeclared⟩
      · rw [hreach]
        exact hafter.1
      · rw [hreach]
        exact hexpecting
  · refine iff_of_false (fun hfound => ?_) fun hinside => hinside.1 hbusy
    exact not_reads_of_skip hlt hbusy h.isNext hfound.1

/-- `SELECT id FROM orders WHERE id IN (SELECT id FROM customers)`. -/
def conditionQuery : List Token :=
  [⟨.manipulation, "SELECT"⟩, ⟨.name, "id"⟩, ⟨.keyword, "FROM"⟩, ⟨.name, "orders"⟩,
    ⟨.keyword, "WHERE"⟩, ⟨.name, "id"⟩, ⟨.keyword, "IN"⟩, ⟨.punctuation, "("⟩,
    ⟨.manipulation, "SELECT"⟩, ⟨.name, "id"⟩, ⟨.keyword, "FROM"⟩, ⟨.name, "customers"⟩,
    ⟨.punctuation, ")"⟩]

theorem from_name_found_subquery :
    FromName conditionQuery 10 11 ⟨.name, "customers"⟩ ∧ ¬ InsideUnnest conditionQuery 10 ∧
      ∀ opened ∈ (openBefore conditionQuery 10).head?, holdsQuery conditionQuery opened = true := by
  have h : FromName conditionQuery 10 11 ⟨.name, "customers"⟩ := by decide +kernel
  exact ⟨h, (from_name_found_iff h).1 (by decide +kernel)⟩

/-- `SELECT id FROM orders WHERE id IN ((SELECT 1) UNION SELECT id FROM secret)`. -/
def unionQuery : List Token :=
  [⟨.manipulation, "SELECT"⟩, ⟨.name, "id"⟩, ⟨.keyword, "FROM"⟩, ⟨.name, "orders"⟩,
    ⟨.keyword, "WHERE"⟩, ⟨.name, "id"⟩, ⟨.keyword, "IN"⟩, ⟨.punctuation, "("⟩,
    ⟨.punctuation, "("⟩, ⟨.manipulation, "SELECT"⟩, ⟨.integer, "1"⟩, ⟨.punctuation, ")"⟩,
    ⟨.keyword, "UNION"⟩, ⟨.manipulation, "SELECT"⟩, ⟨.name, "id"⟩, ⟨.keyword, "FROM"⟩,
    ⟨.name, "secret"⟩, ⟨.punctuation, ")"⟩]

/-- `SELECT * FROM UNNEST(ARRAY(SELECT id FROM secret))`. -/
def arrayQuery : List Token :=
  [⟨.manipulation, "SELECT"⟩, ⟨.wildcard, "*"⟩, ⟨.keyword, "FROM"⟩, ⟨.name, "UNNEST"⟩,
    ⟨.punctuation, "("⟩, ⟨.name, "ARRAY"⟩, ⟨.punctuation, "("⟩, ⟨.manipulation, "SELECT"⟩,
    ⟨.name, "id"⟩, ⟨.keyword, "FROM"⟩, ⟨.name, "secret"⟩, ⟨.punctuation, ")"⟩,
    ⟨.punctuation, ")"⟩]

/-- Names are missed in a query that goes on after a parenthesis and among the arguments of an array
function. -/
theorem from_name_missed :
    (IsBalanced unionQuery ∧ FromName unionQuery 15 16 ⟨.name, "secret"⟩ ∧
        FollowsSelect unionQuery 15 ∧ ∀ r ∈ tableReferences unionQuery, r.start ≠ 16) ∧
      IsBalanced arrayQuery ∧ FromName arrayQuery 9 10 ⟨.name, "secret"⟩ ∧
        FollowsSelect arrayQuery 9 ∧ ∀ r ∈ tableReferences arrayQuery, r.start ≠ 10 := by
  decide +kernel

end SemanticLayer.Sql
