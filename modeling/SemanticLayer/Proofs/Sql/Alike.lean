import SemanticLayer.Proofs.Sql.TableList

/-!
Tokens that the scanner treats alike. Apart from the text of a token it looks at marks, at whether
the token may be a part of a name, and at a few keywords. Tokens of one text that have these in
common are read alike. Where no table is expected, a token that is no mark and none of these
keywords changes nothing.
-/

namespace SemanticLayer.Sql

open Text

/-- What a reference is told apart by: the name, and whether it can stand for a table. -/
def TableReference.key (r : TableReference) : String × Bool :=
  (r.identifier, r.resolvable)

/-- Besides the joins, the keywords at which references or declarations are read in another way. -/
def actingKeywords : List String :=
  ["FROM", "UPDATE", "INTO", "RECURSIVE", "AS", "MATERIALIZED", "NOT MATERIALIZED"] ++
    queryStarts ++ tableModifiers ++ listTerminators

/-! ### Tokens -/

namespace Token

/-- The keyword that the token is, if it is an acting one. -/
def acting? (token : Token) : Option String :=
  token.keyword?.filter fun keyword =>
    keyword.endsWith "JOIN" || actingKeywords.contains keyword

/-- Two tokens of one text that differ in their kinds at most, and act alike. -/
structure Alike (a b : Token) : Prop where
  text : a.text = b.text
  trivia : a.isTrivia = b.isTrivia
  punctuation : (a.kind == .punctuation) = (b.kind == .punctuation)
  separator : a.isNameSeparator = b.isNameSeparator
  acting : a.acting? = b.acting?

instance (a b : Token) : Decidable (a.Alike b) :=
  decidable_of_iff
    (a.text = b.text ∧ a.isTrivia = b.isTrivia ∧
      (a.kind == .punctuation) = (b.kind == .punctuation) ∧
      a.isNameSeparator = b.isNameSeparator ∧ a.acting? = b.acting?)
    ⟨fun ⟨text, trivia, punctuation, separator, acting⟩ =>
        ⟨text, trivia, punctuation, separator, acting⟩,
      fun h => ⟨h.text, h.trivia, h.punctuation, h.separator, h.acting⟩⟩

theorem acting?_eq_some {token : Token} {keyword : String} :
    token.acting? = some keyword ↔ token.keyword? = some keyword ∧
      (keyword.endsWith "JOIN" || actingKeywords.contains keyword) = true := by
  rw [acting?, Option.filter_eq_some_iff]

theorem acting?_of_mem {token : Token} {keyword : String} (h : keyword ∈ actingKeywords) :
    token.acting? = some keyword ↔ token.keyword? = some keyword := by
  simp [acting?_eq_some, h]

theorem isNameSeparator_of_isTrivia {token : Token} (h : token.isTrivia = true) :
    token.isNameSeparator = false := by
  unfold isTrivia at h
  rw [isNameSeparator, isMark]
  cases hkind : token.kind <;>
    simp [hkind, TokenKind.isTrivia, TokenKind.isBlank, TokenKind.isComment,
      TokenKind.isOperator] at h ⊢

namespace Alike

variable {a b : Token}

theorem isMark (h : a.Alike b) (mark : String) : a.isMark mark = b.isMark mark := by
  rw [Token.isMark, Token.isMark, h.punctuation, h.text]

theorem keyword?_iff (h : a.Alike b) {keyword : String} (hmem : keyword ∈ actingKeywords) :
    a.keyword? = some keyword ↔ b.keyword? = some keyword := by
  rw [← acting?_of_mem hmem, ← acting?_of_mem hmem, h.acting]

theorem isKeywordOf (h : a.Alike b) {keywords : List String}
    (hmem : ∀ keyword ∈ keywords, keyword ∈ actingKeywords) :
    a.isKeywordOf keywords = b.isKeywordOf keywords := by
  rw [Bool.eq_iff_iff, isKeywordOf_iff, isKeywordOf_iff]
  exact exists_congr fun keyword => and_congr_right fun hkeyword =>
    h.keyword?_iff (hmem keyword hkeyword)

theorem startsQuery (h : a.Alike b) : a.startsQuery = b.startsQuery :=
  h.isKeywordOf (by decide)

end Alike

/-- A token at which the scanner does nothing where no table is expected. -/
def IsIdle (token : Token) : Prop :=
  (token.kind == .punctuation) = false ∧ (token.acting? = none ∨ token.acting? = some "AS")

theorem isIdle_of_isTrivia {token : Token} (h : token.isTrivia = true) : token.IsIdle := by
  have hacting : token.acting? = none := by rw [acting?, keyword?_of_isTrivia h, Option.filter_none]
  refine ⟨?_, .inl hacting⟩
  unfold isTrivia at h
  cases hkind : token.kind <;> simp_all [TokenKind.isTrivia, TokenKind.isBlank, TokenKind.isComment]

/-- Everything between a name and the end of its alias is idle. -/
theorem isIdle_of_alias {token : Token}
    (h : token.isTrivia = true ∨ token.keyword? = some "AS" ∨ token.kind.isName = true) :
    token.IsIdle := by
  rcases h with h | h | h
  · exact isIdle_of_isTrivia h
  · refine ⟨?_, .inr ((acting?_of_mem (by decide)).2 h)⟩
    rw [beq_eq_false_iff_ne]
    exact (isName_of_keyword? h).2.2
  · have hacting : token.acting? = none := by
      rw [acting?, keyword?_of_isName h, Option.filter_none]
    refine ⟨?_, .inl hacting⟩
    cases hkind : token.kind <;> simp_all [TokenKind.isName]

theorem Alike.isIdle {a b : Token} (h : a.Alike b) : a.IsIdle ↔ b.IsIdle := by
  rw [IsIdle, IsIdle, h.punctuation, h.acting]

end Token

/-! ### States -/

namespace Scan

/-- What a state says about the tokens to come, names being passed over apart. -/
def view (scan : Scan) : Scope × List Scope × Bool :=
  (scan.scope, scan.outer, scan.expecting)

variable {declared : List String} {scan other : Scan} {token a b : Token}
  {rest later tokens : List Token} {place : Nat}

theorem view_eq_iff : scan.view = other.view ↔
    scan.scope = other.scope ∧ scan.outer = other.outer ∧ scan.expecting = other.expecting := by
  simp [view]

/-- Nothing is done at the token: it is passed over, or idle where no table is expected. -/
def Passes (scan : Scan) (token : Token) : Prop :=
  token.isTrivia = true ∧ scan.skip = 0 ∨ scan.expecting = false ∧ token.IsIdle

theorem keyword?_ne_of_acting? (h : token.acting? = none) {keyword : String}
    (hacting : keyword ∈ actingKeywords) : token.keyword? ≠ some keyword := by
  intro hkeyword
  rw [← Token.acting?_of_mem hacting, h] at hkeyword
  cases hkeyword

theorem tableKeyword?_of_acting? {previous : Option Token} (h : token.acting? = none) :
    tableKeyword? previous token = none := by
  cases hkeyword : token.keyword? with
  | none => simp [tableKeyword?, hkeyword]
  | some keyword =>
    have hne (other : String) (hacting : other ∈ actingKeywords) : keyword ≠ other := by
      rintro rfl
      exact keyword?_ne_of_acting? h hacting hkeyword
    have hjoin : keyword.endsWith "JOIN" = false := by
      rw [← Bool.not_eq_true]
      intro hjoin
      rw [Token.acting?_eq_some.2 ⟨hkeyword, by rw [hjoin, Bool.true_or]⟩] at h
      cases h
    refine tableKeyword?_eq_none hkeyword ?_ (beq_eq_false_iff_ne.2 (hne _ (by decide)))
    rw [hjoin, Bool.false_or, ← Bool.not_eq_true, List.contains_iff_mem]
    simp [hne "UPDATE" (by decide), hne "INTO" (by decide), hne "TABLE" (by decide)]

theorem readToken_of_isIdle (h : token.IsIdle) : scan.readToken token rest = scan := by
  obtain ⟨hmark, hnone | has⟩ := h
  · have hplain (mark : String) : token.isMark mark = false := by
      rw [Token.isMark, hmark, Bool.false_and]
    have hends : token.isKeywordOf listTerminators = false := by
      rw [← Bool.not_eq_true, Token.isKeywordOf_iff]
      rintro ⟨keyword, hmem, hkeyword⟩
      exact keyword?_ne_of_acting? hnone (List.mem_append_right _ hmem) hkeyword
    rw [readToken, hplain, hplain, tableKeyword?_of_acting? hnone, readListToken, hplain, hends]
    simp
  · exact readToken_as ((Token.acting?_of_mem (by decide)).1 has)

theorem step_of_passes (h : scan.Passes token) :
    scan.step declared token rest =
      ([], { scan with skip := scan.skip - 1 }.advance token) := by
  rcases Nat.eq_zero_or_pos scan.skip with hskip | hskip
  · have hsame : { scan with skip := scan.skip - 1 } = scan := by rw [hskip, Nat.zero_sub, ← hskip]
    rw [hsame]
    cases htrivia : token.isTrivia with
    | true => exact step_of_trivia hskip htrivia
    | false =>
      rcases h with ⟨htrue, -⟩ | ⟨hcalm, hidle⟩
      · simp [htrivia] at htrue
      · rw [step_of_calm hskip htrivia hcalm, readToken_of_isIdle hidle]
  · exact step_of_skip hskip

/-- What a table keyword does: whether it counts outside queries, too, and whether it opens a list
of tables. -/
def effect (keyword : String) : Bool × Bool :=
  (keyword == "TABLE", keyword == "FROM" || keyword == "DELETE FROM")

/-- The word that `DELETE` makes of `FROM` has the effect of `FROM`. -/
theorem effect_of_from (hfrom : token.keyword? = some "FROM") (previous : Option Token) :
    (tableKeyword? previous token).map effect =
      if previous.bind Token.keyword? = some "DISTINCT" then none else some (false, true) := by
  unfold tableKeyword?
  rw [hfrom]
  dsimp only
  rw [if_neg (by decide +kernel), if_pos (by decide)]
  split
  · rename_i hword
    rw [hword, if_pos rfl, Option.map_none]
  · rename_i hword
    rw [hword, if_neg (by simp)]
    rfl
  · rename_i hne _
    rw [if_neg fun heq => hne heq]
    rfl

theorem effect_tableKeyword? (h : a.Alike b) {previous before : Option Token}
    (hdistinct : a.keyword? = some "FROM" →
      (previous.bind Token.keyword? = some "DISTINCT" ↔
        before.bind Token.keyword? = some "DISTINCT")) :
    (tableKeyword? previous a).map effect = (tableKeyword? before b).map effect := by
  cases hacting : a.acting? with
  | none =>
    rw [tableKeyword?_of_acting? hacting, tableKeyword?_of_acting? (h.acting ▸ hacting)]
  | some keyword =>
    have hkeyword := (Token.acting?_eq_some.1 hacting).1
    have hother := (Token.acting?_eq_some.1 (h.acting ▸ hacting)).1
    by_cases hfrom : keyword = "FROM"
    · subst hfrom
      rw [effect_of_from hkeyword, effect_of_from hother, if_congr (hdistinct hkeyword) rfl rfl]
    · unfold tableKeyword?
      rw [hkeyword, hother]
      dsimp only
      rw [if_neg (show ¬ (keyword == "FROM") = true by simpa using hfrom),
        if_neg (show ¬ (keyword == "FROM") = true by simpa using hfrom)]

theorem view_readListToken (h : a.Alike b) (hview : scan.view = other.view) :
    (scan.readListToken a).view = (other.readListToken b).view := by
  obtain ⟨hscope, houter, hexpecting⟩ := view_eq_iff.1 hview
  have hacting : ∀ keyword ∈ listTerminators, keyword ∈ actingKeywords := fun _ hmem =>
    List.mem_append_right _ hmem
  unfold readListToken
  rw [hscope, h.isMark, h.isKeywordOf hacting]
  split
  · split
    · simp [view, houter]
    · split
      · simp [view, houter, hexpecting]
      · exact hview
  · exact hview

theorem view_readToken (h : a.Alike b) (hview : scan.view = other.view)
    (hfollows : follows rest Token.startsQuery = follows later Token.startsQuery)
    (hdistinct : a.keyword? = some "FROM" →
      (scan.previous.bind Token.keyword? = some "DISTINCT" ↔
        other.previous.bind Token.keyword? = some "DISTINCT")) :
    (scan.readToken a rest).view = (other.readToken b later).view := by
  obtain ⟨hscope, houter, hexpecting⟩ := view_eq_iff.1 hview
  have heffect := effect_tableKeyword? h hdistinct
  unfold readToken
  rw [h.isMark, h.isMark, hfollows]
  split
  · simp [view, enter, hscope, houter, hexpecting]
  split
  · unfold leave
    rw [houter]
    split <;> simp [view, hexpecting]
  · cases hput : tableKeyword? scan.previous a with
    | none =>
      rw [hput, Option.map_none, eq_comm, Option.map_eq_none_iff] at heffect
      rw [heffect]
      exact view_readListToken h hview
    | some keyword =>
      rw [hput, Option.map_some, eq_comm, Option.map_eq_some_iff] at heffect
      obtain ⟨word, hword, heq⟩ := heffect
      rw [hword]
      rw [effect, effect, Prod.mk.injEq] at heq
      obtain ⟨htable, hlists⟩ := heq
      dsimp only
      rw [← hscope, htable]
      split
      · simp only [view, houter, Bool.or_assoc, hlists]
      · exact view_readListToken h hview

/-- Where a table is expected, tokens that are no parts of names are read alike. -/
theorem readTable_alike (declared : List String) (h : a.Alike b) (hview : scan.view = other.view)
    (hpart : a.isIdentifierPart = false) (hother : b.isIdentifierPart = false)
    (hfollows : ∀ fits : Token → Bool, (∀ a b : Token, a.Alike b → fits a = fits b) →
      follows rest fits = follows later fits)
    (hdistinct : a.keyword? = some "FROM" →
      (scan.previous.bind Token.keyword? = some "DISTINCT" ↔
        other.previous.bind Token.keyword? = some "DISTINCT")) :
    (scan.readTable declared a rest).1.map TableReference.key =
        (other.readTable declared b later).1.map TableReference.key ∧
      (scan.readTable declared a rest).2.view = (other.readTable declared b later).2.view := by
  obtain ⟨hscope, houter, hexpecting⟩ := view_eq_iff.1 hview
  have hcalm : ({ scan with expecting := false } : Scan).view =
      ({ other with expecting := false } : Scan).view := by simp [view, hscope, houter]
  have hjoins := hfollows (fun next => !next.startsQuery) fun a b halike => by
    rw [halike.startsQuery]
  have hacting : ∀ keyword ∈ tableModifiers, keyword ∈ actingKeywords := by decide
  unfold readTable
  dsimp only
  rw [h.isMark, h.isKeywordOf hacting, hpart, hother, hjoins]
  split
  · exact ⟨rfl, by simp [view, enter, hscope, houter]⟩
  split
  · exact ⟨rfl, hview⟩
  rw [if_neg (by simp), if_neg (by simp)]
  refine ⟨?_, view_readToken h hcalm (hfollows _ fun _ _ halike => halike.startsQuery) hdistinct⟩
  simp [TableReference.key, h.text]

/-- Where nothing is passed over, tokens that begin no names of tables are read alike. -/
theorem step_alike (h : a.Alike b) (hview : scan.view = other.view) (htrivia : a.isTrivia = false)
    (hfree : scan.skip = 0) (hempty : other.skip = 0)
    (hpart : scan.expecting = true → a.isIdentifierPart = false ∧ b.isIdentifierPart = false)
    (hfollows : ∀ fits : Token → Bool, (∀ a b : Token, a.Alike b → fits a = fits b) →
      follows rest fits = follows later fits)
    (hdistinct : a.keyword? = some "FROM" →
      (scan.previous.bind Token.keyword? = some "DISTINCT" ↔
        other.previous.bind Token.keyword? = some "DISTINCT")) :
    (scan.step declared a rest).1.map TableReference.key =
        (other.step declared b later).1.map TableReference.key ∧
      (scan.step declared a rest).2.view = (other.step declared b later).2.view ∧
      (scan.step declared a rest).2.skip = 0 ∧ (other.step declared b later).2.skip = 0 := by
  have hsignificant : b.isTrivia = false := h.trivia.symm.trans htrivia
  obtain ⟨-, -, hexpecting⟩ := view_eq_iff.1 hview
  cases hexpected : scan.expecting with
  | false =>
    rw [step_of_calm hfree htrivia hexpected,
      step_of_calm hempty hsignificant (hexpecting.symm.trans hexpected)]
    refine ⟨rfl, view_readToken h hview ?_ hdistinct, ?_, ?_⟩
    · exact hfollows _ fun _ _ halike => halike.startsQuery
    · exact readToken_frame.2.1.trans hfree
    · exact readToken_frame.2.1.trans hempty
  | true =>
    obtain ⟨hone, htwo⟩ := hpart hexpected
    rw [step_of_expecting hfree htrivia hexpected,
      step_of_expecting hempty hsignificant (hexpecting.symm.trans hexpected)]
    obtain ⟨hkeys, hstate⟩ := readTable_alike declared h hview hone htwo hfollows hdistinct
    exact ⟨hkeys, hstate, skip_readTable hfree hone, skip_readTable hempty htwo⟩

end Scan

end SemanticLayer.Sql
