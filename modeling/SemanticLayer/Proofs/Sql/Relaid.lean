import SemanticLayer.Proofs.Sql.Alike
import SemanticLayer.Proofs.Sql.CommonTable

/-!
Texts in two layouts. Trivia are put in between two tokens of a text. The tokens around them may
come to be of other kinds, since the kind of a word depends on the character after it. The places of
the two texts are followed side by side, and what is read ahead from a place (the next token that is
no trivia, the end of a parenthesis, the names of a list of declarations) is the same in both.
-/

namespace SemanticLayer.Sql

open Text

/-! ### Layouts -/

/-- The number of tokens that have to stand together for the name to be read as it is. -/
def Token.joined (token : Token) (rest : List Token) : Nat :=
  if token.opensUnnest rest then 2 else 1 + 2 * (moreParts rest).length

/-- The token `b` stands in the second text for the token `a` at a place of the first one. They may
differ in whether they are parts of names only where no name is looked for: where no table is
expected, the token goes on with no name, and no declaration has its name. -/
structure Counterpart (one two : List Token) (place : Nat) (a b : Token) : Prop
    extends a.Alike b where
  part : a.isIdentifierPart = b.isIdentifierPart ∨
    (Scan.reach one place).expecting = false ∧
      (one.take place).getLast?.any Token.isNameSeparator = false ∧
      lower (unquote a.text) ∉ cteNames one ++ cteNames two
  distinct : (a.keyword? = some "DISTINCT" ↔ b.keyword? = some "DISTINCT") ∨
    Scan.follows (one.drop (place + 1)) (·.keyword? == some "FROM") = false

instance (one two : List Token) (place : Nat) (a b : Token) :
    Decidable (Counterpart one two place a b) :=
  decidable_of_iff
    (a.Alike b ∧
      (a.isIdentifierPart = b.isIdentifierPart ∨
        (Scan.reach one place).expecting = false ∧
          (one.take place).getLast?.any Token.isNameSeparator = false ∧
          lower (unquote a.text) ∉ cteNames one ++ cteNames two) ∧
      ((a.keyword? = some "DISTINCT" ↔ b.keyword? = some "DISTINCT") ∨
        Scan.follows (one.drop (place + 1)) (·.keyword? == some "FROM") = false))
    ⟨fun ⟨alike, part, distinct⟩ => ⟨alike, part, distinct⟩,
      fun h => ⟨h.toAlike, h.part, h.distinct⟩⟩

/-- The second text is the first one with `size` trivia before the token at `gap`, which tear no
name of a table apart. -/
structure Relaid (one two : List Token) (gap size : Nat) : Prop where
  within : gap ≤ one.length
  length : two.length = one.length + size
  blank : ∀ token ∈ (two.drop gap).take size,
    token.isTrivia = true ∧ token.isIdentifierPart = false
  counterpart : ∀ place < one.length, ∀ a ∈ one[place]?,
    ∀ b ∈ two[if place < gap then place else place + size]?, Counterpart one two place a b
  whole : ∀ place < one.length, ∀ token ∈ one[place]?, Scan.Reads one place token →
    gap ≤ place ∨ place + token.joined (one.drop (place + 1)) ≤ gap

instance (one two : List Token) (gap size : Nat) : Decidable (Relaid one two gap size) :=
  decidable_of_iff
    (gap ≤ one.length ∧ two.length = one.length + size ∧
      (∀ token ∈ (two.drop gap).take size,
        token.isTrivia = true ∧ token.isIdentifierPart = false) ∧
      (∀ place < one.length, ∀ a ∈ one[place]?,
        ∀ b ∈ two[if place < gap then place else place + size]?, Counterpart one two place a b) ∧
      ∀ place < one.length, ∀ token ∈ one[place]?, Scan.Reads one place token →
        gap ≤ place ∨ place + token.joined (one.drop (place + 1)) ≤ gap)
    ⟨fun ⟨within, length, blank, counterpart, whole⟩ =>
        ⟨within, length, blank, counterpart, whole⟩,
      fun h => ⟨h.within, h.length, h.blank, h.counterpart, h.whole⟩⟩

theorem drop_eq_cons {tokens : List Token} {place : Nat} {token : Token}
    (h : tokens[place]? = some token) : tokens.drop place = token :: tokens.drop (place + 1) := by
  obtain ⟨hlt, rfl⟩ := List.getElem?_eq_some_iff.1 h
  exact List.drop_eq_getElem_cons hlt

/-- A place of the first text and one of the second that have the same tokens behind them, the
trivia put in apart. -/
def Meets (gap size place other : Nat) : Prop :=
  place < gap ∧ other = place ∨ place = gap ∧ gap ≤ other ∧ other ≤ gap + size ∨
    gap < place ∧ other = place + size

namespace Relaid

variable {one two : List Token} {gap size place other : Nat}

/-- Where places meet, the second text has one of the trivia put in, or both texts have a token and
its counterpart, or both have ended. -/
theorem cases_of_meets (h : Relaid one two gap size) (hmeets : Meets gap size place other) :
    (∃ token, two[other]? = some token ∧ token.isTrivia = true ∧
        token.isIdentifierPart = false ∧ place = gap ∧ Meets gap size place (other + 1)) ∨
      (∃ a b, one[place]? = some a ∧ two[other]? = some b ∧ Counterpart one two place a b ∧
        Meets gap size (place + 1) (other + 1)) ∨
      one.length ≤ place ∧ two.length ≤ other := by
  have hwithin := h.within
  have hlength := h.length
  by_cases hblank : place = gap ∧ other < gap + size
  · obtain ⟨rfl, hother⟩ := hblank
    have hle : place ≤ other := by
      unfold Meets at hmeets
      omega
    have hlt : other < two.length := by omega
    have hmem : two[other] ∈ (two.drop place).take size := by
      rw [List.mem_take_iff_getElem]
      refine ⟨other - place, by rw [List.length_drop]; omega, ?_⟩
      simp only [List.getElem_drop, Nat.add_sub_cancel' hle]
    obtain ⟨htrivia, hpart⟩ := h.blank _ hmem
    exact .inl ⟨two[other], List.getElem?_eq_getElem hlt, htrivia, hpart, rfl,
      .inr (.inl ⟨rfl, by omega, by omega⟩)⟩
  · have hother : other = if place < gap then place else place + size := by
      unfold Meets at hmeets
      split <;> omega
    rcases Nat.lt_or_ge place one.length with hlt | hge
    · have hlater : other < two.length := by
        rw [hother]
        split <;> omega
      have hcounterpart := h.counterpart place hlt one[place] (List.getElem?_eq_getElem hlt)
        two[other] (by rw [← hother]; exact List.getElem?_eq_getElem hlater)
      refine .inr (.inl ⟨one[place], two[other], List.getElem?_eq_getElem hlt,
        List.getElem?_eq_getElem hlater, hcounterpart, ?_⟩)
      unfold Meets at hmeets ⊢
      omega
    · refine .inr (.inr ⟨hge, ?_⟩)
      rw [hother]
      split <;> omega

theorem meets_end (h : Relaid one two gap size) : Meets gap size one.length two.length := by
  have hwithin := h.within
  have hlength := h.length
  unfold Meets
  omega

/-- What holds where both texts have ended, and before a token wherever it holds after it, holds
wherever places meet. -/
theorem induction_of_meets (h : Relaid one two gap size) {motive : Nat → Nat → Prop}
    (hblank : ∀ place other token, Meets gap size place other → two[other]? = some token →
      token.isTrivia = true → motive place (other + 1) → motive place other)
    (hpair : ∀ place other a b, Meets gap size place other → one[place]? = some a →
      two[other]? = some b → Counterpart one two place a b →
      Meets gap size (place + 1) (other + 1) → motive (place + 1) (other + 1) →
      motive place other)
    (hend : ∀ place other, Meets gap size place other → one.length ≤ place →
      two.length ≤ other → motive place other)
    (place other : Nat) (hmeets : Meets gap size place other) : motive place other := by
  rcases h.cases_of_meets hmeets with
    ⟨token, htoken, htrivia, -, -, hnext⟩ | ⟨a, b, ha, hb, hcounterpart, hnext⟩ | ⟨hone, htwo⟩
  · exact hblank place other token hmeets htoken htrivia
      (h.induction_of_meets hblank hpair hend place (other + 1) hnext)
  · exact hpair place other a b hmeets ha hb hcounterpart hnext
      (h.induction_of_meets hblank hpair hend (place + 1) (other + 1) hnext)
  · exact hend place other hmeets hone htwo
  termination_by two.length - other
  decreasing_by all_goals grind

/-- A parenthesis that is read from places that meet ends where places meet. -/
theorem meets_groupLength (h : Relaid one two gap size) (place other : Nat)
    (hmeets : Meets gap size place other) (depth : Nat) :
    Meets gap size (place + groupLength depth (one.drop place))
      (other + groupLength depth (two.drop other)) := by
  refine h.induction_of_meets (motive := fun place other => ∀ depth,
    Meets gap size (place + groupLength depth (one.drop place))
      (other + groupLength depth (two.drop other))) ?_ ?_ ?_ place other hmeets depth
  · intro place other token _ htoken htrivia ih depth
    have hlater := ih depth
    rw [drop_eq_cons htoken, groupLength, Token.isMark_of_isTrivia htrivia,
      Token.isMark_of_isTrivia htrivia, if_neg (by simp), if_neg (by simp)]
    rwa [Nat.add_right_comm] at hlater
  · intro place other a b _ ha hb hcounterpart hnext ih depth
    -- The token is read in both texts, and what is left is read with the same depth.
    have hlater (depth : Nat) := ih depth
    simp only [Nat.add_right_comm _ 1] at hlater
    rw [drop_eq_cons ha, drop_eq_cons hb, groupLength, groupLength, hcounterpart.isMark,
      hcounterpart.isMark]
    split
    · exact hlater (depth + 1)
    split
    · split
      · exact hnext
      · exact hlater (depth - 1)
    · exact hlater depth
  · intro place other hmeets hone htwo depth
    rw [List.drop_eq_nil_of_le hone, List.drop_eq_nil_of_le htwo]
    exact hmeets

end Relaid

/-! ### Reading ahead -/

/-- The rest of each text from places that meet. -/
def Facing (one two : List Token) (gap size : Nat) (as bs : List Token) : Prop :=
  ∃ place other, Meets gap size place other ∧ as = one.drop place ∧ bs = two.drop other

/-- Rests that both begin with a token and its counterpart, or are both empty. -/
inductive Level (one two : List Token) (gap size : Nat) : List Token → List Token → Prop
  | nil : Level one two gap size [] []
  | cons {place : Nat} {a b : Token} {as bs : List Token} (pair : Counterpart one two place a b)
      (whole : Facing one two gap size (a :: as) (b :: bs))
      (rest : Facing one two gap size as bs) : Level one two gap size (a :: as) (b :: bs)

section Facing

variable {one two as bs : List Token} {gap size : Nat}

theorem Facing.skipTrivia (h : Relaid one two gap size) (hfacing : Facing one two gap size as bs) :
    Level one two gap size (skipTrivia as) (skipTrivia bs) := by
  obtain ⟨place, other, hmeets, rfl, rfl⟩ := hfacing
  refine h.induction_of_meets (motive := fun place other => Level one two gap size
    (Sql.skipTrivia (one.drop place)) (Sql.skipTrivia (two.drop other))) ?_ ?_ ?_ place other hmeets
  · intro place other token _ htoken htrivia ih
    rwa [drop_eq_cons htoken, Sql.skipTrivia, Sql.skipTrivia, List.dropWhile_cons_of_pos htrivia]
  · intro place other a b hmeets ha hb hcounterpart hnext ih
    rw [drop_eq_cons ha, drop_eq_cons hb, Sql.skipTrivia, Sql.skipTrivia]
    cases htrivia : a.isTrivia with
    | true =>
      rw [List.dropWhile_cons_of_pos htrivia,
        List.dropWhile_cons_of_pos (hcounterpart.trivia.symm.trans htrivia)]
      exact ih
    | false =>
      have hother : b.isTrivia = false := hcounterpart.trivia.symm.trans htrivia
      rw [List.dropWhile_cons_of_neg (by simp [htrivia]),
        List.dropWhile_cons_of_neg (by simp [hother])]
      exact .cons hcounterpart
        ⟨place, other, hmeets, (drop_eq_cons ha).symm, (drop_eq_cons hb).symm⟩
        ⟨place + 1, other + 1, hnext, rfl, rfl⟩
  · intro place other _ hone htwo
    rw [List.drop_eq_nil_of_le hone, List.drop_eq_nil_of_le htwo]
    exact .nil

theorem Facing.afterGroup (h : Relaid one two gap size) (hfacing : Facing one two gap size as bs) :
    Facing one two gap size (afterGroup as) (afterGroup bs) := by
  obtain ⟨place, other, hmeets, rfl, rfl⟩ := hfacing
  refine ⟨_, _, h.meets_groupLength _ _ hmeets 0, ?_, ?_⟩
  · rw [Sql.afterGroup, List.drop_drop]
  · rw [Sql.afterGroup, List.drop_drop]

theorem Level.facing (h : Relaid one two gap size) (hlevel : Level one two gap size as bs) :
    Facing one two gap size as bs := by
  cases hlevel with
  | nil => exact ⟨_, _, h.meets_end, by simp, by simp⟩
  | cons _ whole _ => exact whole

theorem Level.any_head? {fits : Token → Bool} (hlevel : Level one two gap size as bs)
    (hfits : ∀ a b : Token, a.Alike b → fits a = fits b) :
    as.head?.any fits = bs.head?.any fits := by
  cases hlevel with
  | nil => rfl
  | cons pair _ _ => exact hfits _ _ pair.toAlike

theorem Level.drop_one (h : Relaid one two gap size) (hlevel : Level one two gap size as bs) :
    Facing one two gap size (as.drop 1) (bs.drop 1) := by
  cases hlevel with
  | nil => exact Level.nil.facing h
  | cons _ _ rest => exact rest

theorem Level.ite {as' bs' : List Token} {this that : Bool} (heq : this = that)
    (hyes : Level one two gap size as bs) (hno : Level one two gap size as' bs') :
    Level one two gap size (if this then as else as') (if that then bs else bs') := by
  subst heq
  cases this with
  | true => exact hyes
  | false => exact hno

theorem Facing.follows (h : Relaid one two gap size) (hfacing : Facing one two gap size as bs)
    {fits : Token → Bool} (hfits : ∀ a b : Token, a.Alike b → fits a = fits b) :
    Scan.follows as fits = Scan.follows bs fits :=
  (hfacing.skipTrivia h).any_head? hfits

/-! ### Declarations -/

theorem skipTrivia_suffix (tokens : List Token) : skipTrivia tokens <:+ tokens :=
  List.dropWhile_suffix _

theorem bodyOf_suffix (tokens : List Token) : bodyOf tokens <:+ tokens := by
  have hgroup (tokens : List Token) : skipTrivia (afterGroup tokens) <:+ tokens :=
    (skipTrivia_suffix _).trans (List.drop_suffix _ _)
  have hmodifier (tokens : List Token) : skipTrivia (tokens.drop 1) <:+ tokens :=
    (skipTrivia_suffix _).trans (List.drop_suffix _ _)
  unfold bodyOf
  dsimp only
  split
  · rename_i word rest hword
    have hfront : word :: rest <:+ tokens := by
      rw [← hword]
      split
      · exact (hgroup _).trans (skipTrivia_suffix _)
      · exact skipTrivia_suffix _
    have hrest : skipTrivia rest <:+ tokens :=
      (skipTrivia_suffix _).trans ((List.suffix_cons _ _).trans hfront)
    split
    · generalize hbody : (if (skipTrivia rest).head?.any _ then _ else _) = body
      have hsuffix : body <:+ tokens := by
        rw [← hbody]
        split
        · exact (hmodifier _).trans hrest
        · exact hrest
      split
      · exact hsuffix
      · exact List.nil_suffix
    · exact List.nil_suffix
  · exact List.nil_suffix

/-- The next declaration stands after the one before it. -/
theorem length_nextDeclaration?_le (tokens : List Token) :
    ∀ next, nextDeclaration? tokens = some next → next.length ≤ tokens.length := by
  intro next hnext
  rw [nextDeclaration?_eq] at hnext
  split at hnext
  · rename_i mark rest hafter
    split at hnext
    · obtain rfl := Option.some.inj hnext
      have hmark : mark :: rest <:+ tokens := by
        rw [← hafter]
        exact (skipTrivia_suffix _).trans ((List.drop_suffix _ _).trans (bodyOf_suffix _))
      exact ((skipTrivia_suffix _).trans ((List.suffix_cons _ _).trans hmark)).length_le
    · cases hnext
  · cases hnext

theorem Facing.bodyOf (h : Relaid one two gap size) (hfacing : Facing one two gap size as bs) :
    Level one two gap size (bodyOf as) (bodyOf bs) := by
  have hopen {as bs : List Token} (hlevel : Level one two gap size as bs) :
      as.head?.any (·.isMark "(") = bs.head?.any (·.isMark "(") :=
    hlevel.any_head? fun a b halike => halike.isMark "("
  have hfront := hfacing.skipTrivia h
  have hword := Level.ite (hopen hfront) (((hfront.facing h).afterGroup h).skipTrivia h) hfront
  unfold Sql.bodyOf
  dsimp only
  generalize (if (Sql.skipTrivia as).head?.any (·.isMark "(") then _ else _) = front at hword ⊢
  generalize (if (Sql.skipTrivia bs).head?.any (·.isMark "(") then _ else _) = back at hword ⊢
  cases hword with
  | nil => exact .nil
  | cons pair _ rest =>
    have hrest := rest.skipTrivia h
    have has := pair.keyword?_iff (show "AS" ∈ actingKeywords by decide)
    have hacting : ∀ keyword ∈ ["MATERIALIZED", "NOT MATERIALIZED"], keyword ∈ actingKeywords := by
      decide
    have hmodifier := hrest.any_head? fun a b halike => halike.isKeywordOf hacting
    have hbody := Level.ite hmodifier ((hrest.drop_one h).skipTrivia h) hrest
    refine Level.ite ?_ (Level.ite (hopen hbody) hbody .nil) .nil
    rw [Bool.eq_iff_iff, beq_iff_eq, beq_iff_eq, has]

theorem Facing.nextDeclaration? (h : Relaid one two gap size)
    (hfacing : Facing one two gap size as bs) :
    Option.Rel (Level one two gap size) (nextDeclaration? as) (nextDeclaration? bs) := by
  have hafter := (((hfacing.bodyOf h).facing h).afterGroup h).skipTrivia h
  rw [nextDeclaration?_eq, nextDeclaration?_eq]
  generalize Sql.skipTrivia (Sql.afterGroup (Sql.bodyOf as)) = front at hafter ⊢
  generalize Sql.skipTrivia (Sql.afterGroup (Sql.bodyOf bs)) = back at hafter ⊢
  cases hafter with
  | nil => exact .none
  | cons pair _ rest =>
    dsimp only
    rw [pair.isMark]
    split
    · exact .some (rest.skipTrivia h)
    · exact .none

/-- The names of a list of declarations are the same where each text declares all of them. -/
theorem Level.declaredNames (h : Relaid one two gap size) (count others : Nat)
    (hlevel : Level one two gap size as bs) (hcount : as.length ≤ count)
    (hothers : bs.length ≤ others) (hone : ∀ name ∈ declaredNames count as, name ∈ cteNames one)
    (htwo : ∀ name ∈ declaredNames others bs, name ∈ cteNames two) :
    declaredNames count as = declaredNames others bs := by
  induction count generalizing others as bs with
  | zero =>
    obtain rfl : as = [] := List.eq_nil_of_length_eq_zero (Nat.le_zero.1 hcount)
    cases hlevel
    cases others <;> rfl
  | succ count ih =>
    cases hlevel with
    | nil => cases others <;> rfl
    | @cons place a b as bs pair _ rest =>
      cases others with
      | zero => simp at hothers
      | succ others =>
        -- A name that one text declares is a part of a name in the other one, too.
        have hpart : a.isIdentifierPart = b.isIdentifierPart := by
          rcases pair.part with heq | ⟨-, -, hundeclared⟩
          · exact heq
          rw [List.mem_append, not_or] at hundeclared
          have ha : a.isIdentifierPart = false := by
            rw [← Bool.not_eq_true]
            intro hpart
            exact hundeclared.1 (hone _ (by simp [Sql.declaredNames, hpart]))
          have hb : b.isIdentifierPart = false := by
            rw [← Bool.not_eq_true]
            intro hpart
            exact hundeclared.2 (htwo _ (by simp [Sql.declaredNames, hpart, pair.text]))
          rw [ha, hb]
        rw [Sql.declaredNames, Sql.declaredNames, hpart, pair.text]
        rw [Sql.declaredNames, hpart] at hone
        rw [Sql.declaredNames] at htwo
        split
        · rename_i hyes
          rw [if_pos hyes, List.forall_mem_cons] at hone htwo
          have hnext := rest.nextDeclaration? h
          have hshort := length_nextDeclaration?_le as
          have hshorter := length_nextDeclaration?_le bs
          congr 1
          generalize nextDeclaration? as = front at hnext hone hshort ⊢
          generalize nextDeclaration? bs = back at hnext htwo hshorter ⊢
          cases hnext with
          | none => rfl
          | some hlevel =>
            rw [List.length_cons] at hcount hothers
            refine ih others hlevel ?_ ?_ hone.2 htwo.2
            · exact (hshort _ rfl).trans (by omega)
            · exact (hshorter _ rfl).trans (by omega)
        · rfl

theorem Facing.withNames (h : Relaid one two gap size) (hfacing : Facing one two gap size as bs)
    (hone : ∀ name ∈ withNames as, name ∈ cteNames one)
    (htwo : ∀ name ∈ withNames bs, name ∈ cteNames two) : withNames as = withNames bs := by
  have hfront := hfacing.skipTrivia h
  have hacting : ∀ keyword ∈ ["RECURSIVE"], keyword ∈ actingKeywords := by decide
  have hrecursive := hfront.any_head? fun a b halike => halike.isKeywordOf hacting
  have hfirst := Level.ite hrecursive ((hfront.drop_one h).skipTrivia h) hfront
  exact hfirst.declaredNames h _ _ (Nat.le_refl _) (Nat.le_refl _) hone htwo

end Facing

theorem mem_cteNames_of_with {tokens : List Token} {place : Nat} {word : Token} {name : String}
    (hword : tokens[place]? = some word) (hwith : word.keyword? = some "WITH")
    (hname : name ∈ withNames (tokens.drop (place + 1))) : name ∈ cteNames tokens := by
  rw [withNames_eq, List.mem_map] at hname
  obtain ⟨hlt, -⟩ := List.getElem?_eq_some_iff.1 hword
  exact mem_cteNames.2 ⟨place, hlt, by rw [hword, Option.bind_some, hwith], hname⟩

/-- Both texts declare the same names. -/
theorem Relaid.cteNames_eq {one two : List Token} {gap size : Nat} (h : Relaid one two gap size) :
    cteNames one = cteNames two := by
  have hrest (place other : Nat) (hmeets : Meets gap size place other) :
      cteNames (one.drop place) = cteNames (two.drop other) := by
    refine h.induction_of_meets (motive := fun place other =>
      cteNames (one.drop place) = cteNames (two.drop other)) ?_ ?_ ?_ place other hmeets
    · intro place other token _ htoken htrivia ih
      rw [drop_eq_cons htoken, cteNames, Token.keyword?_of_isTrivia htrivia, if_neg (by simp)]
      exact ih
    · intro place other a b _ ha hb hcounterpart hnext ih
      have hwith := hcounterpart.keyword?_iff (show "WITH" ∈ actingKeywords by decide)
      have hsame : (a.keyword? == some "WITH") = (b.keyword? == some "WITH") := by
        rw [Bool.eq_iff_iff, beq_iff_eq, beq_iff_eq, hwith]
      rw [drop_eq_cons ha, drop_eq_cons hb, cteNames, cteNames, hsame]
      split
      · rename_i hword
        rw [beq_iff_eq] at hword
        have hfacing : Facing one two gap size (one.drop (place + 1)) (two.drop (other + 1)) :=
          ⟨_, _, hnext, rfl, rfl⟩
        rw [ih, hfacing.withNames h (fun _ => mem_cteNames_of_with ha (hwith.2 hword))
          fun _ => mem_cteNames_of_with hb hword]
      · exact ih
    · intro place other _ hone htwo
      rw [List.drop_eq_nil_of_le hone, List.drop_eq_nil_of_le htwo]
  have hstart : Meets gap size 0 0 := by
    unfold Meets
    omega
  exact hrest 0 0 hstart

end SemanticLayer.Sql
