import SemanticLayer.Proofs.Sql.Relaid
import SemanticLayer.Proofs.Sql.Span

/-!
References do not depend on the layout of a text, as long as the name of no table is torn apart. The
scanner reads both texts side by side: where their places meet, its states agree, except that in one
of them the alias of a table may still have to be passed over. Reading an alias as any other tokens
would change nothing.
-/

namespace SemanticLayer.Sql

open Text

/-! ### Names -/

namespace Token

/-- The number of tokens of a name without its alias, or of the array function with its
arguments. -/
def span (token : Token) (rest : List Token) : Nat :=
  if token.opensUnnest rest then 1 + groupLength 0 rest else 1 + 2 * (moreParts rest).length

theorem span_pos (token : Token) (rest : List Token) : 0 < token.span rest := by
  unfold span
  split <;> omega

end Token

/-- The key of a name's reference. -/
theorem key_readReference {declared : List String} {keyword : String} {start : Nat}
    {token : Token} {rest : List Token} :
    (readReference declared keyword start token rest).1.map TableReference.key =
      if token.opensUnnest rest ||
          (moreParts rest).isEmpty && declared.contains (lower (unquote token.text)) then
        none
      else
        some ((moreParts rest).foldl (· ++ ·) (unquote token.text), true) := by
  have hnone : (readReference declared keyword start token rest).1 = none ↔ _ :=
    readReference_eq_none
  split
  · rename_i hskipped
    rw [Bool.or_eq_true, Bool.and_eq_true, List.isEmpty_iff, List.contains_iff_mem] at hskipped
    rw [hnone.2 hskipped, Option.map_none]
  · rename_i hread
    rw [Bool.or_eq_true, Bool.and_eq_true, List.isEmpty_iff, List.contains_iff_mem] at hread
    obtain ⟨r, hr⟩ := Option.ne_none_iff_exists'.1 fun heq => hread (hnone.1 heq)
    rw [hr, Option.map_some]
    unfold readReference at hr
    dsimp only at hr
    split at hr
    · cases hr
    split at hr
    · cases hr
    · obtain rfl := Option.some.inj hr
      rfl

theorem groupLength_le (depth : Nat) (tokens : List Token) :
    groupLength depth tokens ≤ tokens.length := by
  induction tokens generalizing depth with
  | nil => simp [groupLength]
  | cons token rest ih =>
    rw [groupLength, List.length_cons]
    split
    · exact Nat.succ_le_succ (ih _)
    split
    · split
      · omega
      · exact Nat.succ_le_succ (ih _)
    · exact Nat.succ_le_succ (ih _)

namespace Relaid

variable {one two : List Token} {gap size place other : Nat} {a b : Token}

/-- The tokens after a separator are parts of names in both texts or in none. -/
theorem part_of_separator (hpair : Counterpart one two (place + 1) a b) {before : Token}
    (hbefore : one[place]? = some before) (hseparator : before.isNameSeparator = true) :
    a.isIdentifierPart = b.isIdentifierPart := by
  rcases hpair.part with heq | ⟨-, hplain, -⟩
  · exact heq
  · obtain ⟨hlt, rfl⟩ := List.getElem?_eq_some_iff.1 hbefore
    rw [List.take_add_one, List.getElem?_eq_getElem hlt, Option.toList_some,
      List.getLast?_concat, Option.any_some, hseparator] at hplain
    cases hplain

/-- A name that nothing is put into has the same further parts in both texts. -/
theorem moreParts_eq (h : Relaid one two gap size) (place other : Nat)
    (hmeets : Meets gap size place other)
    (hwhole : gap < place ∨ place + 2 * (moreParts (one.drop place)).length ≤ gap) :
    moreParts (one.drop place) = moreParts (two.drop other) := by
  rcases h.cases_of_meets hmeets with
    ⟨token, htoken, htrivia, -, hgap, -⟩ | ⟨a, b, ha, hb, hpair, hnext⟩ | ⟨hone, htwo⟩
  · -- What is put in goes on with no name, and the name of the first text ends before it.
    have hnil : moreParts (one.drop place) = [] := List.eq_nil_of_length_eq_zero (by omega)
    rw [hnil, drop_eq_cons htoken]
    cases two.drop (other + 1) <;>
      simp [moreParts, Token.isNameSeparator_of_isTrivia htrivia]
  · rcases h.cases_of_meets hnext with
      ⟨token, htoken, -, hpart, hgap, -⟩ | ⟨part, twin, hpart, htwin, hcounterpart, hlater⟩ |
        ⟨hone, htwo⟩
    · have hnil : moreParts (one.drop place) = [] := List.eq_nil_of_length_eq_zero (by omega)
      rw [hnil, drop_eq_cons hb, drop_eq_cons htoken]
      simp [moreParts, hpart]
    · have hrest := moreParts_eq h (place + 1 + 1) (other + 1 + 1) hlater
      rw [drop_eq_cons ha, drop_eq_cons hpart] at hwhole ⊢
      rw [drop_eq_cons hb, drop_eq_cons htwin]
      rw [moreParts] at hwhole ⊢
      rw [moreParts, ← hpair.separator, ← hpair.text, ← hcounterpart.text]
      cases hseparator : a.isNameSeparator with
      | false => rfl
      | true =>
        rw [← part_of_separator hcounterpart ha hseparator]
        rw [hseparator] at hwhole
        split
        · rename_i hparts
          rw [if_pos hparts, List.length_cons] at hwhole
          rw [hrest (by omega)]
        · rfl
    · rw [drop_eq_cons ha, drop_eq_cons hb, List.drop_eq_nil_of_le hone,
        List.drop_eq_nil_of_le htwo]
      rfl
  · rw [List.drop_eq_nil_of_le hone, List.drop_eq_nil_of_le htwo]
  termination_by two.length - other
  decreasing_by grind

theorem opensUnnest_eq (h : Relaid one two gap size) (hpair : a.Alike b)
    (hnext : Meets gap size (place + 1) (other + 1))
    (hwhole : gap ≤ place ∨ place + a.joined (one.drop (place + 1)) ≤ gap) :
    a.opensUnnest (one.drop (place + 1)) = b.opensUnnest (two.drop (other + 1)) := by
  have hjoined : a.opensUnnest (one.drop (place + 1)) = true →
      a.joined (one.drop (place + 1)) = 2 := by
    intro hopens
    rw [Token.joined, if_pos hopens]
  rw [Token.opensUnnest] at hjoined ⊢
  rw [Token.opensUnnest, ← hpair.text]
  rcases h.cases_of_meets hnext with
    ⟨token, htoken, htrivia, -, hgap, -⟩ | ⟨mark, twin, hopen, htwin, hmark, -⟩ | ⟨hone, htwo⟩
  · -- The name and its parenthesis would be torn apart.
    have hclosed : ¬ ((one.drop (place + 1)).head?.any (·.isMark "(") &&
        upper (unquote a.text) == "UNNEST") = true := by
      intro hopens
      have hsize := hjoined hopens
      omega
    rw [Bool.not_eq_true] at hclosed
    rw [hclosed, drop_eq_cons htoken]
    simp [Token.isMark_of_isTrivia htrivia]
  · rw [drop_eq_cons hopen, drop_eq_cons htwin]
    simp [hmark.isMark]
  · rw [List.drop_eq_nil_of_le hone, List.drop_eq_nil_of_le htwo]

end Relaid

/-! ### Aliases -/

namespace Scan

variable {tokens : List Token} {token : Token} {place : Nat}

/-- What is still to be passed over before a place is idle, and no table is expected there. -/
def OnlyAlias (tokens : List Token) (place : Nat) : Prop :=
  0 < (reach tokens place).skip → (reach tokens place).expecting = false ∧
    ∀ token ∈ (tokens.drop place).take (reach tokens place).skip, token.IsIdle

/-- The keys of what is found from a place on. -/
def keysFrom (tokens : List Token) (place : Nat) : List (String × Bool) :=
  ((reach tokens place).run (cteNames tokens) (tokens.drop place)).map TableReference.key

theorem keysFrom_succ (h : tokens[place]? = some token) :
    keysFrom tokens place =
      ((reach tokens place).step (cteNames tokens) token
          (tokens.drop (place + 1))).1.map TableReference.key ++
        keysFrom tokens (place + 1) := by
  rw [keysFrom, drop_eq_cons h, run]
  dsimp only
  rw [List.map_append, ← reach_succ h, ← keysFrom]

theorem keysFrom_end (h : tokens.length ≤ place) : keysFrom tokens place = [] := by
  rw [keysFrom, List.drop_eq_nil_of_le h]
  rfl

theorem OnlyAlias.of_free (h : (reach tokens place).skip = 0) : OnlyAlias tokens place :=
  fun hpos => absurd hpos (by omega)

theorem OnlyAlias.passes_of_trivia (h : OnlyAlias tokens place) (htrivia : token.isTrivia = true) :
    (reach tokens place).Passes token := by
  rcases Nat.eq_zero_or_pos (reach tokens place).skip with hskip | hskip
  · exact .inl ⟨htrivia, hskip⟩
  · exact .inr ⟨(h hskip).1, Token.isIdle_of_isTrivia htrivia⟩

theorem OnlyAlias.passes_of_skip (h : OnlyAlias tokens place) (htoken : tokens[place]? = some token)
    (hskip : 0 < (reach tokens place).skip) : (reach tokens place).Passes token := by
  obtain ⟨hcalm, hidle⟩ := h hskip
  refine .inr ⟨hcalm, hidle token ?_⟩
  rw [drop_eq_cons htoken, ← Nat.sub_add_cancel hskip, List.take_succ_cons]
  exact List.mem_cons_self

/-- Where nothing is done at a token, nothing is found, and the state stays. -/
theorem OnlyAlias.next (h : OnlyAlias tokens place) (htoken : tokens[place]? = some token)
    (hpasses : (reach tokens place).Passes token) :
    keysFrom tokens place = keysFrom tokens (place + 1) ∧
      (reach tokens (place + 1)).view = (reach tokens place).view ∧
      OnlyAlias tokens (place + 1) := by
  have hstate : reach tokens (place + 1) =
      { reach tokens place with skip := (reach tokens place).skip - 1 }.advance token := by
    rw [reach_succ htoken, step_of_passes hpasses]
  refine ⟨by rw [keysFrom_succ htoken, step_of_passes hpasses, List.map_nil, List.nil_append], ?_,
    ?_⟩
  · rw [hstate]
    rfl
  · rw [OnlyAlias, hstate]
    simp only [advance]
    intro hskip
    obtain ⟨hcalm, hidle⟩ := h (by omega)
    refine ⟨hcalm, fun other hother => hidle other ?_⟩
    rw [drop_eq_cons htoken, ← Nat.sub_add_cancel (show 1 ≤ (reach tokens place).skip by omega),
      List.take_succ_cons]
    exact List.mem_cons_of_mem _ hother

/-- While a name is passed over, nothing is found. -/
theorem keysFrom_of_skip (count : Nat) (hskip : count ≤ (reach tokens place).skip)
    (hlength : place + count ≤ tokens.length) :
    keysFrom tokens place = keysFrom tokens (place + count) := by
  induction count generalizing place with
  | zero => rfl
  | succ count ih =>
    have htoken : tokens[place]? = some tokens[place] := List.getElem?_eq_getElem (by omega)
    have hbusy : 0 < (reach tokens place).skip := by omega
    have hstate : (reach tokens (place + 1)).skip = (reach tokens place).skip - 1 := by
      rw [reach_succ htoken, step_of_skip hbusy]
      rfl
    rw [keysFrom_succ htoken, step_of_skip hbusy, List.map_nil, List.nil_append,
      ih (by omega) (by omega), Nat.add_right_comm]
    rfl

theorem Reads.span_le (h : Reads tokens place token) :
    place + token.span (tokens.drop (place + 1)) ≤ tokens.length := by
  obtain ⟨hlt, -⟩ := List.getElem?_eq_some_iff.1 h.found
  have hgroup := groupLength_le 0 (tokens.drop (place + 1))
  have hparts := two_mul_length_moreParts (tokens.drop (place + 1))
  rw [List.length_drop] at hgroup hparts
  unfold Token.span
  split <;> omega

/-- What is read along with a name is its span and an alias. -/
theorem extent_eq (token : Token) (rest : List Token) :
    ∃ size, token.extent rest = token.span rest + size ∧
      ∀ other ∈ (rest.drop (token.span rest - 1)).take size, other.IsIdle := by
  unfold Token.extent Token.span
  split
  · exact ⟨0, rfl, by simp⟩
  · refine ⟨_, rfl, ?_⟩
    rw [Nat.add_sub_cancel_left]
    cases halias : aliasAt? (rest.drop (2 * (moreParts rest).length)) with
    | none => simp
    | some found =>
      obtain ⟨name, size⟩ := found
      intro other hother
      exact Token.isIdle_of_alias (aliasAt?_eq_some halias other hother)

/-- A name is read as a whole, and after it no table is expected. Only its alias is then left to be
passed over. -/
theorem Reads.after (h : Reads tokens place token) :
    keysFrom tokens place =
        ((readReference (cteNames tokens) (reach tokens place).keyword
          (reach tokens place).position token
          (tokens.drop (place + 1))).1.map TableReference.key).toList ++
          keysFrom tokens (place + token.span (tokens.drop (place + 1))) ∧
      (reach tokens (place + token.span (tokens.drop (place + 1)))).view =
        ((reach tokens place).scope, (reach tokens place).outer, false) ∧
      OnlyAlias tokens (place + token.span (tokens.drop (place + 1))) := by
  have hlength := h.span_le
  obtain ⟨size, hextent, hidle⟩ := extent_eq token (tokens.drop (place + 1))
  have hpos : token.span (tokens.drop (place + 1)) =
      token.span (tokens.drop (place + 1)) - 1 + 1 :=
    (Nat.sub_add_cancel (token.span_pos _)).symm
  generalize hspan : token.span (tokens.drop (place + 1)) - 1 = span at hpos hidle
  rw [hpos] at hlength hextent ⊢
  have hplace : place + (span + 1) = place + 1 + span := by omega
  obtain ⟨hskip, hcalm, hscope, houter⟩ := h.reach_eq span (by omega) (by omega)
  have hfirst : (reach tokens (place + 1)).skip = span + size := by
    have hnext := (h.reach_eq 0 (by omega) (by omega)).1
    simp only [Nat.add_zero] at hnext
    omega
  rw [hplace]
  refine ⟨?_, by rw [view, hscope, houter, hcalm], fun _ => ⟨hcalm, ?_⟩⟩
  · rw [keysFrom_succ h.found, h.step_eq, ← keysFrom_of_skip span (by omega) (by omega)]
    cases (readReference _ _ _ _ _).1 <;> rfl
  · have hsize : (reach tokens (place + 1 + span)).skip = size := by omega
    rw [hsize]
    rwa [List.drop_drop] at hidle

/-- The states before a place of each text say the same about the tokens to come. -/
structure Agrees (one two : List Token) (place other : Nat) : Prop where
  view : (reach one place).view = (reach two other).view
  one : OnlyAlias one place
  two : OnlyAlias two other

end Scan

/-! ### Both texts -/

namespace Relaid

open Scan

variable {one two : List Token} {gap size place other : Nat} {a b : Token}

/-- Before a `FROM`, the last tokens are the word `DISTINCT` in both texts or in none. -/
theorem previous_distinct_iff (h : Relaid one two gap size) (hmeets : Meets gap size place other)
    (hfrom : follows (one.drop place) (·.keyword? == some "FROM") = true) :
    (reach one place).previous.bind Token.keyword? = some "DISTINCT" ↔
      (reach two other).previous.bind Token.keyword? = some "DISTINCT" := by
  have hlength := h.length
  have hwithin := h.within
  induction other generalizing place with
  | zero =>
    obtain rfl : place = 0 := by
      unfold Meets at hmeets
      omega
    exact Iff.rfl
  | succ other ih =>
    by_cases hblank : place = gap ∧ gap ≤ other
    · have hbefore : Meets gap size place other := by
        unfold Meets at hmeets ⊢
        omega
      rcases h.cases_of_meets hbefore with
        ⟨token, htoken, htrivia, -, -, -⟩ | ⟨a, b, -, -, -, hnext⟩ | ⟨hone, htwo⟩
      · rw [reach_succ htoken, step_frame.2, if_pos htrivia]
        exact ih hbefore hfrom
      · unfold Meets at hmeets hnext
        omega
      · unfold Meets at hmeets
        omega
    · obtain ⟨earlier, rfl⟩ : ∃ earlier, place = earlier + 1 := by
        refine Nat.exists_eq_add_one_of_ne_zero ?_
        unfold Meets at hmeets
        omega
      have hbefore : Meets gap size earlier other := by
        unfold Meets at hmeets ⊢
        omega
      rcases h.cases_of_meets hbefore with
        ⟨token, -, -, -, rfl, hnext⟩ | ⟨a, b, ha, hb, hpair, -⟩ | ⟨hone, -⟩
      · unfold Meets at hmeets hnext
        omega
      · rw [reach_succ ha, reach_succ hb, step_frame.2, step_frame.2, hpair.trivia]
        split
        · rename_i htrivia
          refine ih hbefore ?_
          rw [drop_eq_cons ha, follows, skipTrivia,
            List.dropWhile_cons_of_pos (hpair.trivia.trans htrivia)]
          exact hfrom
        · rcases hpair.distinct with hiff | hnone
          · exact hiff
          · rw [hnone] at hfrom
            cases hfrom
      · rw [List.drop_eq_nil_of_le (by omega)] at hfrom
        cases hfrom

/-- Where a token of one text is passed over, its counterpart is passed over, too. -/
theorem passes_of_agrees (hagrees : Agrees one two place other)
    (hpair : Counterpart one two place a b) (ha : one[place]? = some a)
    (hb : two[other]? = some b)
    (hbusy : a.isTrivia = true ∨ 0 < (reach one place).skip ∨ 0 < (reach two other).skip) :
    (reach one place).Passes a ∧ (reach two other).Passes b := by
  obtain ⟨-, -, hexpecting⟩ := view_eq_iff.1 hagrees.view
  rcases hbusy with htrivia | hskip | hskip
  · exact ⟨hagrees.one.passes_of_trivia htrivia,
      hagrees.two.passes_of_trivia (hpair.trivia.symm.trans htrivia)⟩
  · have hpasses := hagrees.one.passes_of_skip ha hskip
    rcases hpasses with ⟨-, hfree⟩ | ⟨hcalm, hidle⟩
    · omega
    · exact ⟨.inr ⟨hcalm, hidle⟩, .inr ⟨hexpecting.symm.trans hcalm, hpair.isIdle.1 hidle⟩⟩
  · have hpasses := hagrees.two.passes_of_skip hb hskip
    rcases hpasses with ⟨-, hfree⟩ | ⟨hcalm, hidle⟩
    · omega
    · exact ⟨.inr ⟨hexpecting.trans hcalm, hpair.isIdle.2 hidle⟩, .inr ⟨hcalm, hidle⟩⟩

/-- At a token that begins no name of a table, the same is found in both texts, and the states agree
after it. -/
theorem step_agrees (h : Relaid one two gap size) (hmeets : Meets gap size place other)
    (hnext : Meets gap size (place + 1) (other + 1)) (hagrees : Agrees one two place other)
    (hpair : Counterpart one two place a b) (ha : one[place]? = some a)
    (hb : two[other]? = some b) (hreads : ¬ Reads one place a) :
    ∃ found, keysFrom one place = found ++ keysFrom one (place + 1) ∧
      keysFrom two other = found ++ keysFrom two (other + 1) ∧
      Agrees one two (place + 1) (other + 1) := by
  by_cases hbusy : a.isTrivia = true ∨ 0 < (reach one place).skip ∨ 0 < (reach two other).skip
  · obtain ⟨hone, htwo⟩ := passes_of_agrees hagrees hpair ha hb hbusy
    obtain ⟨hkeys, hview, halias⟩ := hagrees.one.next ha hone
    obtain ⟨hothers, hsame, hlater⟩ := hagrees.two.next hb htwo
    exact ⟨[], hkeys, hothers, hview.trans (hagrees.view.trans hsame.symm), halias, hlater⟩
  simp only [not_or, Bool.not_eq_true, Nat.not_lt, Nat.le_zero_eq] at hbusy
  obtain ⟨htrivia, hfree, hempty⟩ := hbusy
  have hfacing : Facing one two gap size (one.drop (place + 1)) (two.drop (other + 1)) :=
    ⟨_, _, hnext, rfl, rfl⟩
  have hdistinct (hfrom : a.keyword? = some "FROM") :=
    h.previous_distinct_iff hmeets (by
      rw [drop_eq_cons ha, follows, skipTrivia, List.dropWhile_cons_of_neg (by simp [htrivia])]
      simp [hfrom])
  have hpart (hexpected : (reach one place).expecting = true) :
      a.isIdentifierPart = false ∧ b.isIdentifierPart = false := by
    have hplain : a.isIdentifierPart = false := by
      rw [← Bool.not_eq_true]
      exact fun hpart => hreads ⟨ha, hfree, htrivia, hexpected, hpart⟩
    rcases hpair.part with heq | ⟨hcalm, -⟩
    · exact ⟨hplain, heq.symm.trans hplain⟩
    · rw [hexpected] at hcalm
      cases hcalm
  obtain ⟨hkeys, hview, hone, htwo⟩ := step_alike hpair.toAlike hagrees.view htrivia hfree hempty
    hpart (fun _ hfits => hfacing.follows h hfits) hdistinct
  have hlater : reach two (other + 1) =
      ((reach two other).step (cteNames one) b (two.drop (other + 1))).2 := by
    rw [reach_succ hb, h.cteNames_eq]
  rw [← reach_succ ha, ← hlater] at hview
  rw [← reach_succ ha] at hone
  rw [← hlater] at htwo
  refine ⟨_, keysFrom_succ ha, ?_, hview, .of_free hone, .of_free htwo⟩
  rw [keysFrom_succ hb, ← h.cteNames_eq, hkeys]

/-- Where a name of a table is read in one text, one is read in the other. -/
theorem reads_of_agrees (hagrees : Agrees one two place other)
    (hpair : Counterpart one two place a b) (hb : two[other]? = some b)
    (hreads : Reads one place a) : Reads two other b := by
  obtain ⟨-, -, hexpecting⟩ := view_eq_iff.1 hagrees.view
  have hexpected := hexpecting.symm.trans hreads.expected
  refine ⟨hb, ?_, hpair.trivia.symm.trans hreads.significant, hexpected, ?_⟩
  · by_contra hskip
    have hcalm := (hagrees.two (Nat.pos_of_ne_zero hskip)).1
    rw [hexpected] at hcalm
    cases hcalm
  · rcases hpair.part with heq | ⟨hcalm, -⟩
    · exact heq.symm.trans hreads.part
    · rw [hreads.expected] at hcalm
      cases hcalm

/-- Either both texts have the array function at a name, or the same parts of one name. -/
theorem readReference_agrees (h : Relaid one two gap size)
    (hnext : Meets gap size (place + 1) (other + 1)) (hpair : Counterpart one two place a b)
    (hreads : Reads one place a) (keyword otherKeyword : String) (position otherPosition : Nat) :
    (readReference (cteNames one) keyword position a (one.drop (place + 1))).1.map
        TableReference.key =
      (readReference (cteNames two) otherKeyword otherPosition b (two.drop (other + 1))).1.map
        TableReference.key ∧
      Meets gap size (place + a.span (one.drop (place + 1)))
        (other + b.span (two.drop (other + 1))) := by
  obtain ⟨hlt, -⟩ := List.getElem?_eq_some_iff.1 hreads.found
  have hwhole := h.whole place hlt a hreads.found hreads
  have hopens := h.opensUnnest_eq hpair.toAlike hnext hwhole
  rw [key_readReference, key_readReference, ← hopens, ← hpair.text, h.cteNames_eq, Token.span,
    Token.span, ← hopens]
  cases hunnest : a.opensUnnest (one.drop (place + 1)) with
  | true =>
    refine ⟨rfl, ?_⟩
    have hgroup := h.meets_groupLength _ _ hnext 0
    rwa [Nat.add_assoc, Nat.add_assoc other] at hgroup
  | false =>
    rw [Token.joined, if_neg (by simp [hunnest])] at hwhole
    have hparts := h.moreParts_eq _ _ hnext (by omega)
    rw [← hparts]
    refine ⟨rfl, ?_⟩
    rw [if_neg (by simp), if_neg (by simp)]
    unfold Meets at hnext ⊢
    omega

/-- A name of a table is read in both texts, as the same name, and the states agree after it. -/
theorem reads_agrees (h : Relaid one two gap size)
    (hnext : Meets gap size (place + 1) (other + 1)) (hagrees : Agrees one two place other)
    (hpair : Counterpart one two place a b) (hb : two[other]? = some b)
    (hreads : Reads one place a) :
    ∃ found, ∃ later > other, ∃ after,
      keysFrom one place = found ++ keysFrom one after ∧
      keysFrom two other = found ++ keysFrom two later ∧
      Meets gap size after later ∧ Agrees one two after later := by
  obtain ⟨hscope, houter, -⟩ := view_eq_iff.1 hagrees.view
  have hmatch := reads_of_agrees hagrees hpair hb hreads
  obtain ⟨hname, hmeets⟩ := h.readReference_agrees hnext hpair hreads (reach one place).keyword
    (reach two other).keyword (reach one place).position (reach two other).position
  obtain ⟨hkeys, hview, halias⟩ := hreads.after
  obtain ⟨hothers, hsame, hlater⟩ := hmatch.after
  have hpos := b.span_pos (two.drop (other + 1))
  refine ⟨_, other + b.span (two.drop (other + 1)), by omega, _, hkeys, ?_, hmeets, ?_, halias,
    hlater⟩
  · rw [hothers, hname]
  · rw [hview, hsame, hscope, houter]

/-- From places that meet, the same is found in both texts. -/
theorem keysFrom_eq (h : Relaid one two gap size) (place other : Nat)
    (hmeets : Meets gap size place other) (hagrees : Agrees one two place other) :
    keysFrom one place = keysFrom two other := by
  rcases h.cases_of_meets hmeets with
    ⟨token, htoken, htrivia, -, -, hnext⟩ | ⟨a, b, ha, hb, hpair, hnext⟩ | ⟨hone, htwo⟩
  · obtain ⟨hkeys, hview, halias⟩ :=
      hagrees.two.next htoken (hagrees.two.passes_of_trivia htrivia)
    rw [hkeys]
    exact keysFrom_eq h place (other + 1) hnext
      ⟨hagrees.view.trans hview.symm, hagrees.one, halias⟩
  · by_cases hreads : Reads one place a
    · obtain ⟨found, later, hlt, after, hkeys, hothers, hafter, hlater⟩ :=
        h.reads_agrees hnext hagrees hpair hb hreads
      rw [hkeys, hothers, keysFrom_eq h after later hafter hlater]
    · obtain ⟨found, hkeys, hothers, hlater⟩ :=
        h.step_agrees hmeets hnext hagrees hpair ha hb hreads
      rw [hkeys, hothers, keysFrom_eq h (place + 1) (other + 1) hnext hlater]
  · rw [keysFrom_end hone, keysFrom_end htwo]
  termination_by two.length - other
  decreasing_by all_goals grind

/-- The references of both texts have the same names, in the same order. -/
theorem map_key_tableReferences (h : Relaid one two gap size) :
    (tableReferences one).map TableReference.key =
      (tableReferences two).map TableReference.key := by
  have hmeets : Meets gap size 0 0 := by
    unfold Meets
    omega
  have hkeys := h.keysFrom_eq 0 0 hmeets ⟨rfl, .of_free rfl, .of_free rfl⟩
  simpa [keysFrom, reach, tableReferences] using hkeys

end Relaid

end SemanticLayer.Sql
