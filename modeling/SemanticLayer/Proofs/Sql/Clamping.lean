import SemanticLayer.Proofs.Decimal.Whole
import SemanticLayer.Proofs.Sql.Rejoining

/-!
Bounding the rows of a text. The count is the first token after the last limit that is no trivia, and
it is lowered if it asks for all rows or for more than the bound. What is written into the text, or put
after it, is read again as the count of its last limit, so bounding the rows once more changes nothing.
-/

namespace SemanticLayer.Sql

open Text

/-! ### Counts -/

theorem Token.IsReadAt.readInt_eq {token : Token} {left : Option Char} {rest : List Char}
    (h : token.IsReadAt left rest) (hkind : token.kind = .integer)
    (hshort : (Decimal.valuesOf token.text.toList).length ≤ Decimal.digitLimit) :
    Decimal.readInt token.text = .ok (Decimal.spelled token.text) := by
  obtain ⟨ds, htext, hne, hdigit⟩ := h.exists_digits hkind
  obtain ⟨negative, hsigned⟩ : ∃ negative, token.text.toList = Decimal.signOf negative ++ ds := by
    rcases htext with htext | htext
    · exact ⟨false, htext⟩
    · exact ⟨true, htext⟩
  have hcount : (Decimal.valuesOf token.text.toList).length = ds.length := by
    rw [hsigned, Decimal.length_valuesOf, List.countP_append, List.countP_eq_length.2 hdigit]
    cases negative <;> exact Nat.zero_add _
  have hread := Decimal.readInt_of_digits negative hne hdigit
  rw [← hsigned, String.ofList_toList] at hread
  rw [hread, if_neg (by omega)]

/-- The token asks neither for all rows nor for more than the bound. -/
structure Token.Allows (maxRows : Int) (token : Token) : Prop where
  notAll : ¬token.IsKeyword "ALL"
  count : token.kind = .integer → Decimal.spelled token.text ≤ maxRows

instance (maxRows : Int) (token : Token) : Decidable (token.Allows maxRows) :=
  decidable_of_iff
    (¬token.IsKeyword "ALL" ∧ (token.kind = .integer → Decimal.spelled token.text ≤ maxRows))
    ⟨fun ⟨notAll, count⟩ => ⟨notAll, count⟩, fun h => ⟨h.notAll, h.count⟩⟩

/-- A token that asks for too many rows gets the bound. -/
theorem lowered?_eq (maxRows : Int) {token : Token}
    (h : token.kind = .integer → Decimal.readInt token.text = .ok (Decimal.spelled token.text)) :
    lowered? maxRows token =
      .ok (if token.Allows maxRows then none else some (toString maxRows)) := by
  by_cases hkind : token.kind = .integer
  · have hword : ¬token.IsKeyword "ALL" := by
      rintro ⟨hkeyword, -⟩
      rw [hkind] at hkeyword
      cases hkeyword
    rw [lowered?, if_pos (by simpa using hkind), h hkind]
    by_cases hless : maxRows < Decimal.spelled token.text
    · have hnot : ¬token.Allows maxRows := fun hallows =>
        absurd (hallows.count hkind) (not_le.2 hless)
      rw [if_neg hnot]
      exact congrArg Except.ok (if_pos hless)
    · rw [if_pos ⟨hword, fun _ => not_lt.1 hless⟩]
      exact congrArg Except.ok (if_neg hless)
  · rw [lowered?, if_neg (by simpa using hkind)]
    by_cases hall : token.IsKeyword "ALL"
    · rw [if_pos (by simpa [Token.IsKeyword] using hall), if_neg fun hallows => hallows.notAll hall]
    · rw [if_neg (by simpa [Token.IsKeyword] using hall), if_pos ⟨hall, fun hinteger => absurd hinteger hkind⟩]

/-! ### Tokens -/

section

variable {maxRows : Int} {tokens between after : List Token} {token : Token}

theorem lowerFirst_of_trivia (h : ∀ other ∈ tokens, other.isTrivia = true) :
    lowerFirst maxRows tokens = .ok tokens := by
  induction tokens with
  | nil => rfl
  | cons other rest ih =>
    obtain ⟨hother, hrest⟩ := List.forall_mem_cons.1 h
    have htrivia : other.kind.isTrivia = true := hother
    rw [lowerFirst, if_pos htrivia, ih hrest]
    rfl

theorem lowerFirst_append (hbetween : ∀ other ∈ between, other.isTrivia = true)
    (htoken : token.isTrivia = false) :
    lowerFirst maxRows (between ++ token :: after) = (lowered? maxRows token).map fun found =>
      between ++ { token with text := found.getD token.text } :: after := by
  induction between with
  | nil =>
    have hsignificant : ¬token.kind.isTrivia = true := by simpa [Token.isTrivia] using htoken
    rw [List.nil_append, lowerFirst, if_neg hsignificant]
    refine congrArg (fun f => (lowered? maxRows token).map f) (funext fun found => ?_)
    cases found <;> rfl
  | cons other between ih =>
    obtain ⟨hother, hbetween⟩ := List.forall_mem_cons.1 hbetween
    have htrivia : other.kind.isTrivia = true := hother
    rw [List.cons_append, lowerFirst, if_pos htrivia, ih hbetween]
    cases lowered? maxRows token <;> rfl

/-- Some tokens are all trivia, or one of them is the first that is not. -/
theorem all_trivia_or_exists (tokens : List Token) :
    (∀ other ∈ tokens, other.isTrivia = true) ∨ ∃ between token after,
      tokens = between ++ token :: after ∧ (∀ other ∈ between, other.isTrivia = true) ∧
        token.isTrivia = false := by
  induction tokens with
  | nil => exact .inl (by simp)
  | cons first rest ih =>
    cases hfirst : first.isTrivia with
    | false => exact .inr ⟨[], first, rest, rfl, by simp, hfirst⟩
    | true =>
      rcases ih with hall | ⟨between, token, after, rfl, hbetween, htoken⟩
      · exact .inl (List.forall_mem_cons.2 ⟨hfirst, hall⟩)
      · exact .inr ⟨first :: between, token, after, rfl,
          List.forall_mem_cons.2 ⟨hfirst, hbetween⟩, htoken⟩

/-- After the last `LIMIT` outside all parentheses stand blanks and comments only, and then the
token. -/
def FollowsLimit (tokens : List Token) (token : Token) : Prop :=
  ∃ before limit between after, tokens = before ++ limit :: (between ++ token :: after) ∧
    IsLast "LIMIT" tokens before.length ∧ (∀ other ∈ between, other.isTrivia = true) ∧
      token.isTrivia = false

theorem FollowsLimit.mem (h : FollowsLimit tokens token) : token ∈ tokens := by
  obtain ⟨before, limit, between, after, rfl, -⟩ := h
  simp

theorem eq_of_trivia_append {others later : List Token} {other : Token}
    (h : between ++ token :: after = others ++ other :: later)
    (hbetween : ∀ other ∈ between, other.isTrivia = true) (htoken : token.isTrivia = false)
    (hothers : ∀ other ∈ others, other.isTrivia = true) (hother : other.isTrivia = false) :
    token = other := by
  have hdrop : ∀ {blanks : List Token} {first : Token} {rest : List Token},
      (∀ other ∈ blanks, other.isTrivia = true) → first.isTrivia = false →
        (blanks ++ first :: rest).dropWhile Token.isTrivia = first :: rest :=
    fun hblanks hfirst => by
      rw [List.dropWhile_append_of_pos hblanks, List.dropWhile_cons_of_neg (by simp [hfirst])]
  have hsame := congrArg (List.dropWhile Token.isTrivia) h
  rw [hdrop hbetween htoken, hdrop hothers hother] at hsame
  exact (List.cons.inj hsame).1

/-- Where the last limit is known, so is the token that follows it. -/
theorem FollowsLimit.eq {before : List Token} {limit other : Token}
    (h : FollowsLimit (before ++ limit :: (between ++ token :: after)) other)
    (hlast : IsLast "LIMIT" (before ++ limit :: (between ++ token :: after)) before.length)
    (hbetween : ∀ other ∈ between, other.isTrivia = true) (htoken : token.isTrivia = false) :
    other = token := by
  obtain ⟨first, word, others, later, htokens, hother, hothers, hsignificant⟩ := h
  obtain ⟨-, htail⟩ := List.append_inj htokens (hlast.eq hother)
  exact (eq_of_trivia_append (List.cons.inj htail).2 hbetween htoken hothers hsignificant).symm

end

/-! ### Texts -/

section

variable {sql : String} {maxRows : Int}

theorem boundRows_of_isLast {before after : List Token} {limit : Token}
    (htokens : tokenize sql = before ++ limit :: after)
    (hlast : IsLast "LIMIT" (tokenize sql) before.length) :
    boundRows sql maxRows = (lowerFirst maxRows after).map fun rest =>
      Token.textOf (before ++ limit :: rest) := by
  have hfinds := LimitScan.finds_run (tokenize sql)
  have hlimit : (LimitScan.run ⟨0, none, false⟩ 0 (tokenize sql)).limit = some before.length := by
    cases hfound : (LimitScan.run ⟨0, none, false⟩ 0 (tokenize sql)).limit with
    | none => exact absurd hlast.stands (hfinds.nowhere hfound _)
    | some place => rw [(hfinds.limit place hfound).eq hlast]
  have hdrop : (tokenize sql).drop (before.length + 1) = after := by
    rw [htokens, List.drop_append, List.drop_eq_nil_of_le (by omega), Nat.add_sub_cancel_left]
    rfl
  have htake : (tokenize sql).take (before.length + 1) = before ++ [limit] := by
    rw [htokens, List.take_length_add_append]
    rfl
  rw [boundRows, hlimit]
  dsimp only
  rw [hdrop, htake]
  simp only [List.append_assoc, List.singleton_append]

theorem boundRows_of_nowhere (hnowhere : ∀ place, ¬StandsAt 0 "LIMIT" (tokenize sql) place) :
    boundRows sql maxRows =
      .ok (if (LimitScan.run ⟨0, none, false⟩ 0 (tokenize sql)).fetches then sql
        else sql ++ "\nLIMIT " ++ toString maxRows) := by
  have hfinds := LimitScan.finds_run (tokenize sql)
  have hlimit : (LimitScan.run ⟨0, none, false⟩ 0 (tokenize sql)).limit = none := by
    rw [Option.eq_none_iff_forall_ne_some]
    exact fun place hfound => hnowhere place (hfinds.limit place hfound).stands
  rw [boundRows, hlimit]

/-- A text whose last limit is low enough is left as it is. -/
theorem boundRows_of_allows {place : Nat} (hlast : IsLast "LIMIT" (tokenize sql) place)
    (hallows : ∀ token, FollowsLimit (tokenize sql) token → token.Allows maxRows)
    (hread : ∀ token, FollowsLimit (tokenize sql) token → token.kind = .integer →
      Decimal.readInt token.text = .ok (Decimal.spelled token.text)) :
    boundRows sql maxRows = .ok sql := by
  obtain ⟨before, limit, after, htokens, rfl⟩ : ∃ before limit after,
      tokenize sql = before ++ limit :: after ∧ before.length = place := by
    have hlt := hlast.stands.lt_length
    exact ⟨_, _, _, (List.take_append_drop place _).symm.trans
      (congrArg _ (List.drop_eq_getElem_cons hlt)), List.length_take_of_le (Nat.le_of_lt hlt)⟩
  have hsame : Token.textOf (before ++ limit :: after) = sql := by
    rw [← htokens, textOf_tokenize]
  rw [boundRows_of_isLast htokens hlast]
  rcases all_trivia_or_exists after with htrivia | ⟨between, token, later, rfl, hbetween, htoken⟩
  · rw [lowerFirst_of_trivia htrivia]
    exact congrArg Except.ok hsame
  · have hfollows : FollowsLimit (tokenize sql) token :=
      ⟨before, limit, between, later, htokens, hlast, hbetween, htoken⟩
    rw [lowerFirst_append hbetween htoken, lowered?_eq maxRows (hread token hfollows),
      if_pos (hallows token hfollows)]
    exact congrArg Except.ok hsame

end

/-! ### Written counts -/

theorem isNumeral_toString {n : Nat} (h : 0 < n) : IsNumeral (toString n).toList :=
  ⟨Decimal.toString_ne_nil n, fun _ hd => Decimal.mem_toString hd, Decimal.head?_toString h⟩

/-- The first digits of a number spell a number that is not larger. -/
theorem spelled_le_of_prefix {n : Nat} {text : String} (h : text.toList <+: (toString n).toList) :
    Decimal.spelled text ≤ n := by
  have hdigit : ∀ d ∈ text.toList, isDecimalDigit d = true :=
    fun d hd => isDecimalDigit_of_mem (Decimal.mem_toString (h.subset hd))
  obtain ⟨more, hmore⟩ := h
  have hvalue := Decimal.ofDigits_toString n
  rw [← hmore, Decimal.valuesOf, List.filterMap_append] at hvalue
  have hle := Decimal.ofDigits_le_append (text.toList.filterMap digitValue?) (more.filterMap digitValue?)
  rw [← String.ofList_toList (s := text), Decimal.spelled_of_digits hdigit, Decimal.valuesOf]
  omega

section

variable {n : Nat} {token : Token}

theorem Token.IsFrom.allows (h : token.IsFrom (toString n).toList) : token.Allows n where
  notAll := by
    have hkinds : ∀ kind ∈ [TokenKind.integer, .decimal, .name], kind.isKeyword = false := by decide
    rintro ⟨hkeyword, -⟩
    rw [hkinds _ h.kind] at hkeyword
    cases hkeyword
  count hkind := spelled_le_of_prefix (h.part hkind).2

theorem Token.IsFrom.readInt_eq (h : token.IsFrom (toString n).toList)
    (hshort : (toString n).length ≤ Decimal.digitLimit) (hkind : token.kind = .integer) :
    Decimal.readInt token.text = .ok (Decimal.spelled token.text) := by
  obtain ⟨hne, hstarts⟩ := h.part hkind
  have hread := Decimal.readInt_of_digits false hne fun d hd =>
    isDecimalDigit_of_mem (Decimal.mem_toString (hstarts.subset hd))
  have hle := hstarts.length_le
  rw [String.length_toList (s := toString n)] at hle
  rw [if_neg (by omega)] at hread
  change Decimal.readInt (String.ofList token.text.toList) =
    .ok (Decimal.spelled (String.ofList token.text.toList)) at hread
  rwa [String.ofList_toList] at hread

end

/-! ### Replaced counts -/

theorem charsOf_tokensFrom (left : Option Char) (cs : List Char) :
    Token.charsOf (tokensFrom left cs) = cs := by
  rw [← Token.toList_textOf, tokensFrom, textOf_readTokens _ _ _ (Nat.le_refl _), String.toList_ofList]

/-- The token asks for a number of rows or for all of them. -/
def Token.Counts (token : Token) : Prop :=
  token.kind = .integer ∧ token.text.toList.head? ≠ some '-' ∨ token.IsKeyword "ALL"

section

variable {left : Option Char} {cs ds : List Char} {before between after : List Token}
  {limit token : Token}

/-- The tokens before a count that is replaced stay, and what follows is the same soon. -/
theorem tokensFrom_replace (hds : IsNumeral ds)
    (h : tokensFrom left cs = before ++ limit :: (between ++ token :: after))
    (hlimit : limit.IsKeyword "LIMIT") (hbetween : ∀ other ∈ between, other.isTrivia = true)
    (hcounts : token.Counts) :
    ∃ new, tokensFrom left (Token.charsOf (before ++ limit :: between) ++
        (ds ++ Token.charsOf after)) = before ++ limit :: (between ++ new) ∧ Rejoins ds new after := by
  have hjoin : ∀ later, before ++ limit :: (between ++ later) = before ++ limit :: between ++ later := by
    simp
  have hhere := h
  rw [hjoin] at hhere
  obtain ⟨rest, hrest, hthere⟩ := tokensFrom_split hhere
  obtain ⟨later, rfl, hread, hafter⟩ := exists_isReadAt hthere.symm
  have hlater : Token.charsOf after = later := by rw [hafter, charsOf_tokensFrom]
  obtain ⟨l, hl⟩ := Option.ne_none_iff_exists'.1 (mt List.getLast?_eq_none_iff.1 hread.ne_nil)
  rw [hl, Option.some_or] at hafter
  -- The count is one word, and after a number in its place the text goes on as after the word.
  obtain ⟨hword, hrejoins⟩ : (∀ c ∈ token.text.toList, isWord c = true) ∧
      ∀ c, Rejoins ds (tokensFrom (some c) (ds ++ later)) after := by
    rcases hcounts with ⟨hkind, hminus⟩ | hall
    · have hword : ∀ c ∈ token.text.toList, isWord c = true := fun c hc =>
        isWord_of_isDecimalDigit (hread.digit_of_integer hkind hminus c hc)
      refine ⟨hword, fun c => ?_⟩
      rw [hafter]
      exact rejoins_of_integer (some c) hds (hword l (List.mem_of_getLast? hl))
        (tokenAt_numeral_of_integer hread hkind hminus hds (some c))
    · obtain ⟨hword, hstop⟩ := hread.isSingleWord hall.1 hall.2 (by decide)
      refine ⟨hword, fun c => ?_⟩
      rw [hafter]
      exact rejoins (some c) hds (hword l (List.mem_of_getLast? hl)) hstop
  obtain ⟨c, hapart⟩ := exists_standsApart h hlimit.1 hlimit.2 hbetween
    fun c hc => hword c (List.mem_of_mem_head? hc)
  have hreplaced : IsReplaced c token.text.toList ds :=
    ⟨hapart.barrier, hread.ne_nil, hword, hds.ne_nil, hds.digit⟩
  have hlast : (Token.charsOf (before ++ limit :: between)).getLast?.or left = some c := by
    rw [hapart.last]
    rfl
  rw [hrest] at hhere
  refine ⟨_, ?_, hrejoins c⟩
  rw [hlater, hjoin]
  exact tokensFrom_carry hreplaced hhere hlast hapart.free

end

/-! ### Appended limits -/

theorem Token.isNeutral_of_isTrivia {token : Token} (h : token.isTrivia = true) : token.IsNeutral := by
  refine ⟨isMark_of_isTrivia h _, isMark_of_isTrivia h _, fun hlimit => ?_⟩
  have hkinds : ∀ kind : TokenKind, kind.isTrivia = true → kind.isKeyword = false := by
    intro kind
    cases kind <;> decide
  have hkeyword := hlimit.1
  rw [hkinds _ h] at hkeyword
  cases hkeyword

theorem IsFollowed.depth_eq {clause : List Char} {tokens longer : List Token} {rest : List Char}
    (h : IsFollowed clause tokens longer rest) : depth longer = depth tokens := by
  cases h with
  | apart => rfl
  | @line kind hkind before short long =>
    have hkinds : ∀ kind ∈ lineKinds, kind.isTrivia = true := by decide
    have hline : ∀ text, depth [⟨kind, text⟩] = 0 := fun text =>
      depth_of_isNeutral (List.forall_mem_singleton.2 (Token.isNeutral_of_isTrivia (hkinds kind hkind)))
    rw [depth_append, depth_append, hline, hline]

/-- Where no parenthesis is open, a limit with idle tokens after it is the last one. -/
theorem isLast_of_isNeutral {before tail : List Token} {limit : Token} (hdepth : depth before = 0)
    (hlimit : limit.IsKeyword "LIMIT") (htail : ∀ token ∈ tail, token.IsNeutral) :
    IsLast "LIMIT" (before ++ limit :: tail) before.length := by
  constructor
  · refine ⟨?_, limit, ?_, hlimit⟩
    · rw [List.take_left, hdepth]
      rfl
    · simp
  · intro later hlater
    rw [← List.singleton_append, ← List.append_assoc, standsAt_append] at hlater
    rcases hlater with hbefore | ⟨k, -, htail'⟩
    · have hlt := hbefore.lt_length
      rw [List.length_append, List.length_singleton] at hlt
      omega
    · exact absurd htail' (not_standsAt_of_isNeutral htail)

/-- A limit that is put after a text is read as such, with what comes of the number after it. -/
theorem tokensFrom_limit {ds : List Char} (hds : IsNumeral ds) :
    ∃ new, tokensFrom (some '\n') ("LIMIT ".toList ++ ds) =
      ⟨.keyword, "LIMIT"⟩ :: ⟨.whitespace, " "⟩ :: new ∧ Rejoins ds new [] := by
  have hone : tokensFrom (some '\n') "LIMIT 1".toList =
      [] ++ ⟨.keyword, "LIMIT"⟩ :: ([⟨.whitespace, " "⟩] ++ ⟨.integer, "1"⟩ :: []) := by
    decide +kernel
  obtain ⟨new, hnew, hrejoins⟩ := tokensFrom_replace hds hone (by decide) (by decide)
    (.inl (by decide))
  refine ⟨new, ?_, hrejoins⟩
  simpa using hnew

/-- The tokens of a text with a limit after it. -/
theorem tokenize_append {n : Nat} (hn : 0 < n) (sql : String) :
    ∃ before new, tokenize (sql ++ "\nLIMIT " ++ toString n) =
        before ++ ⟨.keyword, "LIMIT"⟩ :: ([⟨.whitespace, " "⟩] ++ new) ∧
      depth before = depth (tokenize sql) ∧ Rejoins (toString n).toList new [] := by
  have hclause := isClause_limit n
  have hbegin : ("\nLIMIT " ++ toString (n : Int)).toList =
      ['\n'] ++ ("LIMIT ".toList ++ (toString n).toList) := by
    rw [String.toList_append]
    rfl
  obtain ⟨new, hlimit, hrejoins⟩ := tokensFrom_limit (isNumeral_toString hn)
  obtain ⟨longer, rest, count, left, hcount, hread, hfollowed, hrest⟩ :=
    readTokens_append hclause none (le_refl sql.toList.length) le_rfl
  have htokens : tokenize (sql ++ "\nLIMIT " ++ toString n) = longer ++ tokensFrom left rest := by
    rw [tokenize, String.append_assoc, String.toList_append, ← readTokens_eq_tokensFrom left hcount]
    exact hread
  have hdepth : depth longer = depth (tokenize sql) := hfollowed.depth_eq
  rcases hrest with rfl | ⟨rfl, rfl⟩
  · have hbreak := tokenAt_clause hclause left
    rw [hbegin] at hbreak htokens
    rw [tokensFrom_of_tokenAt (List.cons_ne_nil _ _) hbreak, List.getLast?_singleton, Option.some_or,
      hlimit] at htokens
    have hidle : Token.IsNeutral ⟨.newline, String.ofList ['\n']⟩ := Token.isNeutral_of_isTrivia rfl
    refine ⟨longer ++ [⟨.newline, String.ofList ['\n']⟩], new, ?_, ?_, hrejoins⟩
    · rw [htokens, List.append_assoc]
      rfl
    · rw [depth_append, depth_of_isNeutral (List.forall_mem_singleton.2 hidle), hdepth, Int.add_zero]
  · rw [hbegin, List.singleton_append, List.tail_cons, hlimit] at htokens
    exact ⟨longer, new, htokens, hdepth, hrejoins⟩

/-! ### Bounded texts -/

/-- What becomes of a text whose rows are bounded: it stays, or a limit is put after it, or the bound
takes the place of one token. -/
inductive IsClamped (sql : String) (maxRows : Int) : String → Prop
  | kept : IsClamped sql maxRows sql
  | appended : IsClamped sql maxRows (sql ++ "\nLIMIT " ++ toString maxRows)
  | replaced {before after : List Token} {token : Token}
      (htokens : tokenize sql = before ++ token :: after) :
      IsClamped sql maxRows (Token.textOf before ++ toString maxRows ++ Token.textOf after)

section

variable {sql : String} {n : Nat}

/-- Where the bound has been written after the last limit, nothing is left to be done. -/
theorem settled_of_isFrom {before between after : List Token} {limit first : Token}
    (htokens : tokenize sql = before ++ limit :: (between ++ first :: after))
    (hlast : IsLast "LIMIT" (tokenize sql) before.length)
    (hbetween : ∀ other ∈ between, other.isTrivia = true)
    (hfirst : first.IsFrom (toString n).toList) :
    (∀ token, FollowsLimit (tokenize sql) token → token.Allows n) ∧
      ((toString n).length ≤ Decimal.digitLimit → boundRows sql n = .ok sql) := by
  have hsignificant : first.isTrivia = false := by
    have hkinds : ∀ kind ∈ [TokenKind.integer, .decimal, .name], kind.isTrivia = false := by decide
    exact hkinds _ hfirst.kind
  have hfollows : ∀ token, FollowsLimit (tokenize sql) token → token = first := by
    rw [htokens] at hlast ⊢
    exact fun token h => h.eq hlast hbetween hsignificant
  refine ⟨fun token h => hfollows token h ▸ hfirst.allows, fun hshort => ?_⟩
  exact boundRows_of_allows hlast (fun token h => hfollows token h ▸ hfirst.allows)
    fun token h => hfollows token h ▸ hfirst.readInt_eq hshort

theorem Token.counts_of_not_allows {token : Token} (h : ¬token.Allows n) : token.Counts := by
  by_cases hall : token.IsKeyword "ALL"
  · exact .inr hall
  · have hcount : ¬(token.kind = .integer → Decimal.spelled token.text ≤ n) := fun hcount =>
      h ⟨hall, hcount⟩
    obtain ⟨hkind, hmore⟩ := Classical.not_imp.1 hcount
    refine .inl ⟨hkind, fun hminus => hmore ?_⟩
    rw [Decimal.spelled, if_pos hminus]
    omega

theorem Token.Counts.isNeutral {token : Token} (h : token.Counts) : token.IsNeutral := by
  rcases h with ⟨hkind, -⟩ | hall
  · exact isNeutral_of_kind (by simp [hkind])
  · refine ⟨hall.isMark _, hall.isMark _, fun hlimit => ?_⟩
    have hword := hall.2.symm.trans hlimit.2
    exact absurd hword (by decide)

/-- The bound takes the place of the count. -/
theorem settled_of_replace (hn : 0 < n) {before between after : List Token} {limit token : Token}
    (htokens : tokenize sql = before ++ limit :: (between ++ token :: after))
    (hlast : IsLast "LIMIT" (tokenize sql) before.length)
    (hbetween : ∀ other ∈ between, other.isTrivia = true) (hcounts : token.Counts)
    {clamped : String} (hclamped : clamped =
      Token.textOf (before ++ limit :: between) ++ toString n ++ Token.textOf after) :
    (∀ token, FollowsLimit (tokenize clamped) token → token.Allows n) ∧
      ((toString n).length ≤ Decimal.digitLimit → boundRows clamped n = .ok clamped) := by
  have hlimit : limit.IsKeyword "LIMIT" := by
    obtain ⟨found, hfound, hword⟩ := hlast.stands.found
    rw [htokens, List.getElem?_append_right (Nat.le_refl _), Nat.sub_self] at hfound
    rwa [Option.some.inj hfound]
  obtain ⟨new, hnew, first, more, other, later, rfl, rfl, hfirst, hidle⟩ :=
    tokensFrom_replace (isNumeral_toString hn) htokens hlimit hbetween hcounts
  have hchars : clamped.toList = Token.charsOf (before ++ limit :: between) ++
      ((toString n).toList ++ Token.charsOf (other ++ later)) := by
    rw [hclamped, String.toList_append, String.toList_append, Token.toList_textOf, Token.toList_textOf,
      List.append_assoc]
  rw [← hchars, ← tokenize_eq] at hnew
  obtain ⟨hmore, hother⟩ := List.forall_mem_append.1 hidle
  have hplace : IsLast "LIMIT" (tokenize clamped) before.length := by
    have hold : tokenize sql = (before ++ limit :: between) ++ ((token :: other) ++ later) := by
      rw [htokens]
      simp
    have hthere : tokenize clamped = (before ++ limit :: between) ++ ((first :: more) ++ later) := by
      rw [hnew]
      simp
    rw [hold] at hlast
    rw [hthere]
    exact hlast.replace (List.forall_mem_cons.2 ⟨hcounts.isNeutral, hother⟩)
      (List.forall_mem_cons.2 ⟨Token.isNeutral_of_kind hfirst.kind, hmore⟩) (by simp)
  exact settled_of_isFrom hnew hplace hbetween hfirst

/-- A limit is put after the text. -/
theorem settled_of_append (hn : 0 < n) (hbalanced : depth (tokenize sql) = 0) {clamped : String}
    (hclamped : clamped = sql ++ "\nLIMIT " ++ toString n) :
    (∀ token, FollowsLimit (tokenize clamped) token → token.Allows n) ∧
      ((toString n).length ≤ Decimal.digitLimit → boundRows clamped n = .ok clamped) := by
  obtain ⟨before, new, htokens, hdepth, first, more, other, later, rfl, hnil, hfirst, hidle⟩ :=
    tokenize_append hn sql
  obtain ⟨rfl, rfl⟩ := List.append_eq_nil_iff.1 hnil.symm
  rw [List.append_nil] at hidle htokens
  rw [← hclamped] at htokens
  have hblank : Token.IsNeutral ⟨.whitespace, " "⟩ := Token.isNeutral_of_isTrivia rfl
  have hlast : IsLast "LIMIT" (tokenize clamped) before.length := by
    rw [htokens]
    refine isLast_of_isNeutral (hdepth.trans hbalanced) (by decide) ?_
    exact List.forall_mem_append.2 ⟨List.forall_mem_singleton.2 hblank,
      List.forall_mem_cons.2 ⟨Token.isNeutral_of_kind hfirst.kind, hidle⟩⟩
  exact settled_of_isFrom htokens hlast (List.forall_mem_singleton.2 rfl) hfirst

/-- A whole number of the text that is short enough can be read. -/
theorem readInt_of_mem_tokenize {token : Token} (hmem : token ∈ tokenize sql)
    (hkind : token.kind = .integer)
    (hdigits : (Decimal.valuesOf token.text.toList).length ≤ Decimal.digitLimit) :
    Decimal.readInt token.text = .ok (Decimal.spelled token.text) := by
  obtain ⟨before, after, hsplit⟩ := List.append_of_mem hmem
  obtain ⟨rest, -, hafter⟩ := tokensFrom_split ((tokenize_eq sql).symm.trans hsplit)
  obtain ⟨later, -, hread, -⟩ := exists_isReadAt hafter.symm
  exact hread.readInt_eq hkind hdigits

/-- A count that is too large is lowered. -/
theorem boundRows_of_not_allows {before between after : List Token} {limit token : Token}
    (htokens : tokenize sql = before ++ limit :: (between ++ token :: after))
    (hlast : IsLast "LIMIT" (tokenize sql) before.length)
    (hbetween : ∀ other ∈ between, other.isTrivia = true) (hsignificant : token.isTrivia = false)
    (hread : token.kind = .integer → Decimal.readInt token.text = .ok (Decimal.spelled token.text))
    (hnot : ¬token.Allows n) :
    boundRows sql n = .ok (Token.textOf (before ++ limit :: between) ++ toString n ++
      Token.textOf after) := by
  have hlowered := lowered?_eq n hread
  rw [if_neg hnot] at hlowered
  rw [boundRows_of_isLast htokens hlast, lowerFirst_append hbetween hsignificant, hlowered]
  change Except.ok (Token.textOf
    (before ++ limit :: (between ++ ⟨token.kind, toString n⟩ :: after))) = _
  simp [Token.textOf, String.append_assoc]

end

/-- Bounding the rows of a text whose parentheses are balanced and whose whole numbers can be read
gives a text: the same one, or one with a limit after it, or with the bound in the place of one token.
The count of its last limit is within the bound. A text that says nothing about its rows gets the limit,
and what comes of bounding is not changed when it is bounded again, if the bound itself can be read. -/
theorem boundRows_clamps {sql : String} {maxRows : Int} (hcap : 1 ≤ maxRows)
    (hbalanced : depth (tokenize sql) = 0)
    (hdigits : ∀ token ∈ tokenize sql, token.kind = .integer →
      (Decimal.valuesOf token.text.toList).length ≤ Decimal.digitLimit) :
    ∃ clamped, boundRows sql maxRows = .ok clamped ∧ IsClamped sql maxRows clamped ∧
      (∀ token, FollowsLimit (tokenize clamped) token → token.Allows maxRows) ∧
      ((∀ place, ¬StandsAt 0 "LIMIT" (tokenize sql) place ∧
          ¬StandsAt 0 "FETCH" (tokenize sql) place) →
        clamped = sql ++ "\nLIMIT " ++ toString maxRows) ∧
      ((toString maxRows).length ≤ Decimal.digitLimit →
        boundRows clamped maxRows = .ok clamped) := by
  obtain ⟨n, rfl⟩ := Int.eq_ofNat_of_zero_le (show 0 ≤ maxRows by omega)
  have hn : 0 < n := by omega
  have hfinds := LimitScan.finds_run (tokenize sql)
  have hread : ∀ token ∈ tokenize sql, token.kind = .integer →
      Decimal.readInt token.text = .ok (Decimal.spelled token.text) := fun token hmem hkind =>
    readInt_of_mem_tokenize hmem hkind (hdigits token hmem hkind)
  cases hlimit : (LimitScan.run ⟨0, none, false⟩ 0 (tokenize sql)).limit with
  | none =>
    have hnowhere := hfinds.nowhere hlimit
    have hbound : boundRows sql n = _ := boundRows_of_nowhere hnowhere
    by_cases hfetches : (LimitScan.run ⟨0, none, false⟩ 0 (tokenize sql)).fetches = true
    · rw [if_pos hfetches] at hbound
      obtain ⟨place, hplace⟩ := hfinds.fetches.1 hfetches
      refine ⟨sql, hbound, .kept, fun token h => ?_, fun hnone => ?_, fun _ => hbound⟩
      · obtain ⟨before, _, _, _, _, hlast, _⟩ := h
        exact absurd hlast.stands (hnowhere _)
      · exact absurd hplace (hnone place).2
    · rw [if_neg hfetches] at hbound
      obtain ⟨hallows, hagain⟩ := settled_of_append hn hbalanced rfl
      exact ⟨_, hbound, .appended, hallows, fun _ => rfl, hagain⟩
  | some place =>
    have hlast := hfinds.limit place hlimit
    by_cases hallows : ∀ token, FollowsLimit (tokenize sql) token → token.Allows n
    · have hbound : boundRows sql n = .ok sql :=
        boundRows_of_allows hlast hallows fun token h => hread token h.mem
      exact ⟨sql, hbound, .kept, hallows, fun hnone => absurd hlast.stands (hnone place).1,
        fun _ => hbound⟩
    · obtain ⟨token, hfollows, hnot⟩ := by simpa using hallows
      have htoken := hread token hfollows.mem
      obtain ⟨before, limit, between, after, htokens, hplace, hbetween, hsignificant⟩ := hfollows
      have hbound := boundRows_of_not_allows htokens hplace hbetween hsignificant htoken hnot
      obtain ⟨hsettled, hagain⟩ := settled_of_replace hn htokens hplace hbetween
        (Token.counts_of_not_allows hnot) rfl
      have hsplit : tokenize sql = (before ++ limit :: between) ++ token :: after := by
        rw [htokens]
        simp
      exact ⟨_, hbound, .replaced hsplit, hsettled,
        fun hnone => absurd hlast.stands (hnone place).1, hagain⟩

/-- The limit of the inner query stays, and that of the outer one is lowered once. -/
theorem boundRows_clamps_nested :
    boundRows "(SELECT 1 LIMIT 9) LIMIT /**/ ALL" 5 = .ok "(SELECT 1 LIMIT 9) LIMIT /**/ 5" ∧
      (∀ token, FollowsLimit (tokenize "(SELECT 1 LIMIT 9) LIMIT /**/ 5") token → token.Allows 5) ∧
      boundRows "(SELECT 1 LIMIT 9) LIMIT /**/ 5" 5 = .ok "(SELECT 1 LIMIT 9) LIMIT /**/ 5" := by
  obtain ⟨clamped, hbound, -, hallows, -, hagain⟩ := @boundRows_clamps
    "(SELECT 1 LIMIT 9) LIMIT /**/ ALL" 5 (by decide) (by decide +kernel) (by decide +kernel)
  obtain rfl : "(SELECT 1 LIMIT 9) LIMIT /**/ 5" = clamped := by
    refine Except.ok.inj (Eq.trans ?_ hbound)
    decide +kernel
  exact ⟨hbound, hallows, hagain (by decide)⟩

end SemanticLayer.Sql
