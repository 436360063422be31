import SemanticLayer.Proofs.Sql.Replacing

/-!
What stands before a count. A keyword of one word goes on as far as its characters allow, so the count
after `LIMIT` stands apart from it, and what is in between ends with a blank or with the end of a
comment.
-/

namespace SemanticLayer.Sql

open Text Pattern

/-! ### Where a token comes from -/

section

variable {left : Option Char} {rest : List Char} {token : Token}

/-- A token is a quotation, or the first rule that applies makes it, or its kind is unknown. -/
theorem Token.IsReadAt.source (h : token.IsReadAt left rest) :
    (∃ n, quotation? left (token.text.toList ++ rest) = some (token.kind, n) ∧
        token.text.toList.length = max 1 n) ∨
      firstRule? left (token.text.toList ++ rest) =
          some (token.kind, token.text.toList.length) ∨
        token.kind = .unknown := by
  obtain ⟨hkind, hlength⟩ := h
  unfold tokenAt at hkind hlength
  cases hquotation : quotation? left (token.text.toList ++ rest) with
  | some found =>
    rw [hquotation] at hkind hlength
    obtain ⟨kind, n⟩ := found
    obtain rfl : kind = token.kind := hkind
    exact .inl ⟨n, rfl, hlength.symm⟩
  | none =>
    rw [hquotation] at hkind hlength
    cases hrule : firstRule? left (token.text.toList ++ rest) with
    | none =>
      rw [hrule] at hkind
      exact .inr (.inr hkind.symm)
    | some found =>
      rw [hrule] at hkind hlength
      obtain ⟨kind, n⟩ := found
      obtain ⟨-, -, -, hpos, -⟩ := firstRule?_eq_some hrule
      obtain rfl : kind = token.kind := hkind
      obtain rfl : n = token.text.toList.length := (max_eq_right hpos).symm.trans hlength
      exact .inr (.inl rfl)

/-- A rule makes a token of what it reads. -/
def Rule.Makes (rule : Rule) (left : Option Char) (rest : List Char) (token : Token) : Prop :=
  rule.pattern.length? left (token.text.toList ++ rest) = some token.text.toList.length ∧
    rule.kind token.text = token.kind

theorem Rule.reading?_eq_some {rule : Rule} : rule.reading? left (token.text.toList ++ rest) =
    some (token.kind, token.text.toList.length) ↔ rule.Makes left rest token := by
  rw [Rule.reading?, Option.map_eq_some_iff]
  constructor
  · rintro ⟨n, hn, hread⟩
    obtain ⟨hkind, rfl⟩ := Prod.mk.inj hread
    rw [List.take_left, String.ofList_toList] at hkind
    exact ⟨hn, hkind⟩
  · rintro ⟨hlength, hkind⟩
    refine ⟨_, hlength, ?_⟩
    rw [List.take_left, String.ofList_toList, hkind]

theorem Token.IsReadAt.cases (h : token.IsReadAt left rest) :
    (∃ n, quotation? left (token.text.toList ++ rest) = some (token.kind, n) ∧
        token.text.toList.length = max 1 n) ∨
      (∃ rule ∈ rules, rule.Makes left rest token) ∨ token.kind = .unknown := by
  refine h.source.imp_right (Or.imp_left fun hrule => ?_)
  rw [firstRule?_eq] at hrule
  obtain ⟨rule, hmem, hread⟩ := List.exists_of_findSome?_eq_some hrule
  exact ⟨rule, hmem, Rule.reading?_eq_some.1 hread⟩

/-- What a rule reads as a token is of its language. -/
theorem Pattern.reads_of_length? {pattern : Pattern} {cs : List Char}
    (h : pattern.length? left (cs ++ rest) = some cs.length) : pattern.Reads cs := by
  rw [length?_eq] at h
  obtain ⟨last, hlast, htaken⟩ := Option.map_eq_some_iff.1 h
  obtain ⟨read, ⟨hright, htotal⟩, hreads⟩ := reaches_of_mem_ends (List.mem_of_mem_head? hlast)
  dsimp only at hright htotal
  rw [Nat.zero_add, htaken] at htotal
  rwa [(List.append_inj hright htotal).1]

/-! ### Single keywords -/

theorem creation_opens : creation.Opens ["CREATE"] :=
  (opens_text "CREATE").seq ((isDetached_trailing _).seq_isDetached isDetached_wordBoundary)

/-- A word that no keyword of several words opens with. -/
def IsLoneWord (word : String) : Prop :=
  (∀ c ∈ word.toList, c.toNat < 128) ∧
    ∀ opening ∈ "CREATE" :: openings, ¬opening.toList <+: word.toList

instance (word : String) : Decidable (IsLoneWord word) :=
  have : Decidable (∀ c ∈ word.toList, c.toNat < 128) :=
    List.decidableBAll (·.toNat < 128) word.toList
  inferInstanceAs (Decidable (_ ∧ _))

theorem IsLoneWord.not_opensWith {word : String} (h : IsLoneWord word) {cs : List Char}
    (hword : upper (String.ofList cs) = word) : ∀ opening ∈ "CREATE" :: openings,
      ¬OpensWith opening cs := by
  rintro opening hopening ⟨one, two, rfl, hspells, -⟩
  have hcapital : ∀ letter ∈ opening.toList, letter ∈ capitals := by
    rcases List.mem_cons.1 hopening with rfl | hopening
    · have hcreate : "CREATE".toList.Forall (· ∈ capitals) := by decide
      exact List.forall_iff_forall_mem.1 hcreate
    · exact openings_capital opening hopening
  have hstarts : (upper (String.ofList one)).toList <+: word.toList := by
    rw [← hword, upper, upper]
    simp only [String.toList_ofList, List.flatMap_append]
    exact List.prefix_append _ _
  rw [hspells.upper_eq hcapital fun c hc => h.1 c (hstarts.subset hc)] at hstarts
  exact h.2 opening hopening hstarts

/-- A keyword that is such a word comes of the rule for single words. -/
theorem Token.IsReadAt.wordRule {word : String} (h : token.IsReadAt left rest)
    (hkind : token.kind.isKeyword = true) (hword : upper token.text = word)
    (hlone : IsLoneWord word) :
    wordRule.pattern.length? left (token.text.toList ++ rest) = some token.text.toList.length ∧
      (wordKind (upper token.text)).isKeyword = true := by
  have hopens : ∀ opening ∈ "CREATE" :: openings, ¬OpensWith opening token.text.toList :=
    hlone.not_opensWith (by rwa [String.ofList_toList])
  rcases h.cases with ⟨n, hquotation, -⟩ | ⟨rule, hrule, hlength, hmade⟩ | hunknown
  · have hnone : ∀ kind ∈ [TokenKind.blockHint, .blockComment, .literal],
        kind.isKeyword = false := by decide
    rw [hnone _ (quotation?_kind hquotation)] at hkind
    cases hkind
  · have hreads := reads_of_length? hlength
    rcases rules_keyword rule hrule with hplain | hphrase | hcreates | rfl
    · rw [← hmade, hplain] at hkind
      cases hkind
    · obtain ⟨opening, hopening, hbegins⟩ := hphrase _ hreads
      exact absurd hbegins (hopens opening (List.mem_cons_of_mem _ hopening))
    · obtain ⟨opening, hopening, hbegins⟩ := creation_opens _ (hcreates ▸ hreads)
      obtain rfl := List.mem_singleton.1 hopening
      exact absurd hbegins (hopens _ List.mem_cons_self)
    · refine ⟨hlength, ?_⟩
      rw [← hmade] at hkind
      exact hkind
  · rw [hunknown] at hkind
    cases hkind

/-- The rule for single words goes on as far as it can. -/
theorem wordRule_maximal {cs : List Char}
    (h : wordRule.pattern.length? left (cs ++ rest) = some cs.length) :
    ∀ c ∈ rest.head?, isWord c = false ∧ c ≠ '$' ∧ c ≠ '#' := by
  obtain ⟨_, more, ⟨d, hd, rfl⟩, -, rfl⟩ := reads_of_length? h
  rw [length?_eq] at h
  have hends : wordRule.pattern.ends ⟨left, [d] ++ more ++ rest, 0⟩ =
      (⟨some d, more ++ rest, 1⟩ : Place).runs fun c => isWord c || c == '$' || c == '#' := by
    change (if isWord d then _ else _ : List Place).flatMap _ = _
    rw [if_pos hd, List.flatMap_singleton]
    rfl
  rw [hends, Place.head?_runs, Option.map_some] at h
  have hstops := Place.head?_afterRun (fun c => isWord c || c == '$' || c == '#')
    ⟨some d, more ++ rest, 1⟩
  obtain ⟨read, hright, htaken⟩ := Place.reaches_afterRun
    (fun c => isWord c || c == '$' || c == '#') ⟨some d, more ++ rest, 1⟩
  rw [Option.some.inj h, List.length_append] at htaken
  dsimp only at hright htaken
  rw [List.length_singleton, Nat.add_left_cancel_iff] at htaken
  rw [← (List.append_inj hright htaken).2] at hstops
  intro c hc
  simpa [and_assoc] using hstops c hc

/-- Such a keyword is a word that no other one follows directly. -/
theorem Token.IsReadAt.isSingleWord {word : String} (h : token.IsReadAt left rest)
    (hkind : token.kind.isKeyword = true) (hword : upper token.text = word)
    (hlone : IsLoneWord word) :
    (∀ c ∈ token.text.toList, isWord c = true) ∧
      ∀ c ∈ rest.head?, isWord c = false ∧ c ≠ '$' ∧ c ≠ '#' := by
  obtain ⟨hlength, hlisted⟩ := h.wordRule hkind hword hlone
  refine ⟨?_, wordRule_maximal hlength⟩
  rw [← List.takeWhile_eq_self_iff]
  exact firstWord_of_wordRule (reads_of_length? hlength) (by rwa [String.ofList_toList])

/-! ### What stands between -/

/-- A quotation ends with the mark that closes it. -/
theorem offsetOf?_prefix {part cs : List Char} {k : Nat} (h : offsetOf? part cs = some k) :
    part <+: cs.drop k := by
  induction cs generalizing k with
  | nil =>
    rw [offsetOf?] at h
    split at h
    · rename_i hpart
      rw [List.isEmpty_iff.1 hpart]
      exact List.nil_prefix
    · cases h
  | cons c cs ih =>
    rw [offsetOf?] at h
    split at h
    · rename_i hprefix
      obtain rfl := Option.some.inj h
      exact List.isPrefixOf_iff_prefix.1 hprefix
    · obtain ⟨n, hn, rfl⟩ := Option.map_eq_some_iff.1 h
      exact ih hn

theorem suffix_of_quotationLength? {opening closing right : List Char} {n : Nat}
    (hopening : opening <+: right) (h : quotationLength? opening closing right = some n) :
    closing <:+ right.take n := by
  obtain ⟨k, hk, rfl⟩ := Option.map_eq_some_iff.1 h
  obtain ⟨more, rfl⟩ := hopening
  rw [List.drop_left] at hk
  obtain ⟨later, hlater⟩ := offsetOf?_prefix hk
  have hle := offsetOf?_le hk
  have htake : (opening ++ more).take (opening.length + k + closing.length) =
      opening ++ more.take k ++ closing := by
    rw [Nat.add_assoc, List.take_length_add_append, List.take_add, ← hlater, List.take_left,
      List.append_assoc]
  rw [htake]
  exact List.suffix_append _ _

/-- Where more text follows, the pattern ends after a barrier. -/
def Pattern.EndsAtBarrier (pattern : Pattern) : Prop :=
  ∀ place last : Place, last ∈ pattern.ends place → last.right ≠ [] →
    ∃ cs c, place.Reaches (cs ++ [c]) last ∧ isBarrier c = true

namespace Pattern.EndsAtBarrier

theorem seq {first second : Pattern} (h : second.EndsAtBarrier) :
    (first.seq second).EndsAtBarrier := by
  intro place last hlast hmore
  obtain ⟨middle, hmiddle, hlast⟩ := List.mem_flatMap.1 hlast
  obtain ⟨one, hone, -⟩ := reaches_of_mem_ends hmiddle
  obtain ⟨two, c, htwo, hc⟩ := h _ _ hlast hmore
  exact ⟨one ++ two, c, by simpa using hone.trans htwo, hc⟩

theorem either {first second : Pattern} (h : first.EndsAtBarrier) (hother : second.EndsAtBarrier) :
    (first.either second).EndsAtBarrier := by
  intro place last hlast hmore
  rcases List.mem_append.1 hlast with hlast | hlast
  · exact h _ _ hlast hmore
  · exact hother _ _ hlast hmore

theorem one {accepts : Char → Bool} (h : ∀ c, accepts c = true → isBarrier c = true) :
    (Pattern.one accepts).EndsAtBarrier := by
  intro place last hlast _
  obtain ⟨_, hreaches, c, hc, rfl⟩ := reaches_of_mem_ends hlast
  exact ⟨[], c, hreaches, h c hc⟩

theorem finish : Pattern.finish.EndsAtBarrier := by
  intro place last hlast hmore
  rw [ends] at hlast
  split at hlast
  · rename_i hempty
    obtain rfl := List.mem_singleton.1 hlast
    exact absurd (List.isEmpty_iff.1 hempty) hmore
  · cases hlast

end Pattern.EndsAtBarrier

open Rule in
theorem lineBreak_endsAtBarrier : lineBreak.EndsAtBarrier := by
  have hreturn : (char '\r').EndsAtBarrier := .one fun c hc => by
    obtain rfl := beq_iff_eq.1 hc
    decide
  have hline : (char '\n').EndsAtBarrier := .one fun c hc => by
    obtain rfl := beq_iff_eq.1 hc
    decide
  exact (EndsAtBarrier.seq hline).either (hreturn.either hline)

open Rule in
/-- The rules for blanks and for comments up to the end of a line. -/
theorem blankRules_endAtBarrier : ∀ rule ∈ rules.take 4, rule.pattern.EndsAtBarrier := by
  have hrest : restOfLine.EndsAtBarrier :=
    EndsAtBarrier.seq (lineBreak_endsAtBarrier.either EndsAtBarrier.finish)
  change ∀ rule ∈ [_, _, _, _], _
  simp only [List.forall_mem_cons]
  refine ⟨EndsAtBarrier.seq (EndsAtBarrier.seq hrest), EndsAtBarrier.seq hrest,
    lineBreak_endsAtBarrier, ?_, by simp⟩
  exact .one fun c hc => by
    rw [isBarrier, hc, Bool.true_or]

/-- Blanks and comments come of the first four rules, but for comments between marks. -/
theorem rules_isTrivia : ∀ rule ∈ rules, (∀ text, (rule.kind text).isTrivia = false) ∨
    rule ∈ rules.take 4 := by
  have hword (word : String) : (wordKind word).isTrivia = false := by
    unfold wordKind
    split_ifs <;> rfl
  have hlater : ∀ rule ∈ markRules.drop 4 ++ valueRules ++ wordRules,
      ∀ text, (rule.kind text).isTrivia = false := by
    simp +decide [markRules, valueRules, wordRules, Rule.always, hword]
  intro rule hrule
  have hrules : rules = rules.take 4 ++ (markRules.drop 4 ++ valueRules ++ wordRules) := rfl
  rw [hrules, List.mem_append] at hrule
  exact hrule.symm.imp_left (hlater rule)

/-- Among quotations, the comments between marks are the ones that say nothing. -/
theorem exists_opening_of_isTrivia {left : Option Char} {right : List Char} {kind : TokenKind}
    {n : Nat} (h : quotation? left right = some (kind, n)) (hkind : kind.isTrivia = true) :
    ∃ opening ∈ [['/', '*', '+'], ['/', '*']], opening <+: right ∧
      quotationLength? opening ['*', '/'] right = some n := by
  rw [quotation?_eq] at h
  split_ifs at h with hhint hcomment hleft
  · obtain ⟨m, hm, hread⟩ := Option.map_eq_some_iff.1 h
    obtain ⟨-, rfl⟩ := Prod.mk.inj hread
    exact ⟨_, by simp, List.isPrefixOf_iff_prefix.1 hhint, hm⟩
  · obtain ⟨m, hm, hread⟩ := Option.map_eq_some_iff.1 h
    obtain ⟨-, rfl⟩ := Prod.mk.inj hread
    exact ⟨_, by simp, List.isPrefixOf_iff_prefix.1 hcomment, hm⟩
  · obtain ⟨mark, -, hmap⟩ := Option.bind_eq_some_iff.1 h
    obtain ⟨m, -, hread⟩ := Option.map_eq_some_iff.1 hmap
    rw [← (Prod.mk.inj hread).1] at hkind
    cases hkind

/-- A blank or a comment with more text after it ends with a barrier. -/
theorem Token.IsReadAt.isBarrier (h : token.IsReadAt left rest) (hkind : token.kind.isTrivia = true)
    (hmore : rest ≠ []) : ∃ cs c, token.text.toList = cs ++ [c] ∧ isBarrier c = true := by
  rcases h.cases with ⟨n, hquotation, hlength⟩ | ⟨rule, hrule, hlength, hmade⟩ | hunknown
  · -- A comment between marks ends with the second half of a mark.
    obtain ⟨opening, -, hopening, hread⟩ := exists_opening_of_isTrivia hquotation hkind
    obtain ⟨cs, hcs⟩ := suffix_of_quotationLength? hopening hread
    have hpos : 1 ≤ n := by
      have hsize := congrArg List.length hcs
      rw [List.length_append, List.length_take] at hsize
      change cs.length + 2 = _ at hsize
      omega
    rw [max_eq_right hpos] at hlength
    rw [← hlength, List.take_left] at hcs
    exact ⟨cs ++ ['*'], '/', by rw [← hcs, List.append_assoc]; rfl, by decide⟩
  · rcases rules_isTrivia rule hrule with hnever | hblank
    · rw [← hmade, hnever] at hkind
      cases hkind
    · rw [length?_eq] at hlength
      obtain ⟨last, hlast, htaken⟩ := Option.map_eq_some_iff.1 hlength
      have hmem := List.mem_of_mem_head? hlast
      obtain ⟨read, ⟨hright, htotal⟩, -⟩ := reaches_of_mem_ends hmem
      dsimp only at hright htotal
      rw [Nat.zero_add, htaken] at htotal
      obtain ⟨-, hrest⟩ := List.append_inj hright htotal
      obtain ⟨cs, c, ⟨hcs, hsize⟩, hc⟩ := blankRules_endAtBarrier rule hblank _ _ hmem (hrest ▸ hmore)
      dsimp only at hcs hsize
      rw [Nat.zero_add, htaken] at hsize
      exact ⟨cs, c, (List.append_inj hcs hsize).1, hc⟩
  · rw [hunknown] at hkind
    cases hkind

open Rule in
theorem blankRules_isDetached : ∀ rule ∈ rules.take 4, rule.pattern.IsDetached := by
  have hchar : ∀ {mark : Char}, isWord mark = false → (char mark).IsDetached := fun hmark =>
    isDetached_one fun c hc => beq_iff_eq.1 hc ▸ hmark
  have hletter : ∀ {mark : Char}, mark ∈ ['-', '#', ' ', '\''] → isWord mark = false →
      (Pattern.one (sameLetter mark)).IsDetached := fun hmark hword =>
    isDetached_one fun c hc => IsReplaced.eq_of_sameLetter hmark hc ▸ hword
  have hdash : (Pattern.one (sameLetter '-')).IsDetached := hletter (by simp) (by decide)
  have hhash : (Pattern.one (sameLetter '#')).IsDetached := hletter (by simp) (by decide)
  have hmark : lineCommentMark.IsDetached := (hdash.seq rfl).either (hhash.seq rfl)
  have hreturn : (char '\r').IsDetached := hchar (by decide)
  have hbreak : lineBreak.IsDetached := (hreturn.seq rfl).either (hreturn.either (hchar (by decide)))
  change ∀ rule ∈ [_, _, _, _], _
  simp only [List.forall_mem_cons]
  exact ⟨hmark.seq rfl, hmark.seq rfl, hbreak, isDetached_one fun c hc => isWord_of_isBlank hc,
    by simp⟩

/-- A blank or a comment starts with no word character. -/
theorem Token.IsReadAt.head_of_isTrivia (h : token.IsReadAt left rest)
    (hkind : token.kind.isTrivia = true) : ∀ c ∈ token.text.toList.head?, isWord c = false := by
  intro c hc
  rcases h.cases with ⟨n, hquotation, -⟩ | ⟨rule, hrule, hlength, hmade⟩ | hunknown
  · obtain ⟨opening, hmem, ⟨later, hlater⟩, -⟩ := exists_opening_of_isTrivia hquotation hkind
    have hheads : [['/', '*', '+'], ['/', '*']].Forall fun opening => opening.head? = some '/' := by
      decide
    have hhead := List.forall_iff_forall_mem.1 hheads opening hmem
    have hsame := congrArg List.head? hlater
    rw [List.head?_append, hhead, List.head?_append, hc] at hsame
    obtain rfl : '/' = c := Option.some.inj hsame
    decide
  · rcases rules_isTrivia rule hrule with hnever | hblank
    · rw [← hmade, hnever] at hkind
      cases hkind
    · exact blankRules_isDetached rule hblank _ (reads_of_length? hlength) c hc
  · rw [hunknown] at hkind
    cases hkind

end

/-! ### Counts -/

theorem length_upperChar_le (c : Char) : (upperChar c).length ≤ 3 := by
  have hwide : ∀ entry ∈ wideCapitals, entry.2.length ≤ 3 := by decide
  unfold upperChar
  split
  · simp
  · split
    · rename_i code capitals hfound
      rw [List.length_map]
      exact hwide _ (List.mem_of_find?_eq_some hfound)
    · simp

/-- The word before a count has two characters at least, and starts with none that is read as a
`G`. -/
theorem limit_letters {cs : List Char} (h : upper (String.ofList cs) = "LIMIT") :
    2 ≤ cs.length ∧ ∀ g ∈ cs.head?, sameLetter 'G' g = false := by
  have hletters : cs.flatMap upperChar = ['L', 'I', 'M', 'I', 'T'] := by
    have hlist := congrArg String.toList h
    rwa [upper, String.toList_ofList, String.toList_ofList] at hlist
  constructor
  · rcases cs with _ | ⟨c, _ | ⟨d, cs⟩⟩
    · cases hletters
    · have hlength := congrArg List.length hletters
      have hle := length_upperChar_le c
      rw [List.flatMap_singleton, List.length_cons] at hlength
      change _ = 5 at hlength
      omega
    · simp
  · intro g hg
    obtain ⟨more, rfl⟩ := List.head?_eq_some_iff.1 hg
    rw [← Bool.not_eq_true]
    intro hsame
    rw [List.flatMap_cons] at hletters
    rcases (sameLetter_capital (by decide) hsame).2 with hupper | ⟨hletter, -⟩
    · rw [hupper] at hletters
      cases hletters
    · simp at hletter

/-- Before a count, the tokens end with a barrier, and none of them makes a separator of batches with
it. -/
structure StandsApart (c : Char) (tokens : List Token) : Prop where
  barrier : isBarrier c = true
  last : (Token.charsOf tokens).getLast? = some c
  free : ∀ later, later <:+ tokens → (Token.charsOf later).length = 3 →
    ∀ g ∈ (Token.charsOf later).head?, sameLetter 'G' g = false

section

variable {left : Option Char} {cs : List Char} {before between after : List Token}
  {limit count : Token}

/-- Nothing of length three at the end of these tokens starts with a `G`. -/
theorem not_batch (hlimit : upper limit.text = "LIMIT")
    (hends : Token.charsOf between ≠ [])
    (hbetween : ∀ earlier token later, between = earlier ++ token :: later →
      token.text.toList ≠ [] ∧ ∀ c ∈ token.text.toList.head?, isWord c = false)
    {later : List Token} (hlater : later <:+ before ++ limit :: between)
    (hthree : (Token.charsOf later).length = 3) :
    ∀ g ∈ (Token.charsOf later).head?, sameLetter 'G' g = false := by
  have hspelled : upper (String.ofList limit.text.toList) = "LIMIT" := by
    rwa [String.ofList_toList]
  obtain ⟨htwo, hletter⟩ := limit_letters hspelled
  have hpos := List.length_pos_iff.2 hends
  -- With the keyword there is no room for anything before that.
  have hwith : ∀ earlier, later = earlier ++ limit :: between →
      ∀ g ∈ (Token.charsOf later).head?, sameLetter 'G' g = false := by
    rintro earlier rfl
    simp only [Token.charsOf_append, Token.charsOf_cons, List.length_append] at hthree
    have hnone : Token.charsOf earlier = [] := List.length_eq_zero_iff.1 (by omega)
    have hlimitNe : limit.text.toList ≠ [] := List.length_pos_iff.1 (by omega)
    rw [Token.charsOf_append, hnone, List.nil_append, Token.charsOf_cons,
      List.head?_append_of_ne_nil _ hlimitNe]
    exact hletter
  rcases List.suffix_or_suffix_of_suffix hlater (List.suffix_append before (limit :: between)) with
    hinside | ⟨earlier, hearlier⟩
  · rcases List.suffix_cons_iff.1 hinside with rfl | ⟨earlier, hearlier⟩
    · exact hwith [] rfl
    · cases later with
      | nil => cases hthree
      | cons token later =>
        obtain ⟨hne, hhead⟩ := hbetween earlier token later hearlier.symm
        intro g hg
        rw [Token.charsOf_cons, List.head?_append_of_ne_nil _ hne] at hg
        rw [← Bool.not_eq_true]
        intro hsame
        have hword := (sameLetter_capital (by decide) hsame).1
        rw [hhead g hg] at hword
        cases hword
  · exact hwith earlier hearlier.symm

/-- A word that follows `LIMIT` and what may be between stands apart. -/
theorem exists_standsApart
    (h : tokensFrom left cs = before ++ limit :: (between ++ count :: after))
    (hkind : limit.kind.isKeyword = true) (hword : upper limit.text = "LIMIT")
    (hbetween : ∀ token ∈ between, token.kind.isTrivia = true)
    (hcount : ∀ c ∈ count.text.toList.head?, isWord c = true) :
    ∃ c, StandsApart c (before ++ limit :: between) := by
  obtain ⟨fromLimit, -, hlimit⟩ := tokensFrom_split h
  obtain ⟨fromBetween, -, hread, hlater⟩ := exists_isReadAt hlimit.symm
  -- The tokens between are read where the keyword ends, each before the next one.
  have hreads : ∀ earlier token later, between = earlier ++ token :: later →
      ∃ left rest, token.IsReadAt left rest ∧ rest ≠ [] := by
    rintro earlier token later rfl
    rw [List.append_assoc] at hlater
    obtain ⟨fromToken, -, htoken⟩ := tokensFrom_split hlater.symm
    obtain ⟨rest, -, hreadToken, hrest⟩ := exists_isReadAt htoken.symm
    refine ⟨_, rest, hreadToken, ?_⟩
    rintro rfl
    rw [tokensFrom_nil] at hrest
    exact absurd hrest (by simp)
  rcases List.eq_nil_or_concat' between with rfl | ⟨blanks, last, rfl⟩
  · -- The keyword goes on as far as it can, so there is something between.
    obtain ⟨rest, rfl, hreadCount, -⟩ := exists_isReadAt hlater.symm
    have hnext := (hread.isSingleWord hkind hword (by decide)).2
    obtain ⟨c, more, hchars⟩ := List.exists_cons_of_ne_nil hreadCount.ne_nil
    rw [hchars] at hnext hcount
    have hc := (hnext c rfl).1
    rw [hcount c rfl] at hc
    cases hc
  · obtain ⟨lastLeft, rest, hreadLast, hmore⟩ := hreads blanks last [] rfl
    obtain ⟨init, c, hchars, hbarrier⟩ := hreadLast.isBarrier (hbetween last (by simp)) hmore
    refine ⟨c, hbarrier, ?_, fun later hlater => not_batch hword ?_ ?_ hlater⟩
    · simp [hchars, ← List.append_assoc]
    · simp [hchars]
    · intro earlier token later hsplit
      obtain ⟨tokenLeft, rest, hreadToken, -⟩ := hreads earlier token later hsplit
      exact ⟨hreadToken.ne_nil, hreadToken.head_of_isTrivia (hbetween token (by simp [hsplit]))⟩

end

end SemanticLayer.Sql
