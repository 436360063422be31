import Mathlib.Data.List.Forall2
import SemanticLayer.Proofs.Sql.ReadOnly
import SemanticLayer.Proofs.Text.Digit

/-!
Keywords that write in texts that are accepted. Every keyword of several words opens with one of a
few fixed words; only one of these writes, and the keyword of this kind that is more than the word
itself is passed over.
-/

namespace SemanticLayer.Sql

open Text Pattern

/-! ### Spelling -/

/-- The characters spell the word in any letter case. -/
def Spells (word : String) (cs : List Char) : Prop :=
  List.Forall₂ (fun letter c => sameLetter letter c = true) word.toList cs

def capitals : List Char := "ABCDEFGHIJKLMNOPQRSTUVWXYZ".toList

theorem toLower_of_wide {c : Char} (h : 128 ≤ c.toNat) : c.toLower = c := by
  unfold Char.toLower
  rw [dif_neg]
  rintro ⟨-, hlast⟩
  have hcode : c.toNat ≤ 90 := hlast
  omega

/-- A letter of a word is a word character. In upper case it is the capital letter, unless it is one
of the two letters outside the first 128 that have another capital. -/
theorem sameLetter_capital {letter c : Char} (hletter : letter ∈ capitals)
    (h : sameLetter letter c = true) :
    isWord c = true ∧ (upperChar c = [letter] ∨
      (letter = 'I' ∨ letter = 'K') ∧ 128 ≤ c.toNat ∧ upperChar c = [c]) := by
  have hnarrow : capitals.Forall fun letter => ∀ code : Fin 128,
      sameLetter letter (Char.ofNat code.val) = true →
        isWord (Char.ofNat code.val) = true ∧ upperChar (Char.ofNat code.val) = [letter] := by
    decide +kernel
  have hwide : capitals.Forall fun letter => ∀ code ∈ [304, 305, 383, 8490],
      sameLetter letter (Char.ofNat code) = true →
        isWord (Char.ofNat code) = true ∧ (upperChar (Char.ofNat code) = [letter] ∨
          (letter = 'I' ∨ letter = 'K') ∧ 128 ≤ (Char.ofNat code).toNat ∧
            upperChar (Char.ofNat code) = [Char.ofNat code]) := by
    decide +kernel
  by_cases hsmall : c.toNat < 128
  · have hcode := List.forall_iff_forall_mem.1 hnarrow letter hletter ⟨c.toNat, hsmall⟩
    rw [Char.ofNat_toNat] at hcode
    obtain ⟨hword, hupper⟩ := hcode h
    exact ⟨hword, .inl hupper⟩
  · have hcode : c.toNat ∈ [304, 305, 383, 8490] := by
      have hlower : capitals.Forall fun letter => letter.toLower.toNat < 128 := by decide
      have hne : (c.toLower == letter.toLower) = false := by
        rw [toLower_of_wide (not_lt.1 hsmall), beq_eq_false_iff_ne]
        intro hc
        exact hsmall (hc ▸ List.forall_iff_forall_mem.1 hlower letter hletter)
      simp only [sameLetter, hne, Bool.false_or, Bool.or_eq_true, Bool.and_eq_true, beq_iff_eq] at h
      simp only [List.mem_cons, List.not_mem_nil, or_false]
      omega
    have hfound := List.forall_iff_forall_mem.1 hwide letter hletter c.toNat hcode
    rw [Char.ofNat_toNat] at hfound
    exact hfound h

theorem sameLetter_quote (c : Char) (h : sameLetter '\'' c = true) : isWord c = false := by
  have hnarrow : ∀ code : Fin 128, sameLetter '\'' (Char.ofNat code.val) = true →
      isWord (Char.ofNat code.val) = false := by
    decide +kernel
  by_cases hsmall : c.toNat < 128
  · have hcode := hnarrow ⟨c.toNat, hsmall⟩
    rw [Char.ofNat_toNat] at hcode
    exact hcode h
  · have hlower : ('\'' : Char).toLower = '\'' := by decide
    simp only [sameLetter, toLower_of_wide (not_lt.1 hsmall), hlower] at h
    obtain rfl : c = '\'' := by simpa using h
    exact absurd (by decide) hsmall

section

variable {word : String} {cs : List Char}

theorem Spells.isWord (h : Spells word cs) (hword : ∀ letter ∈ word.toList, letter ∈ capitals) :
    ∀ c ∈ cs, Text.isWord c = true := by
  unfold Spells at h
  generalize word.toList = letters at h hword
  induction h with
  | nil => simp
  | cons hc _ ih =>
    obtain ⟨hletter, hletters⟩ := List.forall_mem_cons.1 hword
    exact List.forall_mem_cons.2 ⟨(sameLetter_capital hletter hc).1, ih hletters⟩

theorem Spells.upper_eq_of (h : Spells word cs)
    (hupper : ∀ letter ∈ word.toList, ∀ c ∈ cs, sameLetter letter c = true → upperChar c = [letter]) :
    upper (String.ofList cs) = word := by
  have hflat : cs.flatMap upperChar = word.toList := by
    unfold Spells at h
    generalize word.toList = letters at h hupper
    induction h with
    | nil => rfl
    | @cons letter c letters cs hc _ ih =>
      rw [List.flatMap_cons, hupper letter List.mem_cons_self c List.mem_cons_self hc,
        ih fun other hother d hd =>
          hupper other (List.mem_cons_of_mem _ hother) d (List.mem_cons_of_mem _ hd)]
      rfl
  rw [upper, String.toList_ofList, hflat, String.ofList_toList]

/-- What spells a word is the word in upper case, if that has only letters of the first 128. -/
theorem Spells.upper_eq (h : Spells word cs) (hword : ∀ letter ∈ word.toList, letter ∈ capitals)
    (hnarrow : ∀ c ∈ (upper (String.ofList cs)).toList, c.toNat < 128) :
    upper (String.ofList cs) = word := by
  refine h.upper_eq_of fun letter hletter c hc hsame => ?_
  refine (sameLetter_capital (hword letter hletter) hsame).2.resolve_right ?_
  rintro ⟨-, hwide, hsame⟩
  have hmem : c ∈ (upper (String.ofList cs)).toList := by
    rw [upper, String.toList_ofList, String.toList_ofList]
    exact List.mem_flatMap.2 ⟨c, hc, hsame ▸ List.mem_singleton_self c⟩
  exact absurd (hnarrow c hmem) (not_lt.2 hwide)

end

/-! ### Words that patterns open with -/

/-- The characters begin with the word, and no word character follows it. -/
def OpensWith (word : String) (cs : List Char) : Prop :=
  ∃ one two, cs = one ++ two ∧ Spells word one ∧ ∀ c ∈ two.head?, isWord c = false

namespace Pattern

/-- Every text of the pattern begins with one of the words. -/
def Opens (words : List String) (pattern : Pattern) : Prop :=
  ∀ cs, pattern.Reads cs → ∃ word ∈ words, OpensWith word cs

/-- No text of the pattern continues a word. -/
def IsDetached (pattern : Pattern) : Prop :=
  ∀ cs, pattern.Reads cs → ∀ c ∈ cs.head?, isWord c = false

/-- A text of the pattern is empty or begins with one of the words and goes on after it. -/
def Leads (words : List String) (pattern : Pattern) : Prop :=
  ∀ cs, pattern.Reads cs → cs = [] ∨ ∃ word ∈ words, ∃ one two, cs = one ++ two ∧
    Spells word one ∧ two ≠ [] ∧ ∀ c ∈ two.head?, isWord c = false

variable {pattern first second : Pattern} {words others : List String} {word : String}
  {cs : List Char}

theorem reads_text : (text word).Reads cs ↔ Spells word cs := by
  have hfold : ∀ (letters : List Char) (first : Pattern) (cs : List Char),
      (letters.foldl (fun read d => .seq read (.one (sameLetter d))) first).Reads cs ↔
        ∃ one two, first.Reads one ∧
          List.Forall₂ (fun letter c => sameLetter letter c = true) letters two ∧
          cs = one ++ two := by
    intro letters
    induction letters with
    | nil =>
      intro first cs
      constructor
      · exact fun h => ⟨cs, [], h, .nil, (List.append_nil cs).symm⟩
      · rintro ⟨one, two, hone, htwo, rfl⟩
        rw [List.forall₂_nil_left_iff.1 htwo, List.append_nil]
        exact hone
    | cons letter letters ih =>
      intro first cs
      rw [List.foldl_cons, ih]
      constructor
      · rintro ⟨_, two, ⟨one, _, hone, ⟨c, hc, rfl⟩, rfl⟩, htwo, rfl⟩
        exact ⟨one, c :: two, hone, .cons hc htwo, by simp⟩
      · rintro ⟨one, _, hone, hletters, rfl⟩
        obtain ⟨c, two, hc, htwo, rfl⟩ := List.forall₂_cons_left_iff.1 hletters
        exact ⟨one ++ [c], two, ⟨one, [c], hone, ⟨c, hc, rfl⟩, rfl⟩, htwo, by simp⟩
  unfold text Spells
  cases word.toList with
  | nil =>
    rw [List.forall₂_nil_left_iff]
    constructor
    · intro h
      exact List.eq_nil_iff_forall_not_mem.2 fun c hc => by simpa using h c hc
    · rintro rfl
      exact fun c hc => by cases hc
  | cons letter letters =>
    dsimp only
    rw [hfold, List.forall₂_cons_left_iff]
    constructor
    · rintro ⟨_, two, ⟨c, hc, rfl⟩, htwo, rfl⟩
      exact ⟨c, two, hc, htwo, rfl⟩
    · rintro ⟨c, two, hc, htwo, rfl⟩
      exact ⟨[c], two, ⟨c, hc, rfl⟩, htwo, rfl⟩

theorem reads_any {patterns : List Pattern} :
    (any patterns).Reads cs ↔ ∃ pattern ∈ patterns, pattern.Reads cs := by
  induction patterns with
  | nil => simp [any, Reads]
  | cons pattern rest ih =>
    cases rest with
    | nil => simp [any]
    | cons other rest =>
      rw [any, Reads, ih]
      · simp
      · simp

theorem reads_anyText : (anyText words).Reads cs ↔ ∃ word ∈ words, Spells word cs := by
  simp [anyText, reads_any, reads_text]

theorem reads_oneOrMore {accepts : Char → Bool} :
    (oneOrMore accepts).Reads cs ↔ cs ≠ [] ∧ ∀ c ∈ cs, accepts c = true := by
  constructor
  · rintro ⟨_, rest, ⟨c, hc, rfl⟩, hrest, rfl⟩
    exact ⟨by simp, List.forall_mem_cons.2 ⟨hc, hrest⟩⟩
  · rintro ⟨hne, hall⟩
    obtain ⟨c, rest, rfl⟩ := List.exists_cons_of_ne_nil hne
    obtain ⟨hc, hrest⟩ := List.forall_mem_cons.1 hall
    exact ⟨[c], rest, ⟨c, hc, rfl⟩, hrest, rfl⟩

/-! Parts that no word runs into. -/

theorem isDetached_wordBoundary : IsDetached .wordBoundary := by
  rintro _ rfl c hc
  cases hc

theorem isDetached_blanks : IsDetached blanks := by
  intro cs h c hc
  obtain ⟨-, hblank⟩ := reads_oneOrMore.1 h
  exact isWord_of_isBlank (hblank c (List.mem_of_mem_head? hc))

theorem isDetached_one {accepts : Char → Bool} (h : ∀ c, accepts c = true → isWord c = false) :
    IsDetached (.one accepts) := by
  rintro _ ⟨c, hc, rfl⟩ d hd
  obtain rfl := Option.mem_some_iff.1 hd
  exact h c hc

theorem IsDetached.seq (h : first.IsDetached) (hproductive : first.isProductive = true) :
    (first.seq second).IsDetached := by
  rintro _ ⟨one, two, hone, -, rfl⟩ c hc
  rw [List.head?_append_of_ne_nil _ (hone.ne_nil hproductive)] at hc
  exact h one hone c hc

theorem IsDetached.seq_isDetached (h : first.IsDetached) (hsecond : second.IsDetached) :
    (first.seq second).IsDetached := by
  rintro _ ⟨one, two, hone, htwo, rfl⟩ c hc
  cases one with
  | nil => exact hsecond two htwo c hc
  | cons d one => exact h (d :: one) hone c hc

theorem IsDetached.either (h : first.IsDetached) (hother : second.IsDetached) :
    (first.either second).IsDetached := by
  rintro cs (hreads | hreads)
  · exact h cs hreads
  · exact hother cs hreads

theorem isDetached_trailing (tail : Pattern) : (Rule.trailing tail).IsDetached := by
  rintro cs (h | rfl) c hc
  · exact (isDetached_blanks.seq rfl) cs h c hc
  · cases hc

/-! Parts that a word opens. -/

theorem opens_text (word : String) : (text word).Opens [word] :=
  fun cs h => ⟨word, List.mem_singleton_self _, cs, [], (List.append_nil cs).symm, reads_text.1 h,
    fun c hc => by cases hc⟩

theorem opens_anyText (words : List String) : (anyText words).Opens words := by
  intro cs h
  obtain ⟨word, hword, hspells⟩ := reads_anyText.1 h
  exact ⟨word, hword, cs, [], (List.append_nil cs).symm, hspells, fun c hc => by cases hc⟩

theorem Opens.either (h : first.Opens words) (hother : second.Opens others) :
    (first.either second).Opens (words ++ others) := by
  rintro cs (hreads | hreads)
  · obtain ⟨word, hword, hopens⟩ := h cs hreads
    exact ⟨word, List.mem_append_left _ hword, hopens⟩
  · obtain ⟨word, hword, hopens⟩ := hother cs hreads
    exact ⟨word, List.mem_append_right _ hword, hopens⟩

theorem Opens.seq (h : first.Opens words) (hdetached : second.IsDetached) :
    (first.seq second).Opens words := by
  rintro _ ⟨cs, rest, hreads, hrest, rfl⟩
  obtain ⟨word, hword, one, two, rfl, hspells, hend⟩ := h cs hreads
  refine ⟨word, hword, one, two ++ rest, List.append_assoc _ _ _, hspells, ?_⟩
  cases two with
  | nil => exact hdetached rest hrest
  | cons c two => exact hend

theorem leads_leadingWords (words : List String) : (Rule.leadingWords words).Leads words := by
  rintro cs (h | rfl)
  · obtain ⟨pattern, hpattern, hreads⟩ := reads_any.1 h
    obtain ⟨word, hword, rfl⟩ := List.mem_map.1 hpattern
    obtain ⟨one, two, hone, htwo, rfl⟩ := hreads
    exact .inr ⟨word, hword, one, two, rfl, reads_text.1 hone, (reads_oneOrMore.1 htwo).1,
      isDetached_blanks two htwo⟩
  · exact .inl rfl

theorem Leads.seq (h : first.Leads words) (hother : second.Leads others) :
    (first.seq second).Leads (words ++ others) := by
  rintro _ ⟨cs, rest, hreads, hrest, rfl⟩
  rcases h cs hreads with rfl | ⟨word, hword, one, two, rfl, hspells, hne, hend⟩
  · rcases hother rest hrest with rfl | ⟨word, hword, hleads⟩
    · exact .inl rfl
    · exact .inr ⟨word, List.mem_append_right _ hword, hleads⟩
  · refine .inr ⟨word, List.mem_append_left _ hword, one, two ++ rest, List.append_assoc _ _ _,
      hspells, List.append_ne_nil_of_left_ne_nil hne _, ?_⟩
    rwa [List.head?_append_of_ne_nil _ hne]

theorem Leads.either (h : first.Leads words) (hother : second.Leads others) :
    (first.either second).Leads (words ++ others) := by
  rintro cs (hreads | hreads)
  · refine (h cs hreads).imp_right fun ⟨word, hword, hleads⟩ => ?_
    exact ⟨word, List.mem_append_left _ hword, hleads⟩
  · refine (hother cs hreads).imp_right fun ⟨word, hword, hleads⟩ => ?_
    exact ⟨word, List.mem_append_right _ hword, hleads⟩

theorem Leads.optional (h : pattern.Leads words) : (pattern.optional).Leads words := by
  rintro cs (hreads | rfl)
  · exact h cs hreads
  · exact .inl rfl

theorem Leads.opens (h : first.Leads words) (hother : second.Opens others) :
    (first.seq second).Opens (words ++ others) := by
  rintro _ ⟨cs, rest, hreads, hrest, rfl⟩
  rcases h cs hreads with rfl | ⟨word, hword, one, two, rfl, hspells, hne, hend⟩
  · obtain ⟨word, hword, hopens⟩ := hother rest hrest
    exact ⟨word, List.mem_append_right _ hword, hopens⟩
  · refine ⟨word, List.mem_append_left _ hword, one, two ++ rest, List.append_assoc _ _ _, hspells, ?_⟩
    rwa [List.head?_append_of_ne_nil _ hne]

theorem Opens.mono (h : pattern.Opens words) (hsubset : words ⊆ others) : pattern.Opens others := by
  intro cs hreads
  obtain ⟨word, hword, hopens⟩ := h cs hreads
  exact ⟨word, hsubset hword, hopens⟩

/-- Two words with blanks between them, the second of which may be followed by more. -/
theorem opens_words (word : String) (rest : Pattern) :
    ((text word).seq (blanks.seq rest)).Opens [word] :=
  (opens_text word).seq (isDetached_blanks.seq rfl)

end Pattern

/-- The words that open keywords of several words, but for one. -/
def openings : List String :=
  ["CASE", "IN", "VALUES", "USING", "FROM", "AS", "LEFT", "RIGHT", "FULL", "INNER", "OUTER",
    "STRAIGHT", "CROSS", "NATURAL", "JOIN", "END", "IF", "NOT", "ASC", "DESC", "NULLS", "UNION",
    "GROUP", "ORDER", "PRIMARY", "HANDLER", "GO", "LATERAL", "AT", "WITH"]

theorem openings_capital : ∀ word ∈ openings, ∀ letter ∈ word.toList, letter ∈ capitals := by
  have hall : ∀ word ∈ openings, word.toList.Forall (· ∈ capitals) := by decide +kernel
  exact fun word hword => List.forall_iff_forall_mem.1 (hall word hword)

theorem openings_harmless : ∀ word ∈ openings, word ∉ writeKeywords := by
  decide +kernel

/-- The keyword that creates or replaces something. -/
def creation : Pattern :=
  all [text "CREATE", Rule.trailing (all [text "OR", blanks, text "REPLACE"]), .wordBoundary]

/-- The rule that looks words up in the vocabulary. -/
def wordRule : Rule :=
  ⟨.seq (.one isWord) (.run fun c => isWord c || c == '$' || c == '#'),
    fun word => wordKind (upper word)⟩

/-- The rule makes no keywords. -/
def Rule.IsPlain (rule : Rule) : Prop :=
  ∀ text, (rule.kind text).isKeyword = false

theorem markRules_isPlain : ∀ rule ∈ markRules, rule.IsPlain := by
  simp [markRules, Rule.IsPlain, Rule.always, TokenKind.isKeyword]

theorem valueRules_keyword :
    ∀ rule ∈ valueRules, rule.IsPlain ∨ rule.pattern.Opens openings := by
  have hfirst : (Pattern.seq (anyText ["CASE", "IN", "VALUES", "USING", "FROM", "AS"])
      .wordBoundary).Opens openings :=
    ((opens_anyText _).seq isDetached_wordBoundary).mono (by decide)
  rw [valueRules, List.forall_mem_cons]
  exact ⟨.inr hfirst, by simp [Rule.IsPlain, Rule.always, TokenKind.isKeyword]⟩

theorem wordRules_keyword : ∀ rule ∈ wordRules,
    rule.IsPlain ∨ rule.pattern.Opens openings ∨ rule.pattern = creation ∨ rule = wordRule := by
  have hplain (kind : TokenKind) (hkind : kind.isKeyword = false) (pattern : Pattern) :
      (Rule.always kind pattern).IsPlain := fun _ => hkind
  simp only [wordRules, List.forall_mem_cons]
  refine ⟨.inr (.inl ?join), .inr (.inl ?finish), .inr (.inl ?condition), .inr (.inl ?negation),
    .inr (.inl ?order), .inr (.inl ?nulls), .inr (.inl ?union), .inr (.inr (.inl rfl)),
    .inl (hplain _ rfl _), .inr (.inl ?group), .inr (.inl ?sort), .inr (.inl ?primary),
    .inr (.inl ?handler), .inr (.inl ?batch), .inr (.inl ?lateral), .inr (.inl ?zone),
    .inl (hplain _ rfl _), .inl (hplain _ rfl _), .inr (.inr (.inr rfl)), .inl (hplain _ rfl _),
    .inl (hplain _ rfl _), .inl (hplain _ rfl _), .inl (hplain _ rfl _), by simp⟩
  case join =>
    have hsides := (leads_leadingWords ["LEFT", "RIGHT", "FULL"]).seq
      (leads_leadingWords ["INNER", "OUTER", "STRAIGHT"])
    have hwords := hsides.either (leads_leadingWords ["CROSS", "NATURAL"])
    exact (hwords.optional.opens ((opens_text "JOIN").seq isDetached_wordBoundary)).mono (by decide)
  case finish =>
    exact ((opens_text "END").seq
      ((isDetached_trailing _).seq_isDetached isDetached_wordBoundary)).mono (by decide)
  case condition => exact (opens_words "IF" _).mono (by decide)
  case negation => exact ((opens_words "NOT" _).seq isDetached_wordBoundary).mono (by decide)
  case order =>
    exact ((opens_anyText ["ASC", "DESC"]).seq
      ((isDetached_trailing _).seq_isDetached isDetached_wordBoundary)).mono (by decide)
  case nulls => exact (opens_words "NULLS" _).mono (by decide)
  case union => exact ((opens_words "UNION" _).seq isDetached_wordBoundary).mono (by decide)
  case group => exact ((opens_words "GROUP" _).seq isDetached_wordBoundary).mono (by decide)
  case sort => exact ((opens_words "ORDER" _).seq isDetached_wordBoundary).mono (by decide)
  case primary => exact ((opens_words "PRIMARY" _).seq isDetached_wordBoundary).mono (by decide)
  case handler => exact ((opens_words "HANDLER" _).seq isDetached_wordBoundary).mono (by decide)
  case batch =>
    have hblank : IsDetached (.one isBlank) := isDetached_one fun c hc => isWord_of_isBlank hc
    exact ((opens_text "GO").seq (hblank.seq rfl)).mono (by decide)
  case lateral => exact (opens_words "LATERAL" _).mono (by decide)
  case zone =>
    -- The second word ends with a quote, which is no word character.
    have hquote : IsDetached (.one (sameLetter '\'')) := isDetached_one sameLetter_quote
    have hwith : (text "WITH'").Opens ["WITH"] := (opens_text "WITH").seq hquote
    exact (((opens_text "AT").either hwith).seq (isDetached_blanks.seq rfl)).mono (by decide)

theorem rules_keyword : ∀ rule ∈ rules,
    rule.IsPlain ∨ rule.pattern.Opens openings ∨ rule.pattern = creation ∨ rule = wordRule := by
  intro rule hrule
  simp only [rules, List.mem_append] at hrule
  rcases hrule with (hrule | hrule) | hrule
  · exact .inl (markRules_isPlain rule hrule)
  · exact (valueRules_keyword rule hrule).imp_right .inl
  · exact wordRules_keyword rule hrule

/-! ### First words -/

/-- What a token begins with, up to a character that belongs to no word. -/
def Token.firstWord (token : Token) : String :=
  String.ofList (token.text.toList.takeWhile isWord)

/-- The token is the keyword that creates something in place of what there is. -/
def Token.IsReplacing (token : Token) : Prop :=
  ∃ create or replace before after : List Char,
    token.text.toList = create ++ (before ++ (or ++ (after ++ replace))) ∧
      Spells "CREATE" create ∧ Spells "OR" or ∧ Spells "REPLACE" replace ∧
      (before ≠ [] ∧ ∀ c ∈ before, isBlank c = true) ∧ after ≠ [] ∧ ∀ c ∈ after, isBlank c = true

theorem takeWhile_of_opensWith {word : String} {one two : List Char} (h : Spells word one)
    (hword : ∀ letter ∈ word.toList, letter ∈ capitals) (hend : ∀ c ∈ two.head?, isWord c = false) :
    (one ++ two).takeWhile isWord = one := by
  have hrest : two.takeWhile isWord = [] := by
    cases two with
    | nil => rfl
    | cons c two => exact List.takeWhile_cons_of_neg (by simp [hend c rfl])
  rw [List.takeWhile_append_of_pos (h.isWord hword), hrest, List.append_nil]

theorem writeKeywords_narrow : ∀ keyword ∈ writeKeywords, ∀ c ∈ keyword.toList, c.toNat < 128 := by
  have hall : ∀ keyword ∈ writeKeywords, keyword.toList.Forall (·.toNat < 128) := by decide +kernel
  exact fun keyword hkeyword => List.forall_iff_forall_mem.1 (hall keyword hkeyword)

/-- A token that opens with a word opens with no other one that writes. -/
theorem Token.firstWord_eq {token : Token} {word : String} (h : OpensWith word token.text.toList)
    (hword : ∀ letter ∈ word.toList, letter ∈ capitals)
    (hwrites : upper token.firstWord ∈ writeKeywords) : upper token.firstWord = word := by
  obtain ⟨one, two, htext, hspells, hend⟩ := h
  have hnarrow := writeKeywords_narrow _ hwrites
  rw [Token.firstWord, htext, takeWhile_of_opensWith hspells hword hend] at hnarrow ⊢
  exact hspells.upper_eq hword hnarrow

/-- None of the letters of this word has a second capital. -/
theorem Spells.upper_create {cs : List Char} (h : Spells "CREATE" cs) :
    upper (String.ofList cs) = "CREATE" := by
  have hletters : "CREATE".toList.Forall fun letter =>
      letter ∈ capitals ∧ letter ≠ 'I' ∧ letter ≠ 'K' := by decide
  refine h.upper_eq_of fun letter hletter c _ hsame => ?_
  obtain ⟨hcapital, hi, hk⟩ := List.forall_iff_forall_mem.1 hletters letter hletter
  refine (sameLetter_capital hcapital hsame).2.resolve_right ?_
  rintro ⟨hexception, -⟩
  exact hexception.elim hi hk

theorem Token.IsReplacing.firstWord_eq {token : Token} (h : token.IsReplacing) :
    upper token.firstWord = "CREATE" := by
  obtain ⟨create, or, replace, before, after, htext, hcreate, -, -, ⟨hne, hblank⟩, -⟩ := h
  have hcapital : "CREATE".toList.Forall (· ∈ capitals) := by decide
  have hend : ∀ c ∈ (before ++ (or ++ (after ++ replace))).head?, isWord c = false := by
    rw [List.head?_append_of_ne_nil _ hne]
    exact fun c hc => isWord_of_isBlank (hblank c (List.mem_of_mem_head? hc))
  rw [Token.firstWord, htext, takeWhile_of_opensWith hcreate (List.forall_iff_forall_mem.1 hcapital) hend]
  exact hcreate.upper_create

/-- A character of the first 128 is a byte of the text. -/
theorem mem_toByteArray {s : String} {c : Char} (h : c ∈ s.toList) (hc : c.utf8Size = 1) :
    c.val.toUInt8 ∈ s.toByteArray.data.toList := by
  rw [← String.utf8Encode_toList, List.utf8Encode, List.data_toByteArray]
  exact List.mem_flatMap.2 ⟨c, h, by simp [String.utf8EncodeChar_eq_singleton hc]⟩

/-- No word of the vocabulary has a mark in it. Its bytes are looked at, since these are found faster
than its characters. -/
theorem not_mem_of_wordKind {word : String} (h : (wordKind word).isKeyword = true) {mark : Char}
    (hmark : mark ∈ ['$', '#']) : mark ∉ word.toList := by
  have hbyte : ['$', '#'].Forall fun mark => mark.utf8Size = 1 ∧ mark.val.toUInt8 ∈ [36, 35] := by
    decide
  obtain ⟨hsize, hcode⟩ := List.forall_iff_forall_mem.1 hbyte mark hmark
  have hlisted (words : List String)
      (hwords : ∀ word ∈ words, word.toByteArray.data.toList.Forall (· ∉ [36, 35]))
      (hword : words.contains word = true) : mark ∉ word.toList :=
    fun hmem => List.forall_iff_forall_mem.1 (hwords word (List.contains_iff_mem.1 hword)) _
      (mem_toByteArray hmem hsize) hcode
  unfold wordKind at h
  split_ifs at h with hwith hpermission hdefinition hmanipulation hdiv hbuiltin hkeyword
  · exact hlisted ["WITH"] (by decide +kernel) (by simpa using hwith)
  · exact hlisted _ (by decide +kernel) hpermission
  · exact hlisted _ (by decide +kernel) hdefinition
  · exact hlisted _ (by decide +kernel) hmanipulation
  · cases h
  · cases h
  · exact hlisted _ (by decide +kernel) hkeyword
  · cases h

/-- A keyword of the vocabulary is a single word. -/
theorem firstWord_of_wordRule {cs : List Char} (h : wordRule.pattern.Reads cs)
    (hkind : (wordKind (upper (String.ofList cs))).isKeyword = true) :
    cs.takeWhile isWord = cs := by
  have hmarks : ['$', '#'].Forall fun c => upperChar c = [c] := by decide
  rw [List.takeWhile_eq_self_iff]
  intro c hc
  obtain ⟨_, two, ⟨first, hfirst, rfl⟩, htwo, rfl⟩ := h
  rcases List.mem_append.1 hc with hc | hc
  · exact List.mem_singleton.1 hc ▸ hfirst
  · have hclass := htwo c hc
    simp only [Bool.or_eq_true, beq_iff_eq, or_assoc] at hclass
    refine hclass.resolve_right fun hmark => ?_
    have hmark : c ∈ ['$', '#'] := by simpa using hmark
    refine not_mem_of_wordKind hkind hmark ?_
    rw [upper, String.toList_ofList, String.toList_ofList]
    exact List.mem_flatMap.2
      ⟨c, List.mem_append_right _ hc,
        List.forall_iff_forall_mem.1 hmarks c hmark ▸ List.mem_singleton_self c⟩

/-- A keyword that creates something is the word alone or replaces what there is. -/
theorem reads_creation {cs : List Char} (h : creation.Reads cs) :
    Spells "CREATE" cs ∨ (⟨.definition, String.ofList cs⟩ : Token).IsReplacing := by
  obtain ⟨create, _, hcreate, ⟨tail, _, htail, rfl, rfl⟩, rfl⟩ := h
  rw [List.append_nil]
  rcases htail with ⟨before, _, hbefore, ⟨or, _, hor, ⟨after, replace, hafter, hreplace, rfl⟩, rfl⟩,
    rfl⟩ | rfl
  · refine .inr ⟨create, or, replace, before, after, ?_, reads_text.1 hcreate, reads_text.1 hor,
      reads_text.1 hreplace, reads_oneOrMore.1 hbefore, reads_oneOrMore.1 hafter⟩
    rw [String.toList_ofList]
  · rw [List.append_nil]
    exact .inl (reads_text.1 hcreate)

/-! ### Accepted texts -/

/-- In a text that is accepted, a keyword begins with a word that writes just if it creates something
in place of what there is. -/
theorem IsReadOnly.write_iff {text : String} (h : IsReadOnly text) {token : Token}
    (htoken : token ∈ tokenize text) (hkeyword : token.kind.isKeyword = true) :
    upper token.firstWord ∈ writeKeywords ↔ token.IsReplacing := by
  refine ⟨fun hwrites => ?_, fun hreplacing => ?_⟩
  · -- The check has seen the whole keyword, so it is more than its first word.
    have hharmless : upper token.text ∉ writeKeywords := by
      intro hmem
      have hnone := h.harmless token htoken
      rw [Token.writeKeyword?, if_pos (by simp [hkeyword, hmem])] at hnone
      cases hnone
    have hlexed := isLexed_of_mem_tokenize htoken
    clear htoken
    cases hlexed with
    | quotation hkind =>
      have hnone : ∀ kind ∈ [TokenKind.blockHint, .blockComment, .literal],
          kind.isKeyword = false := by decide
      exact absurd (hkeyword.symm.trans (hnone _ hkind)) (by simp)
    | unknown => cases hkeyword
    | @rule rule hrule cs hreads =>
      rcases rules_keyword rule hrule with hplain | hopens | hcreation | rfl
      · exact absurd (hkeyword.symm.trans (hplain _)) (by simp)
      · obtain ⟨word, hword, hopens⟩ := hopens cs hreads
        rw [← String.toList_ofList (l := cs)] at hopens
        have hfirst := Token.firstWord_eq hopens (openings_capital word hword) hwrites
        exact absurd (hfirst ▸ hwrites) (openings_harmless word hword)
      · rw [hcreation] at hreads
        rcases reads_creation hreads with hspells | hreplacing
        · rw [hspells.upper_create] at hharmless
          exact absurd (by decide) hharmless
        · exact hreplacing
      · rw [Token.firstWord, String.toList_ofList, firstWord_of_wordRule hreads hkeyword] at hwrites
        exact absurd hwrites hharmless
  · rw [hreplacing.firstWord_eq]
    decide

end SemanticLayer.Sql
