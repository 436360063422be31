import SemanticLayer.Proofs.Sql.Number
import SemanticLayer.Proofs.Sql.TopLevel

/-!
Numbers in the place of a word. A point that follows the word, with digits and an exponent after it,
belongs to a number that takes the place of the word, and so the tokens that follow are others at
first. Where the number ends they are the same again.
-/

namespace SemanticLayer.Sql

open Text Pattern

/-- What a pattern reads stands at the beginning. -/
theorem Pattern.exists_of_length? {pattern : Pattern} (hproductive : pattern.isProductive = true)
    {left : Option Char} {right : List Char} {n : Nat} (h : pattern.length? left right = some n) :
    ∃ cs rest, right = cs ++ rest ∧ cs ≠ [] ∧ cs.length = n := by
  have hlength : (right.take n).length = n := by
    rw [List.length_take, min_eq_left (length?_le h)]
  have hread : pattern.length? left (right.take n ++ right.drop n) = some (right.take n).length := by
    rw [List.take_append_drop, hlength, h]
  exact ⟨_, _, (List.take_append_drop n right).symm, (reads_of_length? hread).ne_nil hproductive,
    hlength⟩

/-! ### Points -/

section

variable {zs after : List Char} (left : Option Char)

/-- What follows a point. -/
theorem point_ends (second : Pattern) (cs : List Char) (taken : Nat) :
    ((Rule.char '.').seq second).ends ⟨left, '.' :: cs, taken⟩ =
      second.ends ⟨some '.', cs, taken + 1⟩ :=
  List.flatMap_singleton second.ends _

theorem digits_ends_of_stop (hstop : ∀ d ∈ after.head?, isDecimalDigit d = false)
    (place : Option Char) (taken : Nat) : Rule.digits.ends ⟨place, after, taken⟩ = [] := by
  have hstarts : Rule.digits.starts = [isDecimalDigit] := rfl
  refine ends_of_not_mayStart rfl fun d hd => ?_
  rw [mayStart_eq, hstarts, List.any_cons, List.any_nil, hstop d hd, Bool.or_false]

theorem exponentPart_starts : exponentPart.starts = [sameLetter 'E'] := rfl

open Rule in
/-- An exponent after the digits of a fraction. -/
theorem exponentTail_point (h : DigitRun zs after) :
    exponentTail.length? left ('.' :: (zs ++ after)) =
      (exponentPart.length? (some '0') after).map (· + (zs.length + 1)) := by
  have hinside : ∀ place : Place, place.right.head?.any isDecimalDigit = true →
      exponentPart.ends place = [] := by
    intro place hplace
    refine ends_of_not_mayStart rfl fun d hd => ?_
    rw [hd] at hplace
    rw [mayStart_eq, exponentPart_starts]
    simp (disch := decide) [sameLetter_digit hplace, ne_of_isDecimalDigit hplace]
  have hnone : exponentPart.ends ⟨left, '.' :: (zs ++ after), 0⟩ = [] := by
    refine ends_of_not_mayStart rfl fun d hd => ?_
    obtain rfl := Option.some.inj hd
    decide +kernel
  have hends : exponentTail.ends ⟨left, '.' :: (zs ++ after), 0⟩ =
      exponentPart.ends ⟨zs.getLast?.or (some '.'), after, 1 + zs.length⟩ := by
    rw [exponentTail, ends, ends, List.flatMap_append, List.flatMap_singleton, hnone, List.append_nil,
      point_ends]
    change ((digits.seq exponentPart).ends ⟨some '.', zs ++ after, 1⟩) = _
    rw [digits, ends_oneOrMore_seq hinside, if_pos h.head, h.afterRun_eq]
  rw [length?_eq, hends, h.length?_after _ _ rfl, Nat.add_comm 1]

/-- Without digits after the point there is no exponent. -/
theorem exponentTail_of_stop (hstop : ∀ d ∈ after.head?, isDecimalDigit d = false) :
    exponentTail.length? left ('.' :: after) = none := by
  have hnone : exponentPart.ends ⟨left, '.' :: after, 0⟩ = [] := by
    refine ends_of_not_mayStart rfl fun d hd => ?_
    obtain rfl := Option.some.inj hd
    decide +kernel
  rw [length?_eq, exponentTail, ends, ends, List.flatMap_append, List.flatMap_singleton, hnone,
    point_ends, digits_ends_of_stop hstop]
  rfl

/-- Without a point there is an exponent at once. -/
theorem exponentTail_of_not_point (hpoint : ∀ c ∈ after.head?, c ≠ '.') :
    exponentTail.length? left after = exponentPart.length? left after := by
  have hstarts : ((Rule.char '.').seq Rule.digits).starts = [(· == '.')] := rfl
  have hnone : ((Rule.char '.').seq Rule.digits).ends ⟨left, after, 0⟩ = [] := by
    refine ends_of_not_mayStart rfl fun c hc => ?_
    rw [mayStart_eq, hstarts]
    simpa using hpoint c hc
  rw [length?_eq, length?_eq, exponentTail, ends, ends, hnone, List.nil_append, List.flatMap_singleton]

/-- A fraction: the point and all digits, or all but the last one where a letter follows. -/
theorem fractionTail_point (hdigit : ∀ d ∈ zs, isDecimalDigit d = true)
    (hstop : ∀ d ∈ after.head?, isDecimalDigit d = false) :
    fractionTail.length? left ('.' :: (zs ++ after)) =
      if after.head?.any isNameStartOrLine then if zs = [] then none else some zs.length
      else some (zs.length + 1) := by
  have hends : fractionTail.ends ⟨left, '.' :: (zs ++ after), 0⟩ =
      ((⟨some '.', zs ++ after, 1⟩ : Place).runs isDecimalDigit).flatMap Rule.notNameStart.ends := by
    rw [fractionTail, ends, point_ends]
    rfl
  rw [length?_eq, hends, DigitRun.runs_notNameStart hdigit hstop, Nat.add_sub_cancel_left, Nat.add_comm]

open Rule in
/-- A number may start with the point, if a digit follows that. -/
theorem fraction_point (hdigit : ∀ d ∈ zs, isDecimalDigit d = true)
    (hstop : ∀ d ∈ after.head?, isDecimalDigit d = false) :
    fractionPattern.length? left ('.' :: (zs ++ after)) =
      if zs = [] then none
      else if after.head?.any isNameStartOrLine then
        if zs.length = 1 then none else some zs.length
      else some (zs.length + 1) := by
  have hnone : (digits.seq (Pattern.seq (char '.') (.run isDecimalDigit))).ends
      ⟨left, '.' :: (zs ++ after), 0⟩ = [] := by
    refine ends_of_not_mayStart rfl fun d hd => ?_
    obtain rfl := Option.some.inj hd
    decide +kernel
  have hpoint : isNameStartOrLine '.' = false := by decide +kernel
  have hends : fractionPattern.ends ⟨left, '.' :: (zs ++ after), 0⟩ =
      (digits.seq notNameStart).ends ⟨some '.', zs ++ after, 1⟩ := by
    change (notNameStart.ends _).flatMap _ = _
    rw [DigitRun.notNameStart_ends, if_neg (by simp [hpoint]), List.flatMap_singleton]
    change [_].flatMap _ = _
    rw [List.flatMap_singleton]
    change ((digits.seq (Pattern.seq (char '.') (.run isDecimalDigit))).ends _ ++
      (Pattern.seq (char '.') digits).ends _).flatMap _ = _
    rw [hnone, List.nil_append, point_ends]
    rfl
  rw [length?_eq, hends]
  by_cases hzs : zs = []
  · rw [if_pos hzs, hzs, List.nil_append, ends, digits_ends_of_stop hstop]
    rfl
  · have hrun : DigitRun zs after := ⟨hzs, hdigit, hstop⟩
    have hpos := List.length_pos_iff.2 hzs
    rw [if_neg hzs, hrun.plain_ends]
    have hless : 1 + zs.length - 1 = zs.length := by omega
    rw [hless, Nat.add_comm 1]

theorem quotation?_of_point (cs : List Char) : quotation? left ('.' :: cs) = none := by
  have hmark : dollarMark? ('.' :: cs) = none := rfl
  rw [quotation?_eq, hmark, Option.bind_none, ite_self]
  rfl

/-- At a point, the rules make a number or else the mark. -/
theorem firstRule?_of_point (cs : List Char) : firstRule? left ('.' :: cs) =
    ((fractionPattern.length? left ('.' :: cs)).map fun n => (TokenKind.decimal, n)).or
      (some (.punctuation, 1)) := by
  have hrules : rules = rules.take 20 ++ (.always .decimal fractionPattern ::
      ((rules.drop 21).take 23 ++ rules.drop 44)) := rfl
  have hstart : ∀ rule ∈ rules.take 20 ++ (rules.drop 21).take 23,
      rule.pattern.mayStart '.' = false := by decide +kernel
  have hearly : (rules.take 20).findSome? (·.reading? left ('.' :: cs)) = none :=
    findSome?_of_not_mayStart left (List.take_subset _ _) fun rule hrule d hd =>
      Option.some.inj hd ▸ hstart rule (List.mem_append_left _ hrule)
  have hlate : ((rules.drop 21).take 23).findSome? (·.reading? left ('.' :: cs)) = none :=
    findSome?_of_not_mayStart left (List.Subset.trans (List.take_subset _ _) (List.drop_subset _ _))
      fun rule hrule d hd => Option.some.inj hd ▸ hstart rule (List.mem_append_right _ hrule)
  have hmark : (rules.drop 44).findSome? (·.reading? left ('.' :: cs)) = some (.punctuation, 1) := rfl
  rw [firstRule?_eq, hrules, List.findSome?_append, hearly, Option.none_or,
    List.findSome?_cons, List.findSome?_append, hlate, Option.none_or, hmark]
  rw [Rule.reading?, Rule.always]
  cases fractionPattern.length? left ('.' :: cs) <;> rfl

/-- The token at a point is as long as the fraction that would be read after a number. -/
theorem tokenAt_point {cs : List Char} {n : Nat}
    (h : fractionTail.length? (some '0') ('.' :: cs) = some n) :
    ∃ kind ∈ [TokenKind.decimal, TokenKind.punctuation], tokenAt left ('.' :: cs) = (kind, n) := by
  obtain ⟨zs, after, rfl, hdigit, hstop⟩ := exists_digits cs
  rw [fractionTail_point _ hdigit hstop] at h
  rw [tokenAt, quotation?_of_point, Option.none_or, firstRule?_of_point,
    fraction_point left hdigit hstop]
  -- Without enough digits for a number, the point alone is a token.
  by_cases hzs : zs = []
  · rw [if_pos hzs]
    refine ⟨.punctuation, by simp, ?_⟩
    subst hzs
    split at h
    · cases h
    · obtain rfl := Option.some.inj h
      rfl
  · rw [if_neg hzs] at h ⊢
    split at h
    · obtain rfl := Option.some.inj h
      rw [if_pos ‹_›]
      by_cases hone : zs.length = 1
      · rw [if_pos hone]
        refine ⟨.punctuation, by simp, ?_⟩
        rw [hone]
        rfl
      · rw [if_neg hone]
        exact ⟨.decimal, by simp, rfl⟩
    · obtain rfl := Option.some.inj h
      rw [if_neg ‹_›]
      exact ⟨.decimal, by simp, rfl⟩

end

/-! ### Letters -/

section

variable {c : Char}

theorem isWord_of_sameLetter_x (h : sameLetter 'x' c = true) : isWord c = true := by
  have hcapital : 'X' ∈ capitals := by decide
  exact (sameLetter_capital hcapital h).1

theorem isNameStartOrLine_of_sameLetter_e (h : sameLetter 'E' c = true) :
    isNameStartOrLine c = true ∧ sameLetter 'x' c = false := by
  have hnarrow : ∀ code : Fin 128, sameLetter 'E' (Char.ofNat code.val) = true →
      isNameStartOrLine (Char.ofNat code.val) = true ∧
        sameLetter 'x' (Char.ofNat code.val) = false := by
    decide +kernel
  by_cases hc : c.toNat < 128
  · have hcode := hnarrow ⟨c.toNat, hc⟩
    rw [Char.ofNat_toNat] at hcode
    exact hcode h
  · have hlower : 'E'.toLower = 'e' := by decide
    rw [sameLetter, toLower_of_wide (not_lt.1 hc), hlower] at h
    simp at h
    subst h
    exact absurd (by decide) hc

end

/-! ### Single digits -/

section

variable {d e : Char} {rest : List Char} (left : Option Char)

theorem wordRule_length (hd : isWord d = true)
    (hstop : ∀ c ∈ rest.head?, isWord c = false ∧ c ≠ '$' ∧ c ≠ '#') :
    wordRule.pattern.length? left (d :: rest) = some 1 := by
  have hends : wordRule.pattern.ends ⟨left, d :: rest, 0⟩ =
      (⟨some d, rest, 1⟩ : Place).runs fun c => isWord c || c == '$' || c == '#' := by
    change (if isWord d then _ else _ : List Place).flatMap _ = _
    rw [if_pos hd, List.flatMap_singleton]
    rfl
  have htake : rest.takeWhile (fun c => isWord c || c == '$' || c == '#') = [] := by
    cases rest with
    | nil => rfl
    | cons c rest => exact List.takeWhile_cons_of_neg (by simp [hstop c rfl])
  rw [length?_eq, hends, Place.head?_runs, Place.afterRun_eq, htake]
  rfl

/-- The mark of a number in base sixteen has a letter after the zero. -/
theorem hexadecimal_of_second (hd : isDecimalDigit d = true)
    (he : ∀ e ∈ rest.head?, sameLetter 'x' e = false) :
    hexadecimalPattern.length? left ([d] ++ rest) = none := by
  have hminus : Rule.minus.ends ⟨left, d :: rest, 0⟩ = [⟨left, d :: rest, 0⟩] := by
    have hne : (d == '-') = false := beq_eq_false_iff_ne.2 (ne_of_isDecimalDigit hd (by decide))
    rw [Rule.minus, ends, Rule.char, ends]
    simp [hne]
  have hmark : ((Pattern.one (sameLetter '0')).seq (.one (sameLetter 'x'))).ends
      ⟨left, d :: rest, 0⟩ = [] := by
    rw [ends, ends]
    cases rest with
    | nil => cases hzero : sameLetter '0' d <;> simp [hzero, Place.step, ends]
    | cons e rest => cases hzero : sameLetter '0' d <;> simp [hzero, Place.step, ends, he e rfl]
  have hends : hexadecimalPattern.ends ⟨left, [d] ++ rest, 0⟩ = [] := by
    change (Rule.minus.ends _).flatMap _ = _
    rw [List.singleton_append, hminus, List.flatMap_singleton]
    change (((Pattern.one (sameLetter '0')).seq (.one (sameLetter 'x'))).ends _).flatMap _ = _
    rw [hmark, List.flatMap_nil]
  rw [length?_eq, hends]
  rfl

/-- Neither a fraction nor an exponent starts with such a character. -/
theorem tails_of_stop (h : ∀ c ∈ rest.head?, isWord c = false ∧ c ≠ '.') :
    exponentTail.length? left rest = none ∧ fractionTail.length? left rest = none := by
  have hexponent : exponentTail.starts = [(· == '.'), sameLetter 'E'] := rfl
  have hfraction : fractionTail.starts = [(· == '.')] := rfl
  have hnone : ∀ c ∈ rest.head?, (c == '.') = false ∧ sameLetter 'E' c = false := by
    intro c hc
    obtain ⟨hword, hpoint⟩ := h c hc
    refine ⟨beq_eq_false_iff_ne.2 hpoint, ?_⟩
    rw [← Bool.not_eq_true]
    intro hsame
    rw [(sameLetter_capital (by decide) hsame).1] at hword
    cases hword
  constructor
  · refine length?_of_not_mayStart rfl fun c hc => ?_
    rw [mayStart_eq, hexponent]
    simp [hnone c hc]
  · refine length?_of_not_mayStart rfl fun c hc => ?_
    rw [mayStart_eq, hfraction]
    simp [hnone c hc]

/-- No word of the vocabulary starts with a digit. -/
theorem wordKind_of_digit {word : String}
    (h : word.toByteArray.data.toList.head?.any (·.toNat ≤ 57) = true) : wordKind word = .name := by
  have hlisted (words : List String)
      (hwords : ∀ word ∈ words, word.toByteArray.data.toList.head?.all (57 < ·.toNat) = true) :
      ¬words.contains word = true := by
    intro hword
    have hall := hwords word (List.contains_iff_mem.1 hword)
    cases hhead : word.toByteArray.data.toList.head? with
    | none => simp [hhead] at h
    | some first =>
      simp only [hhead, Option.any_some, Option.all_some, decide_eq_true_eq] at h hall
      omega
  have hwith : ¬(word == "WITH") = true := by simpa using hlisted ["WITH"] (by decide)
  have hdiv : ¬(word == "DIV") = true := by simpa using hlisted ["DIV"] (by decide)
  rw [wordKind, if_neg hwith, if_neg (hlisted _ (by decide +kernel)),
    if_neg (hlisted _ (by decide +kernel)), if_neg (hlisted _ (by decide +kernel)), if_neg hdiv,
    if_neg (hlisted _ (by decide +kernel)), if_neg (hlisted _ (by decide +kernel))]

/-- A digit alone would be a name, if it were not a number. -/
theorem wordRule_reading_of_digit (hd : d ∈ "0123456789".toList)
    (hstop : ∀ c ∈ rest.head?, isWord c = false ∧ c ≠ '$' ∧ c ≠ '#') :
    wordRule.reading? left (d :: rest) = some (.name, 1) := by
  have hdigits : "0123456789".toList.Forall fun d =>
      (upper (String.ofList [d])).toByteArray.data.toList.head?.any (·.toNat ≤ 57) = true := by
    decide +kernel
  have hword : isWord d = true := isWord_of_isDecimalDigit (isDecimalDigit_of_mem hd)
  have hmade : wordRule.kind = fun word => wordKind (upper word) := rfl
  have htake : (d :: rest).take 1 = [d] := rfl
  rw [Rule.reading?, wordRule_length left hword hstop, Option.map_some, hmade, htake]
  exact congrArg (fun kind => some (kind, 1))
    (wordKind_of_digit (List.forall_iff_forall_mem.1 hdigits d hd))

/-- A single digit with a letter directly after it is a name. -/
theorem tokenAt_stuck (hd : d ∈ "0123456789".toList) (he : isNameStartOrLine e = true)
    (hstop : isWord e = false ∧ e ≠ '.' ∧ e ≠ '$' ∧ e ≠ '#') :
    tokenAt left ([d] ++ e :: rest) = (.name, 1) := by
  have hdigit : isDecimalDigit d = true := isDecimalDigit_of_mem hd
  have hnext : ∀ c ∈ (e :: rest).head?, isWord c = false ∧ c ≠ '.' ∧ c ≠ '$' ∧ c ≠ '#' :=
    fun c hc => Option.some.inj hc ▸ hstop
  have hrun : DigitRun [d] (e :: rest) := ⟨List.cons_ne_nil _ _, by simpa using hdigit,
    fun c hc => not_isDecimalDigit_of_not_isWord (hnext c hc).1⟩
  have hother : hexadecimalPattern.length? left ([d] ++ e :: rest) = none := by
    refine hexadecimal_of_second left hdigit fun c hc => ?_
    rw [← Bool.not_eq_true]
    intro hsame
    exact absurd (hnext c hc).1 (by simp [isWord_of_sameLetter_x hsame])
  obtain ⟨hexponent, hfraction⟩ := tails_of_stop (some '0') fun c hc =>
    ⟨(hnext c hc).1, (hnext c hc).2.1⟩
  -- No rule between those for numbers and the one for words starts with a digit.
  have hmiddle : ((rules.drop 22).take 21).findSome? (·.reading? left ([d] ++ e :: rest)) = none := by
    have hstart : "0123456789".toList.Forall fun d =>
        ∀ rule ∈ (rules.drop 22).take 21, rule.pattern.mayStart d = false := by decide +kernel
    exact findSome?_of_not_mayStart left
      (List.Subset.trans (List.take_subset _ _) (List.drop_subset _ _)) fun rule hrule c hc =>
        Option.some.inj hc ▸ List.forall_iff_forall_mem.1 hstart d hd rule hrule
  have hrules : rules.drop 22 = (rules.drop 22).take 21 ++ wordRule :: rules.drop 44 := rfl
  have hreading : wordRule.reading? left ([d] ++ e :: rest) = some (.name, 1) :=
    wordRule_reading_of_digit left hd fun c hc => ⟨(hnext c hc).1, (hnext c hc).2.2⟩
  have hname : (e :: rest).head?.any isNameStartOrLine = true := he
  rw [hrun.tokenAt_of_digits, hrun.firstRule?_of_digits left hother, hexponent, hfraction,
    hrun.integer_length, if_pos hname, if_pos List.length_singleton, hrules, List.findSome?_append, hmiddle,
    List.findSome?_cons, hreading]
  rfl

end

/-! ### Numbers -/

/-- The token is what is read first of some digits: all of them, a part, or a number that goes on
after them. -/
structure Token.IsFrom (ds : List Char) (token : Token) : Prop where
  kind : token.kind ∈ [TokenKind.integer, .decimal, .name]
  part : token.kind = .integer → token.text.toList ≠ [] ∧ token.text.toList <+: ds

theorem Token.isNeutral_of_kind {token : Token} (h : token.kind ∈ [TokenKind.integer, .decimal, .name]) :
    token.IsNeutral := by
  have hkinds : ∀ kind ∈ [TokenKind.integer, .decimal, .name],
      (kind == .punctuation) = false ∧ kind.isKeyword = false := by decide
  obtain ⟨hmark, hkeyword⟩ := hkinds _ h
  refine ⟨?_, ?_, fun hlimit => ?_⟩
  · rw [isMark, hmark, Bool.false_and]
  · rw [isMark, hmark, Bool.false_and]
  · rw [hlimit.1] at hkeyword
    cases hkeyword

theorem Token.isNeutral_of_point {kind : TokenKind} (hkind : kind ∈ [TokenKind.decimal, .punctuation])
    {cs : List Char} (hhead : cs.head? = some '.') : Token.IsNeutral ⟨kind, String.ofList cs⟩ := by
  have hne : ∀ mark : String, mark.toList.head? ≠ some '.' → (String.ofList cs == mark) = false := by
    intro mark hmark
    rw [beq_eq_false_iff_ne]
    rintro rfl
    rw [String.toList_ofList] at hmark
    exact hmark hhead
  have hkinds : ∀ kind ∈ [TokenKind.decimal, .punctuation], kind.isKeyword = false := by decide
  refine ⟨?_, ?_, fun hlimit => ?_⟩
  · rw [isMark, hne "(" (by decide), Bool.and_false]
  · rw [isMark, hne ")" (by decide), Bool.and_false]
  · have hkeyword := hlimit.1
    rw [hkinds kind hkind] at hkeyword
    cases hkeyword

/-- The first tokens start with one of the digits, and soon the others are the same. -/
def Rejoins (ds : List Char) (new old : List Token) : Prop :=
  ∃ first more other later, new = first :: (more ++ later) ∧ old = other ++ later ∧
    first.IsFrom ds ∧ ∀ token ∈ more ++ other, token.IsNeutral

section

variable {ds rest : List Char} {l : Char} (left : Option Char)

/-- After some digits the text goes on as after any word character. -/
theorem tokensFrom_after (hne : ds ≠ []) (hdigit : ∀ d ∈ ds, isDecimalDigit d = true)
    (hl : isWord l = true) (rest : List Char) :
    tokensFrom (ds.getLast?.or left) rest = tokensFrom (some l) rest := by
  obtain ⟨d, hd⟩ := Option.ne_none_iff_exists'.1 (mt List.getLast?_eq_none_iff.1 hne)
  rw [hd, Option.some_or]
  exact tokensFrom_alike (.inr ⟨d, l, rfl, rfl,
    isWord_of_isDecimalDigit (hdigit d (List.mem_of_getLast? hd)), hl⟩) rest

theorem getLast?_append_or {cs : List Char} (hne : cs ≠ []) (before : List Char)
    (left other : Option Char) : (before ++ cs).getLast?.or left = cs.getLast?.or other := by
  obtain ⟨c, hc⟩ := Option.ne_none_iff_exists'.1 (mt List.getLast?_eq_none_iff.1 hne)
  rw [List.getLast?_append, hc]
  rfl

/-- The digits are a whole number. -/
theorem rejoins_of_integer (hds : IsNumeral ds) (hl : isWord l = true)
    (h : tokenAt left (ds ++ rest) = (.integer, ds.length)) :
    Rejoins ds (tokensFrom left (ds ++ rest)) (tokensFrom (some l) rest) := by
  rw [tokensFrom_of_tokenAt hds.ne_nil h, tokensFrom_after left hds.ne_nil hds.isDecimalDigit hl]
  refine ⟨_, [], [], _, rfl, rfl, ⟨by simp, fun _ => ?_⟩, by simp⟩
  rw [String.toList_ofList]
  exact ⟨hds.ne_nil, List.prefix_refl ds⟩

/-- A letter stands directly after the digits, which leave the last one to it. -/
theorem rejoins_of_letter (hds : IsNumeral ds) (hl : isWord l = true) {e : Char}
    (he : isNameStartOrLine e = true)
    (hstop : isWord e = false ∧ e ≠ '.' ∧ e ≠ '$' ∧ e ≠ '#') :
    Rejoins ds (tokensFrom left (ds ++ e :: rest)) (tokensFrom (some l) (e :: rest)) := by
  obtain ⟨init, d, rfl⟩ := (List.eq_nil_or_concat' ds).resolve_left hds.ne_nil
  have hdigits := hds.isDecimalDigit
  have hd : d ∈ "0123456789".toList := hds.digit d (by simp)
  have hname : ∀ place, tokensFrom place ([d] ++ e :: rest) =
      ⟨.name, String.ofList [d]⟩ :: tokensFrom (some l) (e :: rest) := by
    intro place
    rw [tokensFrom_of_tokenAt (List.cons_ne_nil _ _) (tokenAt_stuck place hd he hstop),
      tokensFrom_after place (List.cons_ne_nil _ _) (by simpa using hdigits d (by simp)) hl]
  by_cases hinit : init = []
  · subst hinit
    exact ⟨_, [], [], _, hname left, rfl, ⟨by simp, nofun⟩, by simp⟩
  · have hnext : ∀ c ∈ (e :: rest).head?, isWord c = false ∧ c ≠ '.' :=
      fun c hc => Option.some.inj hc ▸ ⟨hstop.1, hstop.2.1⟩
    have hrun : DigitRun (init ++ [d]) (e :: rest) := hds.digitRun fun c hc => (hnext c hc).1
    obtain ⟨hexponent, hfraction⟩ := tails_of_stop (some '0') hnext
    have hlength : integerPattern.length? left (init ++ [d] ++ e :: rest) = some init.length := by
      have hname : (e :: rest).head?.any isNameStartOrLine = true := he
      have hpos := List.length_pos_iff.2 hinit
      rw [hrun.integer_length, if_pos hname, List.length_append, List.length_singleton,
        if_neg (by omega), Nat.add_sub_cancel]
    have htoken := hrun.tokenAt_integer left (hrun.hexadecimal_of_head left hds.head) hexponent
      hfraction hlength
    rw [List.append_assoc] at htoken ⊢
    rw [tokensFrom_of_tokenAt hinit htoken, hname]
    refine ⟨_, [_], [], _, rfl, rfl, ⟨by simp, fun _ => ?_⟩, ?_⟩
    · rw [String.toList_ofList]
      exact ⟨hinit, List.prefix_append _ _⟩
    · simpa using Token.isNeutral_of_kind (by simp)

/-- A fraction follows. -/
theorem rejoins_of_fraction (hds : IsNumeral ds)
    (hexponent : exponentTail.length? (some '0') ('.' :: rest) = none) {n : Nat}
    (hfraction : fractionTail.length? (some '0') ('.' :: rest) = some n) :
    Rejoins ds (tokensFrom left (ds ++ '.' :: rest)) (tokensFrom (some l) ('.' :: rest)) := by
  have hrun : DigitRun ds ('.' :: rest) := hds.digitRun_point rest
  obtain ⟨kind, hkind, hold⟩ := tokenAt_point (some l) hfraction
  have hnew := hrun.tokenAt_fraction left (hrun.hexadecimal_of_head left hds.head) hexponent hfraction
  obtain ⟨point, later, hsplit, hne, rfl⟩ := exists_of_length? rfl hfraction
  have hhead : point.head? = some '.' := by
    rw [← List.head?_append_of_ne_nil point hne, ← hsplit]
    rfl
  rw [hsplit] at hold hnew ⊢
  rw [← List.append_assoc] at hnew ⊢
  rw [tokensFrom_of_tokenAt (List.append_ne_nil_of_right_ne_nil _ hne)
      (by rw [hnew, List.length_append, Nat.add_comm]), tokensFrom_of_tokenAt hne hold]
  rw [getLast?_append_or hne ds left (some l)]
  refine ⟨_, [], [_], _, rfl, rfl, ⟨by simp, nofun⟩, ?_⟩
  simpa using Token.isNeutral_of_point hkind hhead

/-- An exponent starts with a letter, and that is none for a number in base sixteen. -/
theorem head_of_exponentPart {place : Option Char} {right : List Char} {n : Nat}
    (h : exponentPart.length? place right = some n) :
    ∃ c ∈ right.head?, isNameStartOrLine c = true ∧ sameLetter 'x' c = false := by
  obtain ⟨cs, more, rfl, hne, rfl⟩ := exists_of_length? rfl h
  obtain ⟨e, cs, rfl⟩ := List.exists_cons_of_ne_nil hne
  have hstart := (reads_of_length? h).mayStart
  rw [mayStart_eq, exponentPart_starts] at hstart
  exact ⟨e, rfl, isNameStartOrLine_of_sameLetter_e (by simpa using hstart)⟩

/-- Some digits with a fraction and an exponent after them are one number. -/
theorem tokensFrom_of_exponent (hds : IsNumeral ds) {zs power later : List Char}
    (hzs : DigitRun zs (power ++ later)) (hne : power ≠ [])
    (hexponent : exponentPart.length? (some '0') (power ++ later) = some power.length) :
    tokensFrom left (ds ++ '.' :: (zs ++ (power ++ later))) =
      ⟨.decimal, String.ofList (ds ++ '.' :: zs ++ power)⟩ ::
        tokensFrom (power.getLast?.or none) later := by
  have hrun := hds.digitRun_point (zs ++ (power ++ later))
  have htail : exponentTail.length? (some '0') ('.' :: (zs ++ (power ++ later))) =
      some (power.length + (zs.length + 1)) := by
    rw [exponentTail_point _ hzs, hexponent, Option.map_some]
  have htoken := hrun.tokenAt_exponent left (hrun.hexadecimal_of_head left hds.head) htail
  have hwhole : ds ++ '.' :: (zs ++ (power ++ later)) = (ds ++ '.' :: zs ++ power) ++ later := by simp
  have hsize : power.length + (zs.length + 1) + ds.length = (ds ++ '.' :: zs ++ power).length := by
    simp only [List.length_append, List.length_cons]
    omega
  rw [hwhole, hsize] at htoken
  rw [hwhole, tokensFrom_of_tokenAt (List.append_ne_nil_of_right_ne_nil _ hne) htoken,
    getLast?_append_or hne _ left none]

/-- Without digits before the point, the fraction leaves its last digit to the exponent. -/
theorem tokensFrom_point_of_exponent {init power later : List Char} {z : Char}
    (hzs : DigitRun (init ++ [z]) (power ++ later)) (hne : power ≠ [])
    (hexponent : exponentPart.length? (some '0') (power ++ later) = some power.length) :
    ∃ kind ∈ [TokenKind.decimal, TokenKind.punctuation],
      tokensFrom left ('.' :: (init ++ [z] ++ (power ++ later))) =
        ⟨kind, String.ofList ('.' :: init)⟩ :: ⟨.decimal, String.ofList ([z] ++ power)⟩ ::
          tokensFrom (power.getLast?.or none) later := by
  obtain ⟨c, hc, hname, hletter⟩ := head_of_exponentPart hexponent
  have hsame : ∀ d ∈ (power ++ later).head?, d = c := fun d hd => Option.mem_unique hd hc
  have hfraction := fractionTail_point (some '0') hzs.digit hzs.stops
  rw [Option.mem_def.1 hc, Option.any_some, if_pos hname, if_neg (by simp), List.length_append,
    List.length_singleton] at hfraction
  obtain ⟨kind, hkind, hpoint⟩ := tokenAt_point left hfraction
  have hz : isDecimalDigit z = true := hzs.digit z (by simp)
  have hlast : DigitRun [z] (power ++ later) := ⟨List.cons_ne_nil _ _, by simpa using hz, hzs.stops⟩
  have hagain : exponentTail.length? (some '0') (power ++ later) = some power.length := by
    rw [exponentTail_of_not_point, hexponent]
    rintro d hd rfl
    rw [← hsame '.' hd] at hname
    exact absurd hname (by decide +kernel)
  have hpower := hlast.tokenAt_exponent (('.' :: init).getLast?.or left)
    (hexadecimal_of_second _ hz fun d hd => hsame d hd ▸ hletter) hagain
  have hparts : '.' :: (init ++ [z] ++ (power ++ later)) =
      ('.' :: init) ++ (([z] ++ power) ++ later) := by simp
  rw [← List.append_assoc [z], Nat.add_comm, ← List.length_append] at hpower
  rw [hparts] at hpoint
  refine ⟨kind, hkind, ?_⟩
  rw [hparts, tokensFrom_of_tokenAt (List.cons_ne_nil _ _) hpoint,
    tokensFrom_of_tokenAt (List.append_ne_nil_of_right_ne_nil _ hne) hpower,
    getLast?_append_or hne [z] _ none]

/-- A fraction with an exponent follows. -/
theorem rejoins_of_exponent (hds : IsNumeral ds) {zs after : List Char}
    (hzs : DigitRun zs after) {n : Nat} (hexponent : exponentPart.length? (some '0') after = some n) :
    Rejoins ds (tokensFrom left (ds ++ '.' :: (zs ++ after)))
      (tokensFrom (some l) ('.' :: (zs ++ after))) := by
  obtain ⟨power, later, rfl, hne, rfl⟩ := exists_of_length? rfl hexponent
  rw [tokensFrom_of_exponent left hds hzs hne hexponent]
  obtain ⟨init, z, rfl⟩ := (List.eq_nil_or_concat' zs).resolve_left hzs.ne_nil
  obtain ⟨kind, hkind, hold⟩ := tokensFrom_point_of_exponent (some l) hzs hne hexponent
  rw [hold]
  refine ⟨_, [], [_, _], _, rfl, rfl, ⟨by simp, nofun⟩, ?_⟩
  simp only [List.nil_append, List.forall_mem_cons]
  exact ⟨Token.isNeutral_of_point hkind rfl, Token.isNeutral_of_kind (by simp), by simp⟩

/-- Where a number takes the place of a word, the tokens soon are the same again. -/
theorem rejoins (hds : IsNumeral ds) (hl : isWord l = true)
    (hstop : ∀ c ∈ rest.head?, isWord c = false ∧ c ≠ '$' ∧ c ≠ '#') :
    Rejoins ds (tokensFrom left (ds ++ rest)) (tokensFrom (some l) rest) := by
  have hinteger : ∀ {after : List Char}, (∀ c ∈ after.head?, isWord c = false) →
      after.head?.any isNameStartOrLine = false → exponentTail.length? (some '0') after = none →
      fractionTail.length? (some '0') after = none →
      Rejoins ds (tokensFrom left (ds ++ after)) (tokensFrom (some l) after) := by
    intro after hend hname hexponent hfraction
    have hrun := hds.digitRun hend
    refine rejoins_of_integer left hds hl (hrun.tokenAt_integer left
      (hrun.hexadecimal_of_head left hds.head) hexponent hfraction ?_)
    rw [hrun.integer_length, hname, if_neg (by simp)]
  have hend : ∀ c ∈ rest.head?, isWord c = false := fun c hc => (hstop c hc).1
  by_cases hpoint : rest.head? = some '.'
  · obtain ⟨cs, rfl⟩ := List.head?_eq_some_iff.1 hpoint
    obtain ⟨zs, after, rfl, hdigit, hafter⟩ := exists_digits cs
    cases hexponent : exponentTail.length? (some '0') ('.' :: (zs ++ after)) with
    | some n =>
      by_cases hzs : zs = []
      · rw [hzs, List.nil_append, exponentTail_of_stop _ hafter] at hexponent
        cases hexponent
      · have hrun : DigitRun zs after := ⟨hzs, hdigit, hafter⟩
        rw [exponentTail_point _ hrun, Option.map_eq_some_iff] at hexponent
        obtain ⟨k, hk, -⟩ := hexponent
        exact rejoins_of_exponent left hds hrun hk
    | none =>
      cases hfraction : fractionTail.length? (some '0') ('.' :: (zs ++ after)) with
      | some n => exact rejoins_of_fraction left hds hexponent hfraction
      | none =>
        have hname : isNameStartOrLine '.' = false := by decide +kernel
        exact hinteger hend hname hexponent hfraction
  · have hnot : ∀ c ∈ rest.head?, isWord c = false ∧ c ≠ '.' := by
      refine fun c hc => ⟨(hstop c hc).1, ?_⟩
      rintro rfl
      exact hpoint hc
    obtain ⟨hexponent, hfraction⟩ := tails_of_stop (some '0') hnot
    cases hname : rest.head?.any isNameStartOrLine with
    | false => exact hinteger hend hname hexponent hfraction
    | true =>
      obtain ⟨e, he, hletter⟩ := (Option.any_eq_true _ _).1 hname
      obtain ⟨cs, rfl⟩ := List.head?_eq_some_iff.1 he
      exact rejoins_of_letter left hds hl hletter
        ⟨(hstop e rfl).1, (hnot e rfl).2, (hstop e rfl).2⟩

end

end SemanticLayer.Sql
