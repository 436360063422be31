import SemanticLayer.Proofs.Sql.BeforeCount

/-!
Numbers. After a run of digits, whether a number goes on with a fraction or with an exponent depends
on what follows the run alone; a whole number takes the whole run, or all of it but the last digit
where a letter follows.
-/

namespace SemanticLayer.Sql

open Text Pattern

/-! ### Digits -/

section

variable {z : Char}

theorem ne_of_isDecimalDigit (hz : isDecimalDigit z = true) {mark : Char}
    (hmark : isDecimalDigit mark = false) : z ≠ mark := by
  rintro rfl
  rw [hz] at hmark
  cases hmark

/-- A digit has no other case. -/
theorem sameLetter_digit (hz : isDecimalDigit z = true) (letter : Char) :
    sameLetter letter z = (z == letter.toLower) := by
  have hplace := toNat_of_isDecimalDigit hz
  have hlower : z.toLower = z := by
    unfold Char.toLower
    rw [dif_neg]
    rintro ⟨hfirst, hlast⟩
    have hcode : 65 ≤ z.toNat ∧ z.toNat ≤ 90 := ⟨hfirst, hlast⟩
    omega
  have hne : ∀ code ∈ [304, 305, 383, 8490], (z.toNat == code) = false := by
    intro code hcode
    rw [beq_eq_false_iff_ne]
    simp only [List.mem_cons, List.not_mem_nil, or_false] at hcode
    omega
  rw [sameLetter, hlower]
  simp [hne]

theorem isNameStartOrLine_digit (hz : isDecimalDigit z = true) : isNameStartOrLine z = false := by
  have hplace := toNat_of_isDecimalDigit hz
  have hline : (z == '_') = false := beq_eq_false_iff_ne.2 (ne_of_isDecimalDigit hz (by decide))
  rw [isNameStartOrLine, hline, Bool.false_or, isNameStart]
  simp only [Bool.or_eq_false_iff, Bool.and_eq_false_iff, decide_eq_false_iff_not, beq_eq_false_iff_ne]
  omega

end

/-! ### Rules that no digit starts -/

namespace Pattern

/-- The classes of the characters that the texts of a pattern may start with. -/
def starts : Pattern → List (Char → Bool)
  | .one accepts | .run accepts => [accepts]
  | .quoted _ _ => [fun _ => true]
  | .seq first second => first.starts ++ if first.isProductive then [] else second.starts
  | .either first second => first.starts ++ second.starts
  | .optional body => body.starts
  | _ => []

theorem mayStart_eq (pattern : Pattern) (c : Char) :
    pattern.mayStart c = pattern.starts.any (· c) := by
  induction pattern with
  | one | run | quoted => simp [mayStart, starts]
  | seq first second ihfirst ihsecond =>
    rw [mayStart, starts, List.any_append, ihfirst, ihsecond]
    cases first.isProductive <;> simp
  | either first second ihfirst ihsecond =>
    rw [mayStart, starts, List.any_append, ihfirst, ihsecond]
  | optional body ih => exact ih
  | _ => rfl

theorem ends_of_not_mayStart {pattern : Pattern} (hproductive : pattern.isProductive = true)
    {place : Place} (h : ∀ c ∈ place.right.head?, pattern.mayStart c = false) :
    pattern.ends place = [] := by
  rw [List.eq_nil_iff_forall_not_mem]
  intro last hlast
  obtain ⟨read, ⟨hright, -⟩, hreads⟩ := reaches_of_mem_ends hlast
  obtain ⟨c, more, rfl⟩ := List.exists_cons_of_ne_nil (hreads.ne_nil hproductive)
  have hc := h c (by rw [hright]; rfl)
  rw [hreads.mayStart] at hc
  cases hc

theorem length?_of_not_mayStart {pattern : Pattern} (hproductive : pattern.isProductive = true)
    {left : Option Char} {right : List Char} (h : ∀ c ∈ right.head?, pattern.mayStart c = false) :
    pattern.length? left right = none := by
  rw [length?_eq, ends_of_not_mayStart hproductive h]
  rfl

end Pattern

/-- Rules that read no text with such a first character make no token. -/
theorem findSome?_of_not_mayStart (left : Option Char) {right : List Char} {tried : List Rule}
    (htried : tried ⊆ rules)
    (h : ∀ rule ∈ tried, ∀ c ∈ right.head?, rule.pattern.mayStart c = false) :
    tried.findSome? (·.reading? left right) = none := by
  rw [List.findSome?_eq_none_iff]
  intro rule hrule
  rw [Rule.reading?, length?_of_not_mayStart (rules_isProductive rule (htried hrule)) (h rule hrule),
    Option.map_none]

/-- What the texts of the rules before those for numbers may start with. -/
theorem rules_starts : (rules.take 18).flatMap (·.pattern.starts) =
    [sameLetter '-', sameLetter '#', sameLetter '-', sameLetter '#', (· == '\r'), (· == '\r'),
      (· == '\n'), isBlank, sameLetter ':', sameLetter ':', (· == '*'), (· == '\x60'), (· == '´'),
      (· == '?'), (· == '%'), ['$', ':', '?'].contains, (· == '\\'), sameLetter 'C', sameLetter 'I',
      sameLetter 'V', sameLetter 'U', sameLetter 'F', sameLetter 'A', sameLetter '@',
      sameLetter '#', sameLetter '#', isNameStart, isNameStart, isNameStart] := rfl

theorem rules_mayStart {z : Char} (hz : isDecimalDigit z = true) :
    ∀ rule ∈ rules.take 18, rule.pattern.mayStart z = false := by
  have hstart : isNameStart z = false := (Bool.or_eq_false_iff.1 (isNameStartOrLine_digit hz)).2
  have hne : ∀ {mark : Char}, isDecimalDigit mark = false → z ≠ mark := ne_of_isDecimalDigit hz
  have hall : ∀ accepts ∈ (rules.take 18).flatMap (·.pattern.starts), accepts z = false := by
    rw [rules_starts]
    simp (disch := decide) [sameLetter_digit hz, not_isBlank_of_isDecimalDigit hz, hstart, hne]
  intro rule hrule
  rw [mayStart_eq, List.any_eq_false]
  intro accepts haccepts
  rw [hall accepts (List.mem_flatMap.2 ⟨rule, hrule, haccepts⟩)]
  simp

/-! ### Rules for numbers -/

open Rule in
def hexadecimalPattern : Pattern :=
  all [minus, text "0x", oneOrMore isHexDigit]

open Rule in
/-- The power of ten that the number is multiplied by. -/
def exponentPart : Pattern :=
  all [text "E", minus, digits]

open Rule in
/-- What follows the first digits of a number with an exponent. -/
def exponentTail : Pattern :=
  .seq (.optional (.seq (char '.') digits)) exponentPart

open Rule in
/-- What follows the first digits of a number with a fraction. -/
def fractionTail : Pattern :=
  .seq (.seq (char '.') (.run isDecimalDigit)) notNameStart

open Rule in
def exponentPattern : Pattern :=
  .seq minus (.seq digits exponentTail)

open Rule in
def fractionPattern : Pattern :=
  all [notNameStart, minus,
    .either (all [digits, char '.', .run isDecimalDigit]) (.seq (char '.') digits), notNameStart]

open Rule in
def integerPattern : Pattern :=
  all [notNameStart, minus, digits, notNameStart]

open Rule in
theorem rules_numbers : rules = rules.take 18 ++
    ([always .hexadecimal hexadecimalPattern, always .decimal exponentPattern,
      always .decimal fractionPattern, always .integer integerPattern] ++ rules.drop 22) := rfl

/-- A text starts with as many digits as there are. -/
theorem exists_digits (cs : List Char) : ∃ ds rest, cs = ds ++ rest ∧
    (∀ d ∈ ds, isDecimalDigit d = true) ∧ ∀ d ∈ rest.head?, isDecimalDigit d = false := by
  refine ⟨_, _, List.takeWhile_append_dropWhile.symm, fun d hd => List.mem_takeWhile_imp hd,
    fun d hd => ?_⟩
  have hhead := List.head?_dropWhile_not isDecimalDigit cs
  rw [hd] at hhead
  simpa using hhead

/-- A run of digits with something else after it. -/
structure DigitRun (ds rest : List Char) : Prop where
  ne_nil : ds ≠ []
  digit : ∀ d ∈ ds, isDecimalDigit d = true
  stops : ∀ d ∈ rest.head?, isDecimalDigit d = false

namespace DigitRun

variable {ds rest : List Char} (left : Option Char) (taken : Nat)

theorem head (h : DigitRun ds rest) : (ds ++ rest).head?.any isDecimalDigit = true := by
  obtain ⟨d, more, rfl⟩ := List.exists_cons_of_ne_nil h.ne_nil
  exact h.digit d List.mem_cons_self

theorem forall_head (h : DigitRun ds rest) {P : Char → Prop}
    (hdigit : ∀ d, isDecimalDigit d = true → P d) : ∀ d ∈ (ds ++ rest).head?, P d := by
  intro d hd
  have hhead := h.head
  rw [hd] at hhead
  exact hdigit d hhead

theorem afterRun_eq (h : DigitRun ds rest) :
    (⟨left, ds ++ rest, taken⟩ : Place).afterRun isDecimalDigit =
      ⟨ds.getLast?.or left, rest, taken + ds.length⟩ := by
  have hstops : rest.takeWhile isDecimalDigit = [] ∧ rest.dropWhile isDecimalDigit = rest := by
    cases rest with
    | nil => exact ⟨rfl, rfl⟩
    | cons d rest =>
      have hd : ¬isDecimalDigit d = true := by simp [h.stops d rfl]
      exact ⟨List.takeWhile_cons_of_neg hd, List.dropWhile_cons_of_neg hd⟩
  rw [Place.afterRun_eq, List.takeWhile_append_of_pos h.digit, List.dropWhile_append_of_pos h.digit,
    hstops.1, hstops.2, List.append_nil]

theorem minus_ends (h : DigitRun ds rest) :
    Rule.minus.ends ⟨left, ds ++ rest, taken⟩ = [⟨left, ds ++ rest, taken⟩] := by
  have hnone : (Rule.char '-').ends ⟨left, ds ++ rest, taken⟩ = [] :=
    ends_of_not_mayStart rfl (h.forall_head fun d hd =>
      beq_eq_false_iff_ne.2 (ne_of_isDecimalDigit hd (by decide)))
  rw [Rule.minus, ends, hnone, List.nil_append]

theorem notNameStart_ends (right : List Char) :
    Rule.notNameStart.ends ⟨left, right, taken⟩ =
      if right.head?.any isNameStartOrLine then [] else [⟨left, right, taken⟩] := by
  cases right with
  | nil => rfl
  | cons d right =>
    rw [Rule.notNameStart, ends, ends]
    by_cases hd : isNameStartOrLine d = true <;> simp [hd]

theorem notNameStart_ends_of_digit (h : DigitRun ds rest) :
    Rule.notNameStart.ends ⟨left, ds ++ rest, taken⟩ = [⟨left, ds ++ rest, taken⟩] := by
  obtain ⟨d, more, rfl⟩ := List.exists_cons_of_ne_nil h.ne_nil
  rw [notNameStart_ends, if_neg]
  simp [isNameStartOrLine_digit (h.digit d List.mem_cons_self)]

/-- After the digits stands a word character like any other. -/
theorem sameSide (h : DigitRun ds rest) : SameSide (some '0') (ds.getLast?.or left) := by
  obtain ⟨init, d, rfl⟩ := (List.eq_nil_or_concat' ds).resolve_left h.ne_nil
  refine .inr ⟨'0', d, rfl, by simp, by decide, ?_⟩
  exact isWord_of_isDecimalDigit (h.digit d (by simp))

/-- What is read after the digits is read as after any other word character. -/
theorem length?_after (h : DigitRun ds rest) {tail : Pattern} (hcoarse : tail.behinds = []) :
    (tail.ends ⟨ds.getLast?.or left, rest, taken⟩).head?.map (·.taken) =
      (tail.length? (some '0') rest).map (· + taken) := by
  have hpattern : tail.IsCoarse := fun accepts hmem => by
    rw [hcoarse] at hmem
    cases hmem
  have hplace : (⟨some '0', rest, 0⟩ : Place).Alike taken ⟨ds.getLast?.or left, rest, taken⟩ :=
    ⟨h.sameSide left, rfl, (Nat.zero_add _).symm⟩
  have halike := ends_alike hpattern hplace
  rw [length?_eq]
  generalize tail.ends ⟨some '0', rest, 0⟩ = ones at halike
  generalize tail.ends _ = twos at halike ⊢
  cases halike with
  | nil => rfl
  | cons hhead _ => exact congrArg some hhead.taken

theorem exponent_length (h : DigitRun ds rest) : exponentPattern.length? left (ds ++ rest) =
    (exponentTail.length? (some '0') rest).map (· + ds.length) := by
  have hstarts : exponentTail.starts = [(· == '.'), sameLetter 'E'] := rfl
  have hinside : ∀ place : Place, place.right.head?.any isDecimalDigit = true →
      exponentTail.ends place = [] := by
    intro place hplace
    refine ends_of_not_mayStart rfl fun d hd => ?_
    rw [hd] at hplace
    rw [mayStart_eq, hstarts]
    simp (disch := decide) [sameLetter_digit hplace, ne_of_isDecimalDigit hplace]
  rw [length?_eq, exponentPattern, ends, h.minus_ends, List.flatMap_singleton]
  rw [Rule.digits, ends_oneOrMore_seq hinside, if_pos h.head, h.afterRun_eq, Nat.zero_add]
  exact h.length?_after left _ rfl

open Rule in
theorem fraction_length (h : DigitRun ds rest) : fractionPattern.length? left (ds ++ rest) =
    (fractionTail.length? (some '0') rest).map (· + ds.length) := by
  have hdot : ∀ place : Place, place.right.head?.any isDecimalDigit = true →
      ∀ d ∈ place.right.head?, (char '.').mayStart d = false := by
    intro place hplace d hd
    rw [hd] at hplace
    exact beq_eq_false_iff_ne.2 (ne_of_isDecimalDigit hplace (by decide))
  have hpoint : ∀ (second : Pattern) {place : Place}, place.right.head?.any isDecimalDigit = true →
      (Pattern.seq (char '.') second).ends place = [] := fun second _ hplace => by
    rw [ends, ends_of_not_mayStart rfl (hdot _ hplace), List.flatMap_nil]
  have hinside : ∀ place : Place, place.right.head?.any isDecimalDigit = true →
      (Pattern.seq (char '.') (.run isDecimalDigit)).ends place = [] := fun _ => hpoint _
  have hother : (Pattern.seq (char '.') digits).ends ⟨left, ds ++ rest, 0⟩ = [] := hpoint _ h.head
  have hends : fractionPattern.ends ⟨left, ds ++ rest, 0⟩ =
      fractionTail.ends ⟨ds.getLast?.or left, rest, ds.length⟩ := by
    change (notNameStart.ends _).flatMap _ = _
    rw [h.notNameStart_ends_of_digit, List.flatMap_singleton]
    change (minus.ends _).flatMap _ = _
    rw [h.minus_ends, List.flatMap_singleton]
    change ((digits.seq (Pattern.seq (char '.') (.run isDecimalDigit))).ends _ ++
      (Pattern.seq (char '.') digits).ends _).flatMap _ = _
    rw [hother, List.append_nil, digits, ends_oneOrMore_seq hinside, if_pos h.head, h.afterRun_eq,
      Nat.zero_add]
    rfl
  rw [length?_eq, hends]
  exact h.length?_after left _ rfl

/-- The last places of a run, with the last character given back and without. -/
theorem runs_concat {accepts : Char → Bool} {init : List Char} {e : Char} {rest : List Char}
    (hinit : ∀ d ∈ init, accepts d = true) (he : accepts e = true)
    (hrest : ∀ d ∈ rest.head?, accepts d = false) (left : Option Char) (taken : Nat) :
    ∃ more, (⟨left, init ++ e :: rest, taken⟩ : Place).runs accepts =
      ⟨some e, rest, taken + init.length + 1⟩ ::
        ⟨init.getLast?.or left, e :: rest, taken + init.length⟩ :: more := by
  have hgo : ∀ init : List Char, (∀ d ∈ init, accepts d = true) → ∀ left taken found,
      ∃ more, Place.runs.go accepts (init ++ e :: rest) ⟨left, init ++ e :: rest, taken⟩
        (⟨left, init ++ e :: rest, taken⟩ :: found) =
      ⟨some e, rest, taken + init.length + 1⟩ ::
        ⟨init.getLast?.or left, e :: rest, taken + init.length⟩ :: more := by
    intro init
    induction init with
    | nil =>
      intro _ left taken found
      refine ⟨found, ?_⟩
      have hstops : ∀ place found, Place.runs.go accepts rest place found = found := by
        intro place found
        cases rest with
        | nil => rfl
        | cons d rest => rw [Place.runs.go, if_neg (by simp [hrest d rfl])]
      rw [List.nil_append, Place.runs.go, if_pos he, hstops]
      rfl
    | cons d init ih =>
      intro hinit left taken found
      obtain ⟨hd, hinit⟩ := List.forall_mem_cons.1 hinit
      obtain ⟨more, hmore⟩ := ih hinit (some d) (taken + 1) (⟨left, d :: (init ++ e :: rest), taken⟩ :: found)
      refine ⟨more, ?_⟩
      rw [List.cons_append, Place.runs.go, if_pos hd]
      refine hmore.trans ?_
      rw [List.getLast?_cons, List.length_cons, Nat.add_right_comm taken 1, Nat.add_assoc taken _ 1]
      cases init.getLast? <;> rfl
  exact hgo init hinit left taken []

/-- The end of a run of digits that no letter may follow: all of them, or all but the last one where
a letter follows the run. -/
theorem runs_notNameStart {zs rest : List Char} (hdigit : ∀ d ∈ zs, isDecimalDigit d = true)
    (hstop : ∀ d ∈ rest.head?, isDecimalDigit d = false) (left : Option Char) (taken : Nat) :
    (((⟨left, zs ++ rest, taken⟩ : Place).runs isDecimalDigit).flatMap
        Rule.notNameStart.ends).head?.map (·.taken) =
      if rest.head?.any isNameStartOrLine then if zs = [] then none else some (taken + zs.length - 1)
      else some (taken + zs.length) := by
  rcases List.eq_nil_or_concat' zs with rfl | ⟨init, e, rfl⟩
  · have hruns : (⟨left, [] ++ rest, taken⟩ : Place).runs isDecimalDigit = [⟨left, rest, taken⟩] := by
      cases rest with
      | nil => rfl
      | cons c rest => exact if_neg (by simp [hstop c rfl])
    rw [hruns, List.flatMap_singleton, notNameStart_ends]
    cases rest.head?.any isNameStartOrLine <;> rfl
  · have he : isDecimalDigit e = true := hdigit e (by simp)
    obtain ⟨places, hruns⟩ := runs_concat (fun d hd => hdigit d (List.mem_append_left _ hd)) he hstop
      left taken
    rw [List.append_assoc, List.singleton_append, hruns, List.flatMap_cons, List.flatMap_cons,
      notNameStart_ends, notNameStart_ends, List.length_append, List.length_singleton]
    cases rest.head?.any isNameStartOrLine with
    | false => rfl
    | true => simp [isNameStartOrLine_digit he]

/-- Digits that no letter may follow. -/
theorem plain_ends (h : DigitRun ds rest) :
    ((Rule.digits.seq Rule.notNameStart).ends ⟨left, ds ++ rest, taken⟩).head?.map (·.taken) =
      if rest.head?.any isNameStartOrLine then
        if ds.length = 1 then none else some (taken + ds.length - 1)
      else some (taken + ds.length) := by
  obtain ⟨d, more, rfl⟩ := List.exists_cons_of_ne_nil h.ne_nil
  obtain ⟨hd, hmore⟩ := List.forall_mem_cons.1 h.digit
  have hdigits : Rule.digits.ends ⟨left, d :: more ++ rest, taken⟩ =
      (⟨some d, more ++ rest, taken + 1⟩ : Place).runs isDecimalDigit := by
    change (if isDecimalDigit d then _ else _ : List Place).flatMap _ = _
    rw [if_pos hd, List.flatMap_singleton]
    rfl
  have hone : (d :: more).length = 1 ↔ more = [] := by simp
  have hsize : taken + (d :: more).length = taken + 1 + more.length := by
    rw [List.length_cons]
    omega
  rw [ends, hdigits, runs_notNameStart hmore h.stops, hsize]
  simp only [hone]

/-- A whole number. -/
theorem integer_length (h : DigitRun ds rest) : integerPattern.length? left (ds ++ rest) =
    if rest.head?.any isNameStartOrLine then
      if ds.length = 1 then none else some (ds.length - 1)
    else some ds.length := by
  have hends : integerPattern.ends ⟨left, ds ++ rest, 0⟩ =
      (Rule.digits.seq Rule.notNameStart).ends ⟨left, ds ++ rest, 0⟩ := by
    change (Rule.notNameStart.ends _).flatMap _ = _
    rw [h.notNameStart_ends_of_digit, List.flatMap_singleton]
    change (Rule.minus.ends _).flatMap _ = _
    rw [h.minus_ends, List.flatMap_singleton]
    rfl
  have hplain := h.plain_ends left 0
  rw [length?_eq, hends, hplain, Nat.zero_add]

/-! ### Tokens of numbers -/

theorem hexadecimal_starts : hexadecimalPattern.starts = [(· == '-'), sameLetter '0'] := rfl

/-- No number that is written with other digits starts like this one. -/
theorem hexadecimal_of_head (h : DigitRun ds rest) (hzero : ∀ d ∈ ds.head?, d ≠ '0') :
    hexadecimalPattern.length? left (ds ++ rest) = none := by
  refine length?_of_not_mayStart rfl fun d hd => ?_
  obtain ⟨e, more, rfl⟩ := List.exists_cons_of_ne_nil h.ne_nil
  obtain rfl : e = d := Option.some.inj hd
  have hdigit := h.digit e List.mem_cons_self
  have hne : e ≠ '0' := hzero e rfl
  rw [mayStart_eq, hexadecimal_starts]
  simp (disch := decide) [sameLetter_digit hdigit, ne_of_isDecimalDigit hdigit, hne]

theorem quotation?_of_digits (h : DigitRun ds rest) : quotation? left (ds ++ rest) = none := by
  obtain ⟨d, more, rfl⟩ := List.exists_cons_of_ne_nil h.ne_nil
  have hdigit := h.digit d List.mem_cons_self
  have hslash : ('/' == d) = false :=
    beq_eq_false_iff_ne.2 (ne_of_isDecimalDigit hdigit (by decide)).symm
  have hdollar : d ≠ '$' := ne_of_isDecimalDigit hdigit (by decide)
  have hmark : dollarMark? (d :: more ++ rest) = none := by simp [dollarMark?, hdollar]
  rw [quotation?_eq, hmark]
  simp [List.isPrefixOf, hslash]

/-- What the rules make of a text that starts with digits, if it is no number that is written with
other digits. -/
theorem firstRule?_of_digits (h : DigitRun ds rest)
    (hother : hexadecimalPattern.length? left (ds ++ rest) = none) :
    firstRule? left (ds ++ rest) =
      ((((exponentTail.length? (some '0') rest).map fun n => (TokenKind.decimal, n + ds.length)).or
        ((fractionTail.length? (some '0') rest).map fun n => (TokenKind.decimal, n + ds.length))).or
        ((integerPattern.length? left (ds ++ rest)).map fun n => (TokenKind.integer, n))).or
        ((rules.drop 22).findSome? (·.reading? left (ds ++ rest))) := by
  have hearly : (rules.take 18).findSome? (·.reading? left (ds ++ rest)) = none :=
    findSome?_of_not_mayStart left (List.take_subset _ _) fun rule hrule =>
      h.forall_head fun d hd => rules_mayStart hd rule hrule
  rw [firstRule?_eq, rules_numbers, List.findSome?_append, hearly, Option.none_or,
    List.findSome?_append]
  congr 1
  simp only [List.findSome?_cons, List.findSome?_nil, Rule.reading?, Rule.always, hother,
    h.exponent_length left, h.fraction_length left, Option.map_none, Option.map_map]
  cases exponentTail.length? (some '0') rest with
  | some n => rfl
  | none =>
    cases fractionTail.length? (some '0') rest with
    | some n => rfl
    | none => cases integerPattern.length? left (ds ++ rest) <;> rfl

theorem tokenAt_of_digits (h : DigitRun ds rest) : tokenAt left (ds ++ rest) =
    (firstRule? left (ds ++ rest)).getD (.unknown, 1) := by
  rw [tokenAt, h.quotation?_of_digits, Option.none_or]

theorem tokenAt_exponent (h : DigitRun ds rest)
    (hother : hexadecimalPattern.length? left (ds ++ rest) = none) {n : Nat}
    (hexponent : exponentTail.length? (some '0') rest = some n) :
    tokenAt left (ds ++ rest) = (.decimal, n + ds.length) := by
  rw [h.tokenAt_of_digits, h.firstRule?_of_digits left hother, hexponent]
  rfl

theorem tokenAt_fraction (h : DigitRun ds rest)
    (hother : hexadecimalPattern.length? left (ds ++ rest) = none) {n : Nat}
    (hexponent : exponentTail.length? (some '0') rest = none)
    (hfraction : fractionTail.length? (some '0') rest = some n) :
    tokenAt left (ds ++ rest) = (.decimal, n + ds.length) := by
  rw [h.tokenAt_of_digits, h.firstRule?_of_digits left hother, hexponent, hfraction]
  rfl

theorem tokenAt_integer (h : DigitRun ds rest)
    (hother : hexadecimalPattern.length? left (ds ++ rest) = none)
    (hexponent : exponentTail.length? (some '0') rest = none)
    (hfraction : fractionTail.length? (some '0') rest = none) {n : Nat}
    (hinteger : integerPattern.length? left (ds ++ rest) = some n) :
    tokenAt left (ds ++ rest) = (.integer, n) := by
  rw [h.tokenAt_of_digits, h.firstRule?_of_digits left hother, hexponent, hfraction, hinteger]
  rfl

end DigitRun

/-! ### Whole numbers -/

/-- One rule makes whole numbers. -/
theorem rules_integer : ∀ rule ∈ rules.take 18 ++ rules.drop 22,
    ∀ text, rule.kind text ≠ .integer := by
  have hword (word : String) : wordKind word ≠ .integer := by
    unfold wordKind
    split_ifs <;> exact TokenKind.noConfusion
  have hothers : rules.take 18 ++ rules.drop 22 =
      markRules ++ (valueRules.take 5 ++ (valueRules.drop 9 ++ wordRules)) := rfl
  rw [hothers]
  simp +decide [markRules, valueRules, wordRules, Rule.always, hword]

section

variable {left : Option Char} {rest : List Char} {token : Token}

/-- A whole number is neither a number with an exponent nor one with a fraction. -/
theorem Token.IsReadAt.integer (h : token.IsReadAt left rest) (hkind : token.kind = .integer) :
    exponentPattern.length? left (token.text.toList ++ rest) = none ∧
      fractionPattern.length? left (token.text.toList ++ rest) = none ∧
        integerPattern.length? left (token.text.toList ++ rest) =
          some token.text.toList.length := by
  have hnot : ∀ {rule : Rule}, rule ∈ rules.take 18 ++ rules.drop 22 → ∀ {n : Nat},
      rule.reading? left (token.text.toList ++ rest) ≠ some (.integer, n) := by
    intro rule hrule n hread
    obtain ⟨m, -, hmade⟩ := Option.map_eq_some_iff.1 hread
    exact rules_integer rule hrule _ (Prod.mk.inj hmade).1
  rcases h.source with ⟨n, hquotation, -⟩ | hrule | hunknown
  · have hnone : TokenKind.integer ∉ [TokenKind.blockHint, .blockComment, .literal] := by decide
    exact absurd (hkind ▸ quotation?_kind hquotation) hnone
  · rw [hkind, firstRule?_eq, rules_numbers, List.findSome?_append, List.findSome?_append,
      Option.or_eq_some_iff, Option.or_eq_some_iff] at hrule
    rcases hrule with hearly | ⟨-, hnumber | ⟨-, hlater⟩⟩
    · obtain ⟨rule, hmem, hread⟩ := List.exists_of_findSome?_eq_some hearly
      exact absurd hread (hnot (List.mem_append_left _ hmem))
    · simp only [List.findSome?_cons, List.findSome?_nil, Rule.reading?, Rule.always] at hnumber
      cases hother : hexadecimalPattern.length? left (token.text.toList ++ rest) with
      | some n => simp [hother] at hnumber
      | none =>
        cases hexponent : exponentPattern.length? left (token.text.toList ++ rest) with
        | some n => simp [hother, hexponent] at hnumber
        | none =>
          cases hfraction : fractionPattern.length? left (token.text.toList ++ rest) with
          | some n => simp [hother, hexponent, hfraction] at hnumber
          | none =>
            refine ⟨rfl, rfl, ?_⟩
            cases hinteger : integerPattern.length? left (token.text.toList ++ rest) with
            | some n => simpa [hother, hexponent, hfraction, hinteger] using hnumber
            | none => simp [hother, hexponent, hfraction, hinteger] at hnumber
    · obtain ⟨rule, hmem, hread⟩ := List.exists_of_findSome?_eq_some hlater
      exact absurd hread (hnot (List.mem_append_right _ hmem))
  · rw [hunknown] at hkind
    cases hkind

/-- The text of a whole number is a run of digits after an optional minus. -/
theorem Token.IsReadAt.exists_digits (h : token.IsReadAt left rest) (hkind : token.kind = .integer) :
    ∃ ds, (token.text.toList = ds ∨ token.text.toList = '-' :: ds) ∧ ds ≠ [] ∧
      ∀ d ∈ ds, isDecimalDigit d = true := by
  obtain ⟨_, _, rfl, ⟨sign, _, hsign, ⟨digits, _, hdigits, rfl, rfl⟩, rfl⟩, htext⟩ :=
    reads_of_length? (h.integer hkind).2.2
  obtain ⟨hne, hall⟩ := reads_oneOrMore.1 hdigits
  rw [htext]
  rcases hsign with ⟨c, hc, rfl⟩ | rfl
  · obtain rfl := beq_iff_eq.1 hc
    exact ⟨digits, .inr (by simp), hne, hall⟩
  · exact ⟨digits, .inl (by simp), hne, hall⟩

theorem Token.IsReadAt.digit_of_integer (h : token.IsReadAt left rest) (hkind : token.kind = .integer)
    (hminus : token.text.toList.head? ≠ some '-') :
    ∀ d ∈ token.text.toList, isDecimalDigit d = true := by
  obtain ⟨ds, htext | htext, -, hall⟩ := h.exists_digits hkind
  · rwa [htext]
  · rw [htext] at hminus
    exact absurd rfl hminus

/-- The digits of a number, the first of which is not zero. -/
structure IsNumeral (ds : List Char) : Prop where
  ne_nil : ds ≠ []
  digit : ∀ d ∈ ds, d ∈ "0123456789".toList
  head : ∀ d ∈ ds.head?, d ≠ '0'

theorem IsNumeral.isDecimalDigit {ds : List Char} (h : IsNumeral ds) :
    ∀ d ∈ ds, isDecimalDigit d = true :=
  fun d hd => isDecimalDigit_of_mem (h.digit d hd)

theorem not_isDecimalDigit_of_not_isWord {c : Char} (hc : isWord c = false) :
    Text.isDecimalDigit c = false := by
  rw [← Bool.not_eq_true]
  intro hdigit
  rw [isWord_of_isDecimalDigit hdigit] at hc
  cases hc

theorem IsNumeral.digitRun {ds : List Char} (h : IsNumeral ds)
    (hstop : ∀ c ∈ rest.head?, isWord c = false) : DigitRun ds rest :=
  ⟨h.ne_nil, h.isDecimalDigit, fun c hc => not_isDecimalDigit_of_not_isWord (hstop c hc)⟩

theorem IsNumeral.digitRun_point {ds : List Char} (h : IsNumeral ds) (cs : List Char) :
    DigitRun ds ('.' :: cs) :=
  h.digitRun fun c hc => by
    obtain rfl := Option.some.inj hc
    decide

/-- A number in the place of a whole number is a whole number as well. -/
theorem tokenAt_numeral_of_integer (h : token.IsReadAt left rest) (hkind : token.kind = .integer)
    (hminus : token.text.toList.head? ≠ some '-') {ds : List Char} (hds : IsNumeral ds)
    (other : Option Char) : tokenAt other (ds ++ rest) = (.integer, ds.length) := by
  have hdigit := h.digit_of_integer hkind hminus
  obtain ⟨hexponent, hfraction, hinteger⟩ := h.integer hkind
  -- The digits that follow directly belong to the run, but for the last one of all.
  obtain ⟨zs, after, rfl, hmore, hstops⟩ := exists_digits rest
  have hrun : ∀ {first : List Char}, first ≠ [] → (∀ d ∈ first, Text.isDecimalDigit d = true) →
      DigitRun (first ++ zs) after := fun hne hfirst =>
    ⟨List.append_ne_nil_of_left_ne_nil hne _, List.forall_mem_append.2 ⟨hfirst, hmore⟩, hstops⟩
  have hold := hrun h.ne_nil hdigit
  have hnew := hrun hds.ne_nil hds.isDecimalDigit
  rw [← List.append_assoc] at hexponent hfraction hinteger ⊢
  rw [hold.exponent_length, Option.map_eq_none_iff] at hexponent
  rw [hold.fraction_length, Option.map_eq_none_iff] at hfraction
  rw [hold.integer_length] at hinteger
  refine hnew.tokenAt_integer other (hnew.hexadecimal_of_head other fun d hd => ?_) hexponent hfraction ?_
  · rw [List.head?_append_of_ne_nil _ hds.ne_nil] at hd
    exact hds.head d hd
  · have hposOld := List.length_pos_iff.2 h.ne_nil
    have hpos := List.length_pos_iff.2 hds.ne_nil
    rw [hnew.integer_length]
    by_cases hname : after.head?.any isNameStartOrLine = true
    · rw [if_pos hname] at hinteger ⊢
      split at hinteger
      · cases hinteger
      · have hlength := Option.some.inj hinteger
        rw [List.length_append] at hlength ⊢
        have hone : zs.length = 1 := by omega
        have hmany : ¬ds.length + zs.length = 1 := by omega
        rw [if_neg hmany, hone, Nat.add_sub_cancel]
    · rw [if_neg hname] at hinteger ⊢
      have hlength := Option.some.inj hinteger
      rw [List.length_append] at hlength ⊢
      have hnil : zs.length = 0 := by omega
      rw [hnil, Nat.add_zero]

end

end SemanticLayer.Sql
