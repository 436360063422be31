import SemanticLayer.Proofs.Sql.Carrying
import SemanticLayer.Proofs.Sql.RowLimit

/-!
Tokens around a count that is replaced. The tokens from a place on depend on the text to the right and
on the character to the left, and of that character on little: all word characters count the same. A
rule, a quotation and so a whole token that stands before the count is the same with another count in
its place.
-/

namespace SemanticLayer.Sql

open Text

/-! ### Tokens from a place on -/

/-- The tokens of the text to the right of a place. -/
def tokensFrom (left : Option Char) (cs : List Char) : List Token :=
  readTokens cs.length left cs

theorem readTokens_eq_tokensFrom (left : Option Char) {cs : List Char} {n : Nat}
    (h : cs.length ≤ n) : readTokens n left cs = tokensFrom left cs := by
  unfold tokensFrom
  generalize hm : cs.length = m
  have hle : cs.length ≤ m := le_of_eq hm
  clear hm
  induction n generalizing m left cs with
  | zero =>
    obtain rfl := List.eq_nil_of_length_eq_zero (Nat.le_zero.1 h)
    rw [readTokens_nil, readTokens_nil]
  | succ n ih =>
    by_cases hne : cs = []
    · rw [hne, readTokens_nil, readTokens_nil]
    have hpos := List.length_pos_iff.2 hne
    obtain ⟨m, rfl⟩ : ∃ k, m = k + 1 := ⟨m - 1, by omega⟩
    rw [readTokens_succ _ _ hne, readTokens_succ _ _ hne]
    refine congrArg _ (ih _ ?_ m ?_)
    · rw [List.length_drop]
      omega
    · rw [List.length_drop]
      omega

theorem tokenize_eq (sql : String) : tokenize sql = tokensFrom none sql.toList := rfl

theorem tokensFrom_nil (left : Option Char) : tokensFrom left [] = [] := rfl

/-- The first token, and the tokens after it. -/
theorem tokensFrom_cons (left : Option Char) {cs : List Char} (hne : cs ≠ []) :
    tokensFrom left cs =
      ⟨(tokenAt left cs).1, String.ofList (cs.take (max 1 (tokenAt left cs).2))⟩ ::
        tokensFrom ((cs.take (max 1 (tokenAt left cs).2)).getLast?.or left)
          (cs.drop (max 1 (tokenAt left cs).2)) := by
  have hpos := List.length_pos_iff.2 hne
  obtain ⟨n, hn⟩ : ∃ n, cs.length = n + 1 := ⟨cs.length - 1, by omega⟩
  rw [tokensFrom, hn, readTokens_succ _ _ hne, readTokens_eq_tokensFrom]
  rw [List.length_drop]
  omega

/-- The token is read after the character to the left, and the rest follows it. -/
structure Token.IsReadAt (left : Option Char) (rest : List Char) (token : Token) : Prop where
  kind : (tokenAt left (token.text.toList ++ rest)).1 = token.kind
  length : max 1 (tokenAt left (token.text.toList ++ rest)).2 = token.text.toList.length

theorem isReadAt_of_tokenAt {left : Option Char} {kind : TokenKind} {cs rest : List Char}
    (hne : cs ≠ []) (h : tokenAt left (cs ++ rest) = (kind, cs.length)) :
    Token.IsReadAt left rest ⟨kind, String.ofList cs⟩ := by
  have hpos := List.length_pos_iff.2 hne
  constructor
  · rw [String.toList_ofList, h]
  · rw [String.toList_ofList, h]
    exact max_eq_right hpos

namespace Token.IsReadAt

variable {left : Option Char} {rest : List Char} {token : Token}

theorem ne_nil (h : token.IsReadAt left rest) : token.text.toList ≠ [] := by
  rw [← List.length_pos_iff, ← h.length]
  exact Nat.lt_of_lt_of_le Nat.one_pos (Nat.le_max_left _ _)

theorem tokensFrom_eq (h : token.IsReadAt left rest) :
    tokensFrom left (token.text.toList ++ rest) =
      token :: tokensFrom (token.text.toList.getLast?.or left) rest := by
  rw [tokensFrom_cons _ (List.append_ne_nil_of_left_ne_nil h.ne_nil _), h.length, h.kind,
    List.take_left, List.drop_left, String.ofList_toList]

end Token.IsReadAt

theorem tokensFrom_of_tokenAt {left : Option Char} {kind : TokenKind} {cs rest : List Char}
    (hne : cs ≠ []) (h : tokenAt left (cs ++ rest) = (kind, cs.length)) :
    tokensFrom left (cs ++ rest) =
      ⟨kind, String.ofList cs⟩ :: tokensFrom (cs.getLast?.or left) rest := by
  have hread := (isReadAt_of_tokenAt hne h).tokensFrom_eq
  rwa [String.toList_ofList] at hread

theorem exists_isReadAt {left : Option Char} {cs : List Char} {token : Token} {later : List Token}
    (h : tokensFrom left cs = token :: later) :
    ∃ rest, cs = token.text.toList ++ rest ∧ token.IsReadAt left rest ∧
      later = tokensFrom (token.text.toList.getLast?.or left) rest := by
  have hne : cs ≠ [] := by
    rintro rfl
    cases h
  have hle := tokenAt_le left hne
  rw [tokensFrom_cons _ hne] at h
  obtain ⟨rfl, rfl⟩ := List.cons.inj h
  rw [String.toList_ofList]
  refine ⟨_, (List.take_append_drop _ cs).symm, ⟨?_, ?_⟩, rfl⟩
  · rw [String.toList_ofList, List.take_append_drop]
  · rw [String.toList_ofList, List.take_append_drop, List.length_take, min_eq_left hle]

/-- The characters of some tokens. -/
def Token.charsOf (tokens : List Token) : List Char :=
  tokens.flatMap (·.text.toList)

theorem Token.toList_textOf (tokens : List Token) : (textOf tokens).toList = charsOf tokens := by
  rw [textOf, String.toList_join, charsOf, List.flatMap_map]

@[simp]
theorem Token.charsOf_nil : charsOf [] = [] := rfl

@[simp]
theorem Token.charsOf_cons (token : Token) (tokens : List Token) :
    charsOf (token :: tokens) = token.text.toList ++ charsOf tokens := List.flatMap_cons

@[simp]
theorem Token.charsOf_append (before after : List Token) :
    charsOf (before ++ after) = charsOf before ++ charsOf after := List.flatMap_append

/-- Tokens from a place on end where the text ends, or where further tokens start. -/
theorem tokensFrom_split {left : Option Char} {cs : List Char} {before after : List Token}
    (h : tokensFrom left cs = before ++ after) :
    ∃ rest, cs = Token.charsOf before ++ rest ∧
      after = tokensFrom ((Token.charsOf before).getLast?.or left) rest := by
  induction before generalizing left cs with
  | nil => exact ⟨cs, rfl, h.symm⟩
  | cons token before ih =>
    obtain ⟨later, rfl, -, hlater⟩ := exists_isReadAt h
    obtain ⟨rest, rfl, rfl⟩ := ih hlater.symm
    refine ⟨rest, ?_, ?_⟩
    · rw [Token.charsOf_cons, List.append_assoc]
    · rw [Token.charsOf_cons, List.getLast?_append, Option.or_assoc]

/-! ### Neighbours -/

namespace Pattern

/-- The classes that the pattern looks for to the left. -/
def behinds : Pattern → List (Char → Bool)
  | .seq first second | .either first second => first.behinds ++ second.behinds
  | .optional body | .ahead body | .notAhead body => body.behinds
  | .behind accepts | .notBehind accepts => [accepts]
  | _ => []

/-- Word characters to the left count the same. -/
def IsCoarse (pattern : Pattern) : Prop :=
  ∀ accepts ∈ pattern.behinds, ∀ a b, isWord a = true → isWord b = true → accepts a = accepts b

theorem isCoarse_of_append {pattern first second : Pattern} (h : pattern.IsCoarse)
    (hbehinds : pattern.behinds = first.behinds ++ second.behinds) :
    first.IsCoarse ∧ second.IsCoarse := by
  rw [IsCoarse, hbehinds] at h
  exact ⟨fun accepts hmem => h accepts (List.mem_append_left _ hmem),
    fun accepts hmem => h accepts (List.mem_append_right _ hmem)⟩

end Pattern

theorem rules_isCoarse : ∀ rule ∈ rules, rule.pattern.IsCoarse := by
  have hbehinds : rules.flatMap (·.pattern.behinds) =
      [isWord, (· == '.'), fun c => isWord c || c == ']'] := rfl
  intro rule hrule accepts haccepts a b ha hb
  have hmem : accepts ∈ rules.flatMap (·.pattern.behinds) :=
    List.mem_flatMap.2 ⟨rule, hrule, haccepts⟩
  have hdot : isWord '.' = false := by decide
  have hne : ∀ c, isWord c = true → (c == '.') = false := fun c hc => by
    rw [beq_eq_false_iff_ne]
    rintro rfl
    simp [hc] at hdot
  rw [hbehinds] at hmem
  simp only [List.mem_cons, List.not_mem_nil, or_false] at hmem
  rcases hmem with rfl | rfl | rfl
  · rw [ha, hb]
  · exact (hne a ha).trans (hne b hb).symm
  · dsimp only
    rw [ha, hb, Bool.true_or, Bool.true_or]

/-- The characters to the left are the same, or both are word characters. -/
def SameSide (one two : Option Char) : Prop :=
  one = two ∨ ∃ a b, one = some a ∧ two = some b ∧ isWord a = true ∧ isWord b = true

/-- A class that does not tell word characters apart has both or neither. -/
theorem SameSide.any_eq {one two : Option Char} (h : SameSide one two) {accepts : Char → Bool}
    (hcoarse : ∀ a b, isWord a = true → isWord b = true → accepts a = accepts b) :
    one.any accepts = two.any accepts := by
  obtain rfl | ⟨a, b, rfl, rfl, ha, hb⟩ := h
  · rfl
  · rw [Option.any_some, Option.any_some, hcoarse a b ha hb]

/-- The places are before the same text; of the second, `shift` characters more have been read. -/
structure Place.Alike (shift : Nat) (one two : Place) : Prop where
  side : SameSide one.left two.left
  right : one.right = two.right
  taken : two.taken = one.taken + shift

namespace Place.Alike

variable {shift : Nat} {one two : Place}

theorem step (h : one.Alike shift two) (c : Char) (rest : List Char) :
    (one.step c rest).Alike shift (two.step c rest) := by
  refine ⟨.inl rfl, rfl, ?_⟩
  rw [Place.step, Place.step, h.taken, Nat.add_right_comm]

theorem runs (h : one.Alike shift two) (accepts : Char → Bool) :
    List.Forall₂ (Place.Alike shift) (one.runs accepts) (two.runs accepts) := by
  have hgo : ∀ right (one two : Place) found others, one.Alike shift two →
      List.Forall₂ (Place.Alike shift) found others →
      List.Forall₂ (Place.Alike shift) (Place.runs.go accepts right one found)
        (Place.runs.go accepts right two others) := by
    intro right
    induction right with
    | nil => exact fun _ _ _ _ _ hfound => hfound
    | cons c rest ih =>
      intro one two found others halike hfound
      rw [Place.runs.go, Place.runs.go]
      split
      · exact ih _ _ _ _ (halike.step c rest) (.cons (halike.step c rest) hfound)
      · exact hfound
  rw [Place.runs, Place.runs, h.right]
  exact hgo _ _ _ _ _ h (.cons h .nil)

end Place.Alike

theorem quotedEnds_alike (shift : Nat) (quote : Char) (escapes : Bool) (cs : List Char) (taken : Nat) :
    List.Forall₂ (Place.Alike shift) (quotedEnds quote escapes cs taken)
      (quotedEnds quote escapes cs (taken + shift)) := by
  have hplace : ∀ {left : Option Char} {right : List Char} {taken more : Nat},
      (⟨left, right, taken + more⟩ : Place).Alike shift ⟨left, right, taken + shift + more⟩ :=
    ⟨.inl rfl, rfl, Nat.add_right_comm _ _ _⟩
  fun_induction quotedEnds quote escapes cs taken with
  | case1 => exact .nil
  | case2 c taken hc =>
    rw [quotedEnds, if_pos hc]
    exact .cons hplace .nil
  | case3 c taken hc =>
    rw [quotedEnds, if_neg hc]
    exact .nil
  | case4 c d rest taken hc hd ih =>
    rw [quotedEnds, if_pos hc, if_pos hd]
    rw [Nat.add_right_comm] at ih
    exact List.rel_append ih (.cons hplace .nil)
  | case5 c d rest taken hc hd =>
    rw [quotedEnds, if_pos hc, if_neg hd]
    exact .cons hplace .nil
  | case6 c d rest taken hc hescaped ihlong ihshort =>
    rw [quotedEnds, if_neg hc, if_pos hescaped]
    rw [Nat.add_right_comm] at ihlong ihshort
    exact List.rel_append ihlong ihshort
  | case7 c d rest taken hc hescaped ih =>
    rw [quotedEnds, if_neg hc, if_neg hescaped]
    rwa [Nat.add_right_comm] at ih

namespace Pattern

variable {pattern : Pattern} {shift : Nat} {one two : Place}

/-- From alike places, a pattern that does not tell word characters apart ends at alike places. -/
theorem ends_alike (hcoarse : pattern.IsCoarse) (h : one.Alike shift two) :
    List.Forall₂ (Place.Alike shift) (pattern.ends one) (pattern.ends two) := by
  have hempty : ∀ {ones twos : List Place}, List.Forall₂ (Place.Alike shift) ones twos →
      ones.isEmpty = twos.isEmpty := by
    intro ones twos h
    cases h <;> rfl
  induction pattern generalizing one two with
  | one accepts =>
    obtain ⟨left, right, taken⟩ := one
    obtain ⟨otherLeft, otherRight, otherTaken⟩ := two
    obtain rfl : right = otherRight := h.right
    cases right with
    | nil => exact .nil
    | cons c rest =>
      change List.Forall₂ _ (if accepts c then _ else _) (if accepts c then _ else _)
      split
      · exact .cons (h.step c rest) .nil
      · exact .nil
  | run accepts => exact h.runs accepts
  | quoted quote escapes =>
    rw [ends, ends, h.right, h.taken]
    exact quotedEnds_alike shift quote escapes _ _
  | seq first second ihfirst ihsecond =>
    obtain ⟨hfirst, hsecond⟩ := isCoarse_of_append hcoarse rfl
    exact List.rel_flatMap (ihfirst hfirst h) fun _ _ hmiddle => ihsecond hsecond hmiddle
  | either first second ihfirst ihsecond =>
    obtain ⟨hfirst, hsecond⟩ := isCoarse_of_append hcoarse rfl
    exact List.rel_append (ihfirst hfirst h) (ihsecond hsecond h)
  | optional body ih => exact List.rel_append (ih hcoarse h) (.cons h .nil)
  | ahead body ih | notAhead body ih =>
    rw [ends, ends, hempty (ih hcoarse h)]
    split
    all_goals first | exact .nil | exact .cons h .nil
  | behind accepts | notBehind accepts =>
    rw [ends, ends, h.side.any_eq (hcoarse accepts (List.mem_singleton_self _))]
    split
    all_goals first | exact .nil | exact .cons h .nil
  | wordBoundary =>
    have hside : one.left.any isWord = two.left.any isWord :=
      h.side.any_eq fun _ _ ha hb => ha.trans hb.symm
    rw [ends, ends, Place.isWordBoundary, Place.isWordBoundary, hside, h.right]
    split
    · exact .cons h .nil
    · exact .nil
  | finish =>
    rw [ends, ends, h.right]
    split
    · exact .cons h .nil
    · exact .nil

theorem length?_alike (hcoarse : pattern.IsCoarse) {left other : Option Char}
    (h : SameSide left other) (right : List Char) :
    pattern.length? left right = pattern.length? other right := by
  have hends := ends_alike hcoarse (⟨h, rfl, rfl⟩ :
    (⟨left, right, 0⟩ : Place).Alike 0 ⟨other, right, 0⟩)
  rw [length?_eq, length?_eq]
  generalize pattern.ends ⟨left, right, 0⟩ = ones at hends
  generalize pattern.ends ⟨other, right, 0⟩ = twos at hends
  cases hends with
  | nil => rfl
  | cons hhead _ => exact congrArg some hhead.taken.symm

end Pattern

theorem tokenAt_alike {left other : Option Char} (h : SameSide left other) (right : List Char) :
    tokenAt left right = tokenAt other right := by
  have hquotation : quotation? left right = quotation? other right := by
    have hany : left.any (fun c => isWord c || c == '"' || c == '$') =
        other.any fun c => isWord c || c == '"' || c == '$' :=
      h.any_eq fun a b ha hb => by simp [ha, hb]
    rw [quotation?_eq, quotation?_eq, hany]
  have hrule : firstRule? left right = firstRule? other right := by
    have hread : ∀ rule ∈ rules, rule.reading? left right = rule.reading? other right :=
      fun rule hrule => by
        rw [Rule.reading?, Rule.reading?, Pattern.length?_alike (rules_isCoarse rule hrule) h]
    rw [firstRule?_eq, firstRule?_eq]
    generalize rules = tried at hread
    induction tried with
    | nil => rfl
    | cons rule rest ih =>
      obtain ⟨hfirst, hrest⟩ := List.forall_mem_cons.1 hread
      rw [List.findSome?_cons, List.findSome?_cons, hfirst, ih hrest]
  rw [tokenAt, tokenAt, hquotation, hrule]

/-- The tokens after a word character are the same whichever word character it is. -/
theorem tokensFrom_alike {left other : Option Char} (h : SameSide left other) (cs : List Char) :
    tokensFrom left cs = tokensFrom other cs := by
  by_cases hne : cs = []
  · rw [hne, tokensFrom_nil, tokensFrom_nil]
  · rw [tokensFrom_cons _ hne, tokensFrom_cons _ hne, tokenAt_alike h]
    have hpos : (cs.take (max 1 (tokenAt other cs).2)) ≠ [] := by
      have hlength := List.length_pos_iff.2 hne
      rw [← List.length_pos_iff, List.length_take]
      omega
    obtain ⟨last, hlast⟩ := Option.ne_none_iff_exists'.1 (mt List.getLast?_eq_none_iff.1 hpos)
    rw [hlast, Option.some_or, Option.some_or]

open Pattern

/-! ### Rules -/

/-- What is read before a count is the same with another count in its place: where nothing is read
nothing is, and a reading that leaves the count out stays. -/
structure CarriesReading (size : Nat) (old new : Option (TokenKind × Nat)) : Prop where
  nothing : old = none → new = none
  reading : ∀ kind, ∀ n ≤ size, old = some (kind, n) → new = some (kind, n)

theorem CarriesReading.none (size : Nat) : CarriesReading size none none :=
  ⟨fun _ => rfl, fun _ _ _ hold => by cases hold⟩

/-- The first reading of several carries over if each of them does. -/
theorem CarriesReading.findSome? {α : Type} {size : Nat} {old new : α → Option (TokenKind × Nat)}
    {tried : List α} (h : ∀ a ∈ tried, CarriesReading size (old a) (new a)) :
    CarriesReading size (tried.findSome? old) (tried.findSome? new) := by
  induction tried with
  | nil => exact .none size
  | cons a rest ih =>
    obtain ⟨hfirst, hrest⟩ := List.forall_mem_cons.1 h
    rw [List.findSome?_cons, List.findSome?_cons]
    cases hread : old a with
    | none =>
      rw [hfirst.nothing hread]
      exact ih hrest
    | some reading =>
      refine ⟨fun hold => (by cases hold), fun kind n hn hold => ?_⟩
      obtain rfl := Option.some.inj hold
      rw [hfirst.reading kind n hn hread]

theorem CarriesLength.reading {size : Nat} {old new : Option Nat} (h : CarriesLength size old new)
    (kind : TokenKind) : CarriesReading size (old.map (kind, ·)) (new.map (kind, ·)) := by
  refine ⟨fun hold => ?_, fun other n hn hold => ?_⟩
  · rw [h.nothing (Option.map_eq_none_iff.1 hold), Option.map_none]
  · obtain ⟨m, hm, hread⟩ := Option.map_eq_some_iff.1 hold
    obtain ⟨rfl, rfl⟩ := Prod.mk.inj hread
    rw [h.length m hn hm, Option.map_some]

section

variable {c : Char} {one two : List Char}

theorem length?_carry (h : IsReplaced c one two) (rest : List Char) (left : Option Char)
    {cs : List Char} (hfree : cs.length = 2 → ∀ g ∈ cs.head?, sameLetter 'G' g = false) {rule : Rule}
    (hrule : rule ∈ rules) : CarriesLength (cs.length + 1)
      (rule.pattern.length? left (cs ++ c :: (one ++ rest)))
      (rule.pattern.length? left (cs ++ c :: (two ++ rest))) := by
  rcases rules_reach rule hrule with hbounded | hreaches
  · have hends := (Bool.and_eq_true_iff.1 hbounded).1
    exact (carries_of_isBounded hbounded h rest ⟨left, cs, 0⟩).length.succ
      (mayEnd_of_endsBefore hends h.barrier)
  · exact h.reachingRules_carry rest left hfree rule hreaches

/-- The characters that are read are the same, so they make the same kind of token. -/
theorem reading?_carry (h : IsReplaced c one two) (rest : List Char) (left : Option Char)
    {cs : List Char} (hfree : cs.length = 2 → ∀ g ∈ cs.head?, sameLetter 'G' g = false) {rule : Rule}
    (hrule : rule ∈ rules) : CarriesReading (cs.length + 1)
      (rule.reading? left (cs ++ c :: (one ++ rest)))
      (rule.reading? left (cs ++ c :: (two ++ rest))) := by
  have hlength := length?_carry h rest left hfree hrule
  refine ⟨fun hold => ?_, fun kind n hn hold => ?_⟩
  · rw [Rule.reading?, hlength.nothing (Option.map_eq_none_iff.1 hold), Option.map_none]
  · obtain ⟨m, hm, hread⟩ := Option.map_eq_some_iff.1 hold
    obtain ⟨rfl, rfl⟩ := Prod.mk.inj hread
    have htake : ∀ more : List Char, (cs ++ c :: more).take m = (cs ++ [c]).take m := by
      intro more
      rw [List.append_cons, List.take_append_of_le_length (by simpa using hn)]
    rw [Rule.reading?, hlength.length m hn hm, Option.map_some, htake (one ++ rest),
      htake (two ++ rest)]

theorem firstRule?_carry (h : IsReplaced c one two) (rest : List Char) (left : Option Char)
    {cs : List Char} (hfree : cs.length = 2 → ∀ g ∈ cs.head?, sameLetter 'G' g = false) :
    CarriesReading (cs.length + 1) (firstRule? left (cs ++ c :: (one ++ rest)))
      (firstRule? left (cs ++ c :: (two ++ rest))) := by
  rw [firstRule?_eq, firstRule?_eq]
  exact .findSome? fun rule hrule => reading?_carry h rest left hfree hrule

/-! ### Quotations -/

/-- A character that the part does not have stops it. -/
theorem isPrefixOf_stop {part : List Char} {d : Char} (hd : d ∉ part) (cs more : List Char) :
    part.isPrefixOf (cs ++ d :: more) = part.isPrefixOf cs := by
  rw [Bool.eq_iff_iff, List.isPrefixOf_iff_prefix, List.isPrefixOf_iff_prefix]
  refine ⟨fun h => ?_, fun h => h.trans (List.prefix_append _ _)⟩
  obtain ⟨later, hlater⟩ := h
  rcases List.append_eq_append_iff.1 hlater with ⟨more, hmore, -⟩ | ⟨beyond, rfl, hbeyond⟩
  · exact ⟨more, hmore.symm⟩
  · cases beyond with
    | nil => rw [List.append_nil]
    | cons e beyond =>
      obtain ⟨rfl, -⟩ := List.cons.inj hbeyond
      exact absurd (List.mem_append_right _ List.mem_cons_self) hd

/-- Where the part does not stretch over the end of a text, it is found in the text or after it. -/
theorem offsetOf?_append_of_stops {part cs clause : List Char} (hne : part ≠ [])
    (hstops : ∀ end', end' <:+ cs → end' ≠ [] →
      part.isPrefixOf (end' ++ clause) = part.isPrefixOf end') :
    offsetOf? part (cs ++ clause) =
      (offsetOf? part cs).or ((offsetOf? part clause).map (cs.length + ·)) := by
  have hempty : part.isEmpty = false := by simpa using hne
  induction cs with
  | nil => simp [offsetOf?, hempty]
  | cons d cs ih =>
    have hhere := hstops _ (List.suffix_refl _) (List.cons_ne_nil _ _)
    have hlater := ih fun end' hend => hstops end' (hend.trans (List.suffix_cons d cs))
    rw [List.cons_append] at hhere ⊢
    rw [offsetOf?, offsetOf?, hhere, hlater]
    split
    · rfl
    · cases offsetOf? part cs with
      | some k => rfl
      | none =>
        simp only [Option.none_or, Option.map_map, Option.map_none, List.length_cons]
        congr 1
        funext k
        simp only [Function.comp_apply]
        omega

/-- A part that starts with another character is not found before the end of a word. -/
theorem offsetOf?_word {part count : List Char} (hfirst : ∃ d ∈ part.head?, isWord d = false)
    (hcount : ∀ d ∈ count, isWord d = true) (rest : List Char) :
    offsetOf? part (count ++ rest) = (offsetOf? part rest).map (count.length + ·) := by
  obtain ⟨first, hhead, hfirst⟩ := hfirst
  obtain ⟨more, rfl⟩ := List.head?_eq_some_iff.1 hhead
  induction count with
  | nil => simp
  | cons d count ih =>
    obtain ⟨hd, hcount⟩ := List.forall_mem_cons.1 hcount
    have hdiffers : (first == d) = false := by
      rw [beq_eq_false_iff_ne]
      exact (IsReplaced.ne_of_not_isWord hd hfirst).symm
    rw [List.cons_append, offsetOf?, List.isPrefixOf, hdiffers, Bool.false_and, if_neg (by simp),
      ih hcount, Option.map_map]
    congr 1
    funext k
    simp only [Function.comp_apply, List.length_cons]
    omega

/-- What closes a quotation starts with a mark, and it goes neither over a barrier nor into a word. -/
structure IsClosing (c : Char) (part : List Char) : Prop where
  starts : ∃ d ∈ part.head?, isWord d = false
  stops : c ∉ part ∨ ∀ d ∈ part, isWord d = false

theorem IsClosing.ne_nil {part : List Char} (h : IsClosing c part) : part ≠ [] := by
  rintro rfl
  obtain ⟨d, hd, -⟩ := h.starts
  cases hd

theorem IsClosing.isPrefixOf_append {part end' : List Char} (h : IsClosing c part)
    (hlast : ∀ d ∈ end'.getLast?, d = c) (hne : end' ≠ []) {count : List Char} (hcount : count ≠ [])
    (hword : ∀ d ∈ count, isWord d = true) (rest : List Char) :
    part.isPrefixOf (end' ++ (count ++ rest)) = part.isPrefixOf end' := by
  obtain ⟨d, more, rfl⟩ := List.exists_cons_of_ne_nil hcount
  obtain ⟨init, e, rfl⟩ := (List.eq_nil_or_concat' end').resolve_left hne
  obtain rfl := hlast e List.getLast?_concat
  rcases h.stops with hc | hmarks
  · rw [List.append_assoc]
    exact (isPrefixOf_stop hc _ _).trans (isPrefixOf_stop hc _ _).symm
  · refine isPrefixOf_stop (fun hd => ?_) _ _
    have hnot := hmarks d hd
    rw [hword d List.mem_cons_self] at hnot
    cases hnot

theorem offsetOf?_carry (h : IsReplaced c one two) {part cs : List Char} (hpart : IsClosing c part)
    (hlast : ∀ d ∈ cs.getLast?, d = c) (rest : List Char) :
    CarriesLength cs.length ((offsetOf? part (cs ++ (one ++ rest))).map (· + part.length))
      ((offsetOf? part (cs ++ (two ++ rest))).map (· + part.length)) := by
  have hoffset : ∀ {count : List Char}, count ≠ [] → (∀ d ∈ count, isWord d = true) →
      offsetOf? part (cs ++ (count ++ rest)) = (offsetOf? part cs).or
        (((offsetOf? part rest).map (count.length + ·)).map (cs.length + ·)) := by
    intro count hne hcount
    rw [offsetOf?_append_of_stops hpart.ne_nil, offsetOf?_word hpart.starts hcount]
    rintro end' ⟨before, rfl⟩ hend
    refine hpart.isPrefixOf_append (fun d hd => hlast d ?_) hend hne hcount rest
    rwa [List.getLast?_append_of_ne_nil _ hend]
  rw [hoffset h.one_ne h.one_isWord, hoffset h.two_ne h.two_isWord]
  have hpos := List.length_pos_iff.2 hpart.ne_nil
  cases offsetOf? part cs with
  | some k => exact ⟨fun hold => (by cases hold), fun _ _ hold => hold⟩
  | none =>
    rw [Option.none_or, Option.none_or]
    constructor
    · intro hold
      simpa using hold
    · intro n hn hold
      simp only [Option.map_map, Option.map_eq_some_iff, Function.comp_apply] at hold
      obtain ⟨k, -, rfl⟩ := hold
      omega

theorem quotationLength?_carry (h : IsReplaced c one two) {opening closing cs : List Char}
    (hclosing : IsClosing c closing) (hlast : ∀ d ∈ cs.getLast?, d = c) (hopening : opening <+: cs)
    (rest : List Char) :
    CarriesLength cs.length (quotationLength? opening closing (cs ++ (one ++ rest)))
      (quotationLength? opening closing (cs ++ (two ++ rest))) := by
  obtain ⟨later, rfl⟩ := hopening
  have hlater : ∀ d ∈ later.getLast?, d = c := by
    intro d hd
    refine hlast d ?_
    rw [List.getLast?_append, hd]
    rfl
  have hlength : ∀ right : List Char, quotationLength? opening closing (opening ++ right) =
      ((offsetOf? closing right).map (· + closing.length)).map (opening.length + ·) := by
    intro right
    rw [quotationLength?, List.drop_left, Option.map_map]
    congr 1
    funext k
    simp only [Function.comp_apply]
    omega
  obtain ⟨hnothing, hfound⟩ := offsetOf?_carry h hclosing hlater rest
  rw [List.append_assoc, List.append_assoc, hlength, hlength]
  refine ⟨fun hold => ?_, fun n hn hold => ?_⟩
  · rw [hnothing (Option.map_eq_none_iff.1 hold), Option.map_none]
  · obtain ⟨k, hk, rfl⟩ := Option.map_eq_some_iff.1 hold
    rw [List.length_append] at hn
    rw [hfound k (by omega) hk, Option.map_some]

/-- A mark is made of a name and of dollar signs. -/
theorem mem_dollarMark? {right mark : List Char} (h : dollarMark? right = some mark) :
    mark.head? = some '$' ∧
      ∀ d ∈ mark, d = '$' ∨ isNameStartOrLine d = true ∨ isWord d = true := by
  unfold dollarMark? at h
  split at h
  · obtain rfl := Option.some.inj h
    simp
  · rename_i d rest _
    dsimp only at h
    split at h
    · rename_i hmark
      obtain rfl := Option.some.inj h
      rw [Bool.and_eq_true] at hmark
      refine ⟨rfl, fun e he => ?_⟩
      simp only [List.mem_cons, List.mem_append, List.not_mem_nil, or_false] at he
      rcases he with rfl | rfl | he | rfl
      · exact .inl rfl
      · exact .inr (.inl hmark.1)
      · exact .inr (.inr (List.mem_takeWhile_imp he))
      · exact .inl rfl
    · cases h
  · cases h

theorem not_isNameStart_of_isBarrier (h : isBarrier c = true) :
    isNameStartOrLine c = false ∧ c ≠ '$' := by
  have hall : (barriers.all fun c => !isNameStartOrLine c && c != '$') = true := by decide +kernel
  simpa using List.all_eq_true.1 hall c (mem_barriers h)

theorem isClosing_of_dollarMark? (hc : isBarrier c = true) {right mark : List Char}
    (h : dollarMark? right = some mark) : IsClosing c mark := by
  obtain ⟨hhead, hchars⟩ := mem_dollarMark? h
  obtain ⟨hstart, hdollar⟩ := not_isNameStart_of_isBarrier hc
  refine ⟨⟨'$', hhead, by decide⟩, .inl fun hmem => ?_⟩
  rcases hchars c hmem with hmem | hmem | hmem
  · exact hdollar hmem
  · rw [hstart] at hmem
    cases hmem
  · rw [isWord_of_isBarrier hc] at hmem
    cases hmem

/-- A mark does not go over a barrier. -/
theorem dollarMark?_append_barrier (hc : isBarrier c = true) (cs more : List Char) :
    dollarMark? (cs ++ c :: more) = dollarMark? cs := by
  refine dollarMark?_append (fun d hd => ?_) cs
  obtain rfl := Option.mem_some_iff.1 hd
  exact ⟨isWord_of_isBarrier hc, not_isNameStart_of_isBarrier hc⟩

theorem quotation?_carry (h : IsReplaced c one two) (rest : List Char) (left : Option Char)
    (cs : List Char) : CarriesReading (cs.length + 1) (quotation? left (cs ++ c :: (one ++ rest)))
      (quotation? left (cs ++ c :: (two ++ rest))) := by
  have hlast : ∀ d ∈ (cs ++ [c]).getLast?, d = c := by simp
  -- The openings and the end of a comment have no word character.
  have hmarks : ∀ {part : List Char} {d : Char}, part.head? = some d →
      (∀ d ∈ part, isWord d = false) → IsClosing c part := fun hhead hpart =>
    ⟨⟨_, hhead, hpart _ (List.mem_of_mem_head? hhead)⟩, .inr hpart⟩
  have hhint : IsClosing c ['/', '*', '+'] := hmarks rfl (List.forall_iff_forall_mem.1 (by decide))
  have hcomment : IsClosing c ['/', '*'] := hmarks rfl (List.forall_iff_forall_mem.1 (by decide))
  have hend : IsClosing c ['*', '/'] := hmarks rfl (List.forall_iff_forall_mem.1 (by decide))
  have hprefix : ∀ {part : List Char}, IsClosing c part → ∀ {count : List Char}, count ≠ [] →
      (∀ d ∈ count, isWord d = true) →
      part.isPrefixOf (cs ++ [c] ++ (count ++ rest)) = part.isPrefixOf (cs ++ [c]) :=
    fun hpart _ hne hcount => hpart.isPrefixOf_append hlast (by simp) hne hcount rest
  have hmark : ∀ more : List Char, dollarMark? (cs ++ [c] ++ more) = dollarMark? cs := fun more => by
    rw [← List.append_cons]
    exact dollarMark?_append_barrier h.barrier cs more
  have hsize : (cs ++ [c]).length = cs.length + 1 := List.length_append
  rw [List.append_cons cs c (one ++ rest), List.append_cons cs c (two ++ rest), quotation?_eq, quotation?_eq,
    hprefix hhint h.one_ne h.one_isWord, hprefix hhint h.two_ne h.two_isWord,
    hprefix hcomment h.one_ne h.one_isWord, hprefix hcomment h.two_ne h.two_isWord,
    hmark, hmark, ← hsize]
  split_ifs with hishint hiscomment hleft
  · exact (quotationLength?_carry h hend hlast (List.isPrefixOf_iff_prefix.1 hishint) rest).reading _
  · exact (quotationLength?_carry h hend hlast (List.isPrefixOf_iff_prefix.1 hiscomment) rest).reading _
  · exact .none _
  · cases hfound : dollarMark? cs with
    | none => exact .none _
    | some mark =>
      have hcloses := isClosing_of_dollarMark? h.barrier hfound
      have hopening := (dollarMark?_eq_some hfound).1.trans (List.prefix_append cs [c])
      exact (quotationLength?_carry h hcloses hlast hopening rest).reading _

/-! ### Tokens -/

/-- A token that ends before a count is the same with another count in its place. -/
theorem tokenAt_carry (h : IsReplaced c one two) (rest : List Char) (left : Option Char)
    {cs : List Char} (hfree : cs.length = 2 → ∀ g ∈ cs.head?, sameLetter 'G' g = false)
    (hsize : (tokenAt left (cs ++ c :: (one ++ rest))).2 ≤ cs.length + 1) :
    tokenAt left (cs ++ c :: (two ++ rest)) = tokenAt left (cs ++ c :: (one ++ rest)) := by
  have hquotation := quotation?_carry h rest left cs
  have hrule := firstRule?_carry h rest left hfree
  unfold tokenAt at hsize ⊢
  cases hread : quotation? left (cs ++ c :: (one ++ rest)) with
  | some found =>
    rw [hread] at hsize
    rw [hquotation.reading found.1 found.2 hsize hread]
    rfl
  | none =>
    rw [hquotation.nothing hread]
    rw [hread] at hsize
    cases hfirst : firstRule? left (cs ++ c :: (one ++ rest)) with
    | some found =>
      rw [hfirst] at hsize
      rw [hrule.reading found.1 found.2 hsize hfirst]
    | none => rw [hrule.nothing hfirst]

end

/-- The tokens before a count stay where another count takes its place, unless they make the
separator of batches that reads a count as its own. -/
theorem tokensFrom_carry {c : Char} {one two : List Char} (h : IsReplaced c one two)
    {rest : List Char} {here there : List Token} {left : Option Char}
    (hread : tokensFrom left (Token.charsOf here ++ (one ++ rest)) = here ++ there)
    (hlast : (Token.charsOf here).getLast?.or left = some c)
    (hfree : ∀ later, later <:+ here → (Token.charsOf later).length = 3 →
      ∀ g ∈ (Token.charsOf later).head?, sameLetter 'G' g = false) :
    tokensFrom left (Token.charsOf here ++ (two ++ rest)) =
      here ++ tokensFrom (some c) (two ++ rest) := by
  induction here generalizing left with
  | nil =>
    obtain rfl : left = some c := hlast
    rfl
  | cons token here ih =>
    rw [Token.charsOf_cons, List.append_assoc, List.cons_append] at hread
    obtain ⟨rest', hrest, hhere, hthere⟩ := exists_isReadAt hread
    obtain rfl := List.append_cancel_left hrest
    -- The token ends before the count, so what is read there is the same.
    obtain ⟨cs, d, hchars⟩ := (List.eq_nil_or_concat' (Token.charsOf (token :: here))).resolve_left
      (by rw [Token.charsOf_cons]; exact List.append_ne_nil_of_left_ne_nil hhere.ne_nil _)
    obtain rfl : d = c := by simpa [hchars] using hlast
    have htext : ∀ more : List Char,
        token.text.toList ++ (Token.charsOf here ++ more) = cs ++ d :: more := by
      intro more
      rw [← List.append_assoc, ← Token.charsOf_cons, hchars, List.append_assoc]
      rfl
    have hlength := congrArg List.length hchars
    rw [Token.charsOf_cons, List.length_append, List.length_append, List.length_singleton] at hlength
    have hsame : tokenAt left (cs ++ d :: (two ++ rest)) = tokenAt left (cs ++ d :: (one ++ rest)) := by
      refine tokenAt_carry h rest left (fun htwo g hg => ?_) ?_
      · refine hfree _ (List.suffix_refl _) (by rw [hchars]; simp [htwo]) g ?_
        rw [hchars, List.head?_append, hg]
        rfl
      · have hsize := hhere.length
        rw [htext] at hsize
        omega
    have hnew : token.IsReadAt left (Token.charsOf here ++ (two ++ rest)) := by
      obtain ⟨hkind, hsize⟩ := hhere
      rw [htext] at hkind hsize
      exact ⟨by rw [htext, hsame, hkind], by rw [htext, hsame, hsize]⟩
    rw [Token.charsOf_cons, List.append_assoc, hnew.tokensFrom_eq, List.cons_append]
    refine congrArg _ (ih hthere.symm ?_ fun later hlater => ?_)
    · rwa [Token.charsOf_cons, List.getLast?_append, Option.or_assoc] at hlast
    · exact hfree later (hlater.trans (List.suffix_cons token here))

end SemanticLayer.Sql
