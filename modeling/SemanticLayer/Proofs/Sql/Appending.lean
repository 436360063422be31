import SemanticLayer.Proofs.Sql.Extension

/-!
Tokens where a clause on a line of its own follows the text. What is read at a place is the same with
the clause and without it, but for a line comment or one half of a line break at the end of the text,
which takes the line break of the clause as well.
-/

namespace SemanticLayer.Sql

open Text

/-! ### The rest of a line -/

/-- The place after all characters of a class that stand here. -/
def Place.afterRun (accepts : Char → Bool) (place : Place) : Place :=
  go place.right place
where
  go : List Char → Place → Place
    | [], place => place
    | c :: rest, place => if accepts c then go rest (place.step c rest) else place

theorem Place.head?_runs (accepts : Char → Bool) (place : Place) :
    (place.runs accepts).head? = some (place.afterRun accepts) := by
  have hgo : ∀ right place found, (runs.go accepts right place (place :: found)).head? =
      some (afterRun.go accepts right place) := by
    intro right
    induction right with
    | nil => exact fun _ _ => rfl
    | cons c rest ih =>
      intro place found
      rw [runs.go, afterRun.go]
      split
      · exact ih _ _
      · rfl
  exact hgo _ _ _

theorem Place.afterRun_extend {accepts : Char → Bool} {place : Place} {clause : List Char}
    (hclause : ∀ c ∈ clause.head?, accepts c = false) :
    (place.extend clause).afterRun accepts = (place.afterRun accepts).extend clause := by
  have hgo : ∀ right place, afterRun.go accepts (right ++ clause) (place.extend clause) =
      (afterRun.go accepts right place).extend clause := by
    intro right
    induction right with
    | nil =>
      intro place
      cases clause with
      | nil => rfl
      | cons c rest => exact if_neg (by simp [hclause c rfl])
    | cons c rest ih =>
      intro place
      rw [List.cons_append, afterRun.go, afterRun.go]
      split
      · exact ih (place.step c rest)
      · rfl
  exact hgo _ _

/-- What stands after the run is not of the class. -/
theorem Place.head?_afterRun (accepts : Char → Bool) (place : Place) :
    ∀ c ∈ (place.afterRun accepts).right.head?, accepts c = false := by
  have hgo : ∀ right (place : Place), place.right = right →
      ∀ c ∈ (afterRun.go accepts right place).right.head?, accepts c = false := by
    intro right
    induction right with
    | nil =>
      intro place hright c hc
      simp [afterRun.go, hright] at hc
    | cons c rest ih =>
      intro place hright
      rw [afterRun.go]
      split
      · exact ih _ rfl
      · simpa [hright] using ‹¬accepts c = true›
  exact hgo _ _ rfl

theorem Place.reaches_afterRun (accepts : Char → Bool) (place : Place) :
    ∃ cs, place.Reaches cs (place.afterRun accepts) := by
  obtain ⟨cs, hreaches, -⟩ := reaches_of_mem_runs (List.mem_of_mem_head? (place.head?_runs accepts))
  exact ⟨cs, hreaches⟩

section

variable {clause : List Char}

/-- A pattern in whose texts no line break follows anything reads nothing beyond the text. -/
theorem Pattern.not_reads_append {pattern : Pattern} (hclause : IsClause clause)
    (hjoin : ∀ c, pattern.mayJoin c '\n' = false) {cs : List Char} (hne : cs ≠ []) :
    ∀ after, after <+: clause → after ≠ [] → ¬pattern.Reads (cs ++ after) := by
  rintro (_ | ⟨d, after⟩) hafter hafterNe hreads
  · exact hafterNe rfl
  obtain ⟨rest, rfl⟩ := hclause.begins
  obtain ⟨rfl, -⟩ := List.cons_prefix_cons.1 hafter
  obtain ⟨init, c, rfl⟩ := (List.eq_nil_or_concat' cs).resolve_left hne
  have hmeet : pattern.Reads (init ++ c :: '\n' :: after) := by simpa using hreads
  exact absurd hmeet.mayJoin (by simp [hjoin c])

open Rule in
/-- The rest of a line is all that is no line break, and then the line break or the end of the
text. -/
theorem read_restOfLine {place last : Place}
    (h : (Pattern.either lineBreak .finish).read some (place.afterRun (!isLineBreak ·)) =
      some last) : restOfLine.read some place = some last := by
  obtain ⟨later, hlater⟩ := List.head?_eq_some_iff.1 (place.head?_runs (!isLineBreak ·))
  rw [restOfLine, Pattern.read, Pattern.read, hlater, List.findSome?_cons, h]

open Rule in
/-- With the clause, a line break is the same, or the second half of it is that of the clause. -/
theorem read_lineBreak_extend (hclause : IsClause clause) (place : Place) (hne : place.right ≠ []) :
    lineBreak.read some (place.extend clause) =
        (lineBreak.read some place).map (·.extend clause) ∨
      ∃ last, place.Reaches place.right last ∧ lineBreak.read some place = some last ∧
        lineBreak.read some (place.extend clause) = some (last.step '\n' clause.tail) := by
  obtain ⟨left, right, taken⟩ := place
  obtain ⟨rest, rfl⟩ := hclause.begins
  have hbreak : ('\n' == '\r') = false := by decide
  have hreturn : ('\r' == '\n') = false := by decide
  match right, hne with
  | [c], _ =>
    by_cases hc : c = '\r'
    · subst hc
      exact .inr ⟨⟨some '\r', [], taken + 1⟩, ⟨rfl, rfl⟩, rfl, rfl⟩
    · refine .inl ?_
      by_cases hline : c = '\n' <;>
        simp [lineBreak, Pattern.any, Pattern.read, char, Place.extend, Place.step, hc, hline, hbreak]
  | c :: d :: more, _ =>
    refine .inl ?_
    by_cases hc : c = '\r'
    · by_cases hd : d = '\n' <;>
        simp [lineBreak, Pattern.any, Pattern.read, char, Place.extend, Place.step, hc, hd, hreturn]
    · by_cases hline : c = '\n' <;>
        simp [lineBreak, Pattern.any, Pattern.read, char, Place.extend, Place.step, hc, hline, hbreak]

open Rule in
/-- With the clause, the end of a line is the same, or takes the line break of the clause. -/
theorem read_lineEnd_extend (hclause : IsClause clause) {place : Place}
    (hbreak : ∀ c ∈ place.right.head?, isLineBreak c = true) :
    ∃ cs last, place.Reaches cs last ∧
      (Pattern.either lineBreak .finish).read some place = some last ∧
      ((Pattern.either lineBreak .finish).read some (place.extend clause) =
          some (last.extend clause) ∨
        last.right = [] ∧ (Pattern.either lineBreak .finish).read some (place.extend clause) =
          some (last.step '\n' clause.tail)) := by
  by_cases hne : place.right = []
  · obtain ⟨left, right, taken⟩ := place
    obtain ⟨rest, rfl⟩ := hclause.begins
    subst hne
    exact ⟨[], _, .refl _, rfl, .inr ⟨rfl, rfl⟩⟩
  · have hsome : lineBreak.read some place ≠ none := by
      obtain ⟨left, right, taken⟩ := place
      obtain ⟨c, rest, rfl⟩ := List.exists_cons_of_ne_nil hne
      have hc : c = '\n' ∨ c = '\r' := by simpa [isLineBreak] using hbreak c rfl
      rcases hc with rfl | rfl <;> simp [lineBreak, Pattern.any, Pattern.read, char]
    obtain ⟨last, hlast⟩ := Option.ne_none_iff_exists'.1 hsome
    obtain ⟨cs, hcs, -⟩ :=
      Pattern.reaches_of_mem_ends (List.mem_of_mem_head? (Pattern.read_some _ _ ▸ hlast))
    refine ⟨cs, last, hcs, by rw [Pattern.read, hlast, Option.some_or], ?_⟩
    rcases read_lineBreak_extend hclause _ hne with h | ⟨other, hother, hread, h⟩
    · rw [hlast] at h
      exact .inl (by rw [Pattern.read, h]; rfl)
    · obtain rfl := Option.some.inj (hread.symm.trans hlast)
      refine .inr ⟨?_, by rw [Pattern.read, h]; rfl⟩
      have hright := hother.right_eq
      simpa using hright

open Rule in
/-- With the clause, the rest of a line is the same, or takes the line break as well. -/
theorem read_restOfLine_extend (hclause : IsClause clause) (place : Place) :
    ∃ cs last, place.Reaches cs last ∧ restOfLine.read some place = some last ∧
      (restOfLine.read some (place.extend clause) = some (last.extend clause) ∨
        last.right = [] ∧
          restOfLine.read some (place.extend clause) = some (last.step '\n' clause.tail)) := by
  have hextend : (place.extend clause).afterRun (!isLineBreak ·) =
      (place.afterRun (!isLineBreak ·)).extend clause := by
    obtain ⟨rest, rfl⟩ := hclause.begins
    exact Place.afterRun_extend fun c hc => by obtain rfl := Option.some.inj hc; decide
  obtain ⟨cs, hcs⟩ := place.reaches_afterRun (!isLineBreak ·)
  have hbreak := place.head?_afterRun (!isLineBreak ·)
  simp only [Bool.not_eq_false'] at hbreak
  obtain ⟨more, last, hmore, hread, hthere⟩ := read_lineEnd_extend hclause hbreak
  rw [← hextend] at hthere
  exact ⟨cs ++ more, last, hcs.trans hmore, read_restOfLine hread,
    hthere.imp read_restOfLine fun h => ⟨h.1, read_restOfLine h.2⟩⟩

/-- With the clause, what is read is as long, or goes on to the end of the text and takes the line
break as well. -/
def IsLengthened (n : Nat) (here there : Option Nat) : Prop :=
  there = here ∨ here = some n ∧ there = some (n + 1)

theorem length?_comment_append (hclause : IsClause clause) {mark : Pattern}
    (hsettled : mark.isSettled = true) (hcrosses : mark.crosses = false) (left : Option Char)
    (cs : List Char) :
    IsLengthened cs.length ((mark.seq Rule.restOfLine).length? left cs)
      ((mark.seq Rule.restOfLine).length? left (cs ++ clause)) := by
  have hextend := Pattern.ends_extend (Pattern.settledBefore_of_isSettled hclause hsettled)
    ⟨left, cs, 0⟩ (Pattern.not_reads_of_not_crosses hclause hcrosses cs)
  change mark.ends ⟨left, cs ++ clause, 0⟩ = _ at hextend
  rw [Pattern.length?, Pattern.length?, Pattern.read, Pattern.read, Pattern.read_eq mark,
    Pattern.read_eq mark, hextend]
  cases hends : mark.ends ⟨left, cs, 0⟩ with
  | nil => exact .inl rfl
  | cons middle rest =>
    obtain ⟨one, hone, -⟩ := Pattern.reaches_of_mem_ends (hends ▸ List.mem_cons_self)
    obtain ⟨two, last, htwo, hread, hthere⟩ := read_restOfLine_extend hclause middle
    rw [List.map_cons, List.findSome?_cons, List.findSome?_cons, hread]
    rcases hthere with hthere | ⟨hright, hthere⟩
    · rw [hthere]
      exact .inl rfl
    · have hreaches := hone.trans htwo
      have hcs : cs = one ++ two := by simpa [hright] using hreaches.right_eq
      have htaken : last.taken = cs.length := by simpa [hcs] using hreaches.taken_eq
      rw [hthere]
      exact .inr ⟨congrArg some htaken, congrArg (some <| · + 1) htaken⟩

theorem length?_lineBreak_append (hclause : IsClause clause) (left : Option Char) {cs : List Char}
    (hne : cs ≠ []) :
    IsLengthened cs.length (Rule.lineBreak.length? left cs)
      (Rule.lineBreak.length? left (cs ++ clause)) := by
  rcases read_lineBreak_extend hclause ⟨left, cs, 0⟩ hne with
    h | ⟨last, hreaches, hread, h⟩
  · refine .inl ?_
    change (Rule.lineBreak.read some ((⟨left, cs, 0⟩ : Place).extend clause)).map _ = _
    rw [h, Option.map_map]
    rfl
  · have htaken : last.taken = cs.length := by simpa using hreaches.taken_eq
    refine .inr ⟨?_, ?_⟩
    · rw [Pattern.length?, hread]
      exact congrArg some htaken
    · change (Rule.lineBreak.read some ((⟨left, cs, 0⟩ : Place).extend clause)).map _ = _
      rw [h]
      exact congrArg (some <| · + 1) htaken

/-! ### Rules -/

theorem Pattern.length?_le {pattern : Pattern} {left : Option Char} {cs : List Char} {n : Nat}
    (h : pattern.length? left cs = some n) : n ≤ cs.length := by
  rw [length?_eq] at h
  obtain ⟨last, hlast, rfl⟩ := Option.map_eq_some_iff.1 h
  obtain ⟨read, hreaches, -⟩ := reaches_of_mem_ends (List.mem_of_mem_head? hlast)
  have hright := congrArg List.length hreaches.right_eq
  have htaken := hreaches.taken_eq
  simp only [List.length_append, Nat.zero_add] at hright htaken
  omega

/-- The kinds of tokens that may end with a line break. -/
def lineKinds : List TokenKind :=
  [.lineHint, .lineComment, .newline]

/-- With the clause, the reading is the same, or it is one to the end of the text that takes the line
break as well. -/
def TakesBreak (n : Nat) (here there : Option (TokenKind × Nat)) : Prop :=
  there = here ∨ ∃ kind ∈ lineKinds, here = some (kind, n) ∧ there = some (kind, n + 1)

/-- What a rule makes of the text at a place. -/
def Rule.reading? (rule : Rule) (left : Option Char) (right : List Char) :
    Option (TokenKind × Nat) :=
  (rule.pattern.length? left right).map fun length =>
    (rule.kind (String.ofList (right.take length)), length)

theorem firstRule?_eq (left : Option Char) (right : List Char) :
    firstRule? left right = rules.findSome? (·.reading? left right) := by
  simp only [firstRule?, Rule.reading?, Option.map_eq_bind]
  rfl

open Rule in
/-- The rules that may take a line break, and all others. -/
theorem rules_lengthened (hclause : IsClause clause) (left : Option Char) {cs : List Char}
    (hne : cs ≠ []) : ∀ rule ∈ rules,
    (∃ kind ∈ lineKinds, (∀ text, rule.kind text = kind) ∧
      IsLengthened cs.length (rule.pattern.length? left cs)
        (rule.pattern.length? left (cs ++ clause))) ∨
    rule.pattern.isSettled = true ∧
      (rule.pattern.crosses = false ∨ ∀ c, rule.pattern.mayJoin c '\n' = false) := by
  have hlater : ((rules.drop 4).all fun rule =>
      rule.pattern.isSettled && !rule.pattern.crosses) = true := by decide +kernel
  have hrules : rules = rules.take 4 ++ rules.drop 4 := rfl
  rw [hrules]
  refine List.forall_mem_append.2 ⟨?_, ?_⟩
  · change ∀ rule ∈ [_, _, _, _], _
    simp only [List.forall_mem_cons]
    have hhint : (lineCommentMark.seq (char '+')).isSettled = true ∧
        (lineCommentMark.seq (char '+')).crosses = false := by decide +kernel
    have hmark : lineCommentMark.isSettled = true ∧ lineCommentMark.crosses = false := by
      decide +kernel
    refine ⟨.inl ⟨.lineHint, by simp [lineKinds], fun _ => rfl, ?_⟩,
      .inl ⟨.lineComment, by simp [lineKinds], fun _ => rfl,
        length?_comment_append hclause hmark.1 hmark.2 left cs⟩,
      .inl ⟨.newline, by simp [lineKinds], fun _ => rfl, length?_lineBreak_append hclause left hne⟩,
      .inr ⟨rfl, .inr fun _ => rfl⟩, by simp⟩
    exact length?_comment_append hclause hhint.1 hhint.2 left cs
  · intro rule hrule
    have hboth := List.all_eq_true.1 hlater rule hrule
    simp only [Bool.and_eq_true, Bool.not_eq_true'] at hboth
    exact .inr ⟨hboth.1, .inl hboth.2⟩

theorem Rule.reading?_append (hclause : IsClause clause) {rule : Rule} (hrule : rule ∈ rules)
    (left : Option Char) {cs : List Char} (hne : cs ≠ []) :
    TakesBreak cs.length (rule.reading? left cs) (rule.reading? left (cs ++ clause)) := by
  -- Where the length is the same, so is the text that is read, and its kind.
  have hsame : rule.pattern.length? left (cs ++ clause) = rule.pattern.length? left cs →
      rule.reading? left (cs ++ clause) = rule.reading? left cs := by
    intro h
    rw [reading?, reading?, h]
    cases hlength : rule.pattern.length? left cs with
    | none => rfl
    | some n => rw [Option.map_some, Option.map_some,
        List.take_append_of_le_length (Pattern.length?_le hlength)]
  rcases rules_lengthened hclause left hne rule hrule with
    ⟨kind, hkind, hmade, h | ⟨hhere, hthere⟩⟩ | ⟨hsettled, hstays⟩
  · exact .inl (hsame h)
  · refine .inr ⟨kind, hkind, ?_, ?_⟩
    · rw [reading?, hhere, Option.map_some, hmade]
    · rw [reading?, hthere, Option.map_some, hmade]
  · have hextend := Pattern.ends_extend
      (Pattern.settledBefore_of_isSettled hclause hsettled) ⟨left, cs, 0⟩ <| by
      rcases hstays with hcrosses | hjoin
      · exact Pattern.not_reads_of_not_crosses hclause hcrosses cs
      · exact Pattern.not_reads_append hclause hjoin hne
    refine .inl (hsame ?_)
    rw [Pattern.length?_eq, Pattern.length?_eq]
    change (rule.pattern.ends ((⟨left, cs, 0⟩ : Place).extend clause)).head?.map _ = _
    rw [hextend]
    cases rule.pattern.ends ⟨left, cs, 0⟩ <;> rfl

theorem firstRule?_append (hclause : IsClause clause) (left : Option Char) {cs : List Char}
    (hne : cs ≠ []) : TakesBreak cs.length (firstRule? left cs) (firstRule? left (cs ++ clause)) := by
  rw [firstRule?_eq, firstRule?_eq]
  have hrules : ∀ rule ∈ rules,
      TakesBreak cs.length (rule.reading? left cs) (rule.reading? left (cs ++ clause)) :=
    fun _ hrule => Rule.reading?_append hclause hrule left hne
  generalize rules = tried at hrules ⊢
  induction tried with
  | nil => exact .inl rfl
  | cons rule rest ih =>
    obtain ⟨hrule, hrest⟩ := List.forall_mem_cons.1 hrules
    rw [List.findSome?_cons, List.findSome?_cons]
    rcases hrule with h | ⟨kind, hkind, hhere, hthere⟩
    · rw [h]
      cases rule.reading? left cs with
      | none => exact ih hrest
      | some reading => exact .inl rfl
    · rw [hhere, hthere]
      exact .inr ⟨kind, hkind, rfl, rfl⟩

/-! ### Quotations -/

theorem offsetOf?_le {part cs : List Char} {k : Nat} (h : offsetOf? part cs = some k) :
    k + part.length ≤ cs.length := by
  induction cs generalizing k with
  | nil =>
    rw [offsetOf?] at h
    split at h
    · rename_i hpart
      simp [List.isEmpty_iff.1 hpart, ← Option.some.inj h]
    · cases h
  | cons c rest ih =>
    rw [offsetOf?] at h
    split at h
    · rename_i hprefix
      rw [← Option.some.inj h, Nat.zero_add]
      exact (List.isPrefixOf_iff_prefix.1 hprefix).length_le
    · obtain ⟨n, hn, rfl⟩ := Option.map_eq_some_iff.1 h
      have hle := ih hn
      rw [List.length_cons]
      omega

/-- A text with a character that the clause does not have does not stretch into the clause. -/
theorem isPrefixOf_append {part : List Char} {last : Char} (hpart : part.getLast? = some last)
    (hlast : last ∉ clause) (cs : List Char) :
    part.isPrefixOf (cs ++ clause) = part.isPrefixOf cs := by
  rw [Bool.eq_iff_iff, List.isPrefixOf_iff_prefix, List.isPrefixOf_iff_prefix]
  refine ⟨fun h => ?_, fun h => h.trans (List.prefix_append _ _)⟩
  obtain ⟨later, hlater⟩ := h
  rcases List.append_eq_append_iff.1 hlater with ⟨more, hmore, -⟩ | ⟨more, rfl, hmore⟩
  · exact ⟨more, hmore.symm⟩
  · rcases List.eq_nil_or_concat' more with rfl | ⟨init, d, rfl⟩
    · rw [List.append_nil]
    · rw [← List.append_assoc, List.getLast?_concat] at hpart
      obtain rfl := Option.some.inj hpart
      exact absurd (hmore ▸ by simp) hlast

theorem offsetOf?_append {part : List Char} {last : Char} (hpart : part.getLast? = some last)
    (hlast : last ∉ clause) (cs : List Char) : offsetOf? part (cs ++ clause) = offsetOf? part cs := by
  induction cs with
  | nil =>
    have hempty : part.isEmpty = false := by
      cases part with
      | nil => cases hpart
      | cons => rfl
    have hnone : ∀ rest, (∀ more, more <:+ rest → part.isPrefixOf more = false) →
        offsetOf? part rest = none := by
      intro rest hrest
      induction rest with
      | nil => exact if_neg (by simp [hempty])
      | cons c rest ih =>
        rw [offsetOf?, if_neg (by simp [hrest _ (List.suffix_refl _)]),
          ih fun more hmore => hrest more (hmore.trans (List.suffix_cons c rest)), Option.map_none]
    rw [List.nil_append, hnone clause, offsetOf?, if_neg (by simp [hempty])]
    intro more hmore
    rw [← List.nil_append more, isPrefixOf_append hpart fun h => hlast (hmore.subset h)]
    cases part with
    | nil => cases hpart
    | cons => rfl
  | cons c rest ih =>
    have hprefix := isPrefixOf_append hpart hlast (c :: rest)
    rw [List.cons_append] at hprefix
    rw [List.cons_append, offsetOf?, offsetOf?, hprefix, ih]

theorem quotationLength?_le {opening closing right : List Char} {n : Nat}
    (hopening : opening <+: right) (h : quotationLength? opening closing right = some n) :
    n ≤ right.length := by
  obtain ⟨k, hk, rfl⟩ := Option.map_eq_some_iff.1 h
  have hle := offsetOf?_le hk
  have hlength := hopening.length_le
  rw [List.length_drop] at hle
  omega

theorem quotationLength?_append {opening closing right : List Char} {last : Char}
    (hclosing : closing.getLast? = some last) (hlast : last ∉ clause) (hopening : opening <+: right) :
    quotationLength? opening closing (right ++ clause) = quotationLength? opening closing right := by
  rw [quotationLength?, quotationLength?, List.drop_append_of_le_length hopening.length_le,
    offsetOf?_append hclosing hlast]

/-- What neither goes on with a name nor closes a mark makes no difference to a mark before it. -/
theorem dollarMark?_append
    (hclause : ∀ d ∈ clause.head?, isWord d = false ∧ Pattern.isNameStartOrLine d = false ∧ d ≠ '$')
    (right : List Char) : dollarMark? (right ++ clause) = dollarMark? right := by
  have hname : ∀ rest : List Char, (rest ++ clause).takeWhile isWord = rest.takeWhile isWord := by
    intro rest
    have hstops : clause.takeWhile isWord = [] := by
      cases clause with
      | nil => rfl
      | cons d more => exact List.takeWhile_cons_of_neg (by simp [(hclause d rfl).1])
    rw [List.takeWhile_append, hstops, List.append_nil, ite_eq_right_iff]
    exact fun hlength => ((List.takeWhile_prefix _).eq_of_length hlength).symm
  have hnext : ∀ rest : List Char,
      (((rest ++ clause).drop (rest.takeWhile isWord).length).head? == some '$') =
        ((rest.drop (rest.takeWhile isWord).length).head? == some '$') := by
    intro rest
    rw [List.drop_append_of_le_length (List.takeWhile_prefix _).length_le]
    cases rest.drop (rest.takeWhile isWord).length with
    | cons => rfl
    | nil =>
      cases clause with
      | nil => rfl
      | cons d more => simp [(hclause d rfl).2.2]
  rcases right with _ | ⟨c, _ | ⟨d, rest⟩⟩
  · cases clause with
    | nil => rfl
    | cons d more => simp [dollarMark?, (hclause d rfl).2.2]
  · by_cases hc : c = '$'
    · subst hc
      cases clause with
      | nil => rfl
      | cons d more =>
        obtain ⟨-, hstart, hdollar⟩ := hclause d rfl
        simp [dollarMark?, hstart]
    · simp [dollarMark?, hc]
  · by_cases hc : c = '$'
    · by_cases hd : d = '$'
      · subst hc hd
        rfl
      · simp only [List.cons_append, dollarMark?, hc, hname, hnext]
    · simp [dollarMark?, hc]

theorem dollarMark?_eq_some {right mark : List Char} (h : dollarMark? right = some mark) :
    mark <+: right ∧ mark.getLast? = some '$' := by
  unfold dollarMark? at h
  split at h
  · obtain rfl := Option.some.inj h
    exact ⟨⟨_, rfl⟩, rfl⟩
  · rename_i c rest _
    dsimp only at h
    split at h
    · rename_i hmark
      obtain rfl := Option.some.inj h
      rw [Bool.and_eq_true, beq_iff_eq] at hmark
      obtain ⟨later, hlater⟩ := List.head?_eq_some_iff.1 hmark.2
      refine ⟨⟨later, ?_⟩, by rw [← List.cons_append, ← List.cons_append, List.getLast?_concat]⟩
      have hrest := List.take_append_drop (rest.takeWhile isWord).length rest
      rw [hlater, ← List.prefix_iff_eq_take.1 (List.takeWhile_prefix _)] at hrest
      simpa using hrest
    · cases h
  · cases h

theorem quotation?_eq (left : Option Char) (right : List Char) :
    quotation? left right =
      if ['/', '*', '+'].isPrefixOf right then
        (quotationLength? ['/', '*', '+'] ['*', '/'] right).map (TokenKind.blockHint, ·)
      else if ['/', '*'].isPrefixOf right then
        (quotationLength? ['/', '*'] ['*', '/'] right).map (TokenKind.blockComment, ·)
      else if left.any fun c => isWord c || c == '"' || c == '$' then none
      else (dollarMark? right).bind fun mark =>
        (quotationLength? mark mark right).map (TokenKind.literal, ·) := by
  have hbegins : ∀ {part right : List Char}, part.isPrefixOf right = true →
      ∃ later, right = part ++ later := by
    intro part right h
    obtain ⟨later, hlater⟩ := List.isPrefixOf_iff_prefix.1 h
    exact ⟨later, hlater.symm⟩
  unfold quotation?
  split
  · rfl
  · rename_i rest hrest
    have hhint : ¬['/', '*', '+'].isPrefixOf ('/' :: '*' :: rest) = true := by
      intro h
      obtain ⟨later, hlater⟩ := hbegins h
      exact hrest later (by simpa using hlater)
    rw [if_neg hhint]
    rfl
  · rename_i hhint hcomment
    rw [if_neg fun h => (hbegins h).elim hhint, if_neg fun h => (hbegins h).elim hcomment]
    rfl

theorem quotation?_le {left : Option Char} {right : List Char} {kind : TokenKind} {n : Nat}
    (h : quotation? left right = some (kind, n)) : n ≤ right.length := by
  rw [quotation?_eq] at h
  split_ifs at h with hhint hcomment hleft
  · obtain ⟨size, hsize, hn⟩ := Option.map_eq_some_iff.1 h
    obtain ⟨-, rfl⟩ := Prod.mk.inj hn
    exact quotationLength?_le (List.isPrefixOf_iff_prefix.1 hhint) hsize
  · obtain ⟨size, hsize, hn⟩ := Option.map_eq_some_iff.1 h
    obtain ⟨-, rfl⟩ := Prod.mk.inj hn
    exact quotationLength?_le (List.isPrefixOf_iff_prefix.1 hcomment) hsize
  · obtain ⟨mark, hmark, hmap⟩ := Option.bind_eq_some_iff.1 h
    obtain ⟨size, hsize, hn⟩ := Option.map_eq_some_iff.1 hmap
    obtain ⟨-, rfl⟩ := Prod.mk.inj hn
    exact quotationLength?_le (dollarMark?_eq_some hmark).1 hsize

theorem quotation?_append (hclause : IsClause clause) (left : Option Char) (cs : List Char) :
    quotation? left (cs ++ clause) = quotation? left cs := by
  have hslash : '/' ∉ clause := hclause.not_mem (by decide)
  have hdollar : '$' ∉ clause := hclause.not_mem (by decide)
  have hhint : ['/', '*', '+'].isPrefixOf (cs ++ clause) = ['/', '*', '+'].isPrefixOf cs :=
    isPrefixOf_append rfl (hclause.not_mem (by decide)) cs
  have hcomment : ['/', '*'].isPrefixOf (cs ++ clause) = ['/', '*'].isPrefixOf cs :=
    isPrefixOf_append rfl (hclause.not_mem (by decide)) cs
  have hcloses : ['*', '/'].getLast? = some '/' := rfl
  have hmark : ∀ d ∈ clause.head?,
      isWord d = false ∧ Pattern.isNameStartOrLine d = false ∧ d ≠ '$' := by
    obtain ⟨more, rfl⟩ := hclause.begins
    intro d hd
    obtain rfl := Option.mem_some_iff.1 hd
    decide
  rw [quotation?_eq, quotation?_eq, hhint, hcomment, dollarMark?_append hmark]
  split_ifs with hishint hiscomment hleft
  · rw [quotationLength?_append hcloses hslash
      (List.isPrefixOf_iff_prefix.1 hishint)]
  · rw [quotationLength?_append hcloses hslash
      (List.isPrefixOf_iff_prefix.1 hiscomment)]
  · rfl
  · cases hmark : dollarMark? cs with
    | none => rfl
    | some mark =>
      obtain ⟨hopening, hlast⟩ := dollarMark?_eq_some hmark
      rw [Option.bind_some, Option.bind_some,
        quotationLength?_append hlast hdollar hopening]

/-! ### Tokens -/

theorem firstRule?_le {left : Option Char} {cs : List Char} {kind : TokenKind} {n : Nat}
    (h : firstRule? left cs = some (kind, n)) : n ≤ cs.length := by
  rw [firstRule?_eq] at h
  obtain ⟨rule, -, hread⟩ := List.exists_of_findSome?_eq_some h
  obtain ⟨size, hsize, hn⟩ := Option.map_eq_some_iff.1 hread
  obtain ⟨-, rfl⟩ := Prod.mk.inj hn
  exact Pattern.length?_le hsize

theorem tokenAt_le (left : Option Char) {cs : List Char} (hne : cs ≠ []) :
    max 1 (tokenAt left cs).2 ≤ cs.length := by
  have hpos := List.length_pos_iff.2 hne
  refine max_le hpos ?_
  unfold tokenAt
  cases hquotation : quotation? left cs with
  | some found => exact quotation?_le hquotation
  | none =>
    cases hrule : firstRule? left cs with
    | some found => exact firstRule?_le hrule
    | none => exact hpos

theorem tokenAt_append (hclause : IsClause clause) (left : Option Char) {cs : List Char}
    (hne : cs ≠ []) :
    tokenAt left (cs ++ clause) = tokenAt left cs ∨
      ∃ kind ∈ lineKinds, tokenAt left cs = (kind, cs.length) ∧
        tokenAt left (cs ++ clause) = (kind, cs.length + 1) := by
  unfold tokenAt
  rw [quotation?_append hclause]
  cases quotation? left cs with
  | some found => exact .inl rfl
  | none =>
    rcases firstRule?_append hclause left hne with h | ⟨kind, hkind, hhere, hthere⟩
    · exact .inl (by rw [h])
    · exact .inr ⟨kind, hkind, by rw [hhere]; rfl, by rw [hthere]; rfl⟩

end

end SemanticLayer.Sql
