import Mathlib.Data.List.Infix
import SemanticLayer.Proofs.Sql.Reading

/-!
Reading where more text follows. What a pattern may start and end with, and what may stand next to
each other in its texts, is found from the pattern alone; it shows that most patterns cannot read
from a text into a clause on a new line that follows it. Such a pattern ends at the same places with
the clause and without it.
-/

namespace SemanticLayer.Sql

open Text

namespace Pattern

/-! ### What a pattern may read -/

/-- The texts of the pattern may start with the character. -/
def mayStart : Pattern → Char → Bool
  | .one accepts, c | .run accepts, c => accepts c
  | .quoted _ _, _ => true
  | .seq first second, c => first.mayStart c || !first.isProductive && second.mayStart c
  | .either first second, c => first.mayStart c || second.mayStart c
  | .optional body, c => body.mayStart c
  | _, _ => false

/-- The texts of the pattern may end with the character. -/
def mayEnd : Pattern → Char → Bool
  | .one accepts, c | .run accepts, c => accepts c
  | .quoted quote _, c => c == quote
  | .seq first second, c => second.mayEnd c || !second.isProductive && first.mayEnd c
  | .either first second, c => first.mayEnd c || second.mayEnd c
  | .optional body, c => body.mayEnd c
  | _, _ => false

/-- In the texts of the pattern, the second character may follow the first one. -/
def mayJoin : Pattern → Char → Char → Bool
  | .run accepts, c, d => accepts c && accepts d
  | .quoted _ _, _, _ => true
  | .seq first second, c, d =>
    first.mayJoin c d || second.mayJoin c d || first.mayEnd c && second.mayStart d
  | .either first second, c, d => first.mayJoin c d || second.mayJoin c d
  | .optional body, c, d => body.mayJoin c d
  | _, _, _ => false

variable {pattern : Pattern} {cs : List Char}

theorem isProductive_eq_false (h : pattern.Reads []) : pattern.isProductive = false := by
  rw [← Bool.not_eq_true]
  exact fun hproductive => h.ne_nil hproductive rfl

theorem Reads.mayStart {c : Char} (h : pattern.Reads (c :: cs)) : pattern.mayStart c = true := by
  induction pattern generalizing cs with
  | one =>
    obtain ⟨d, hd, hcs⟩ := h
    obtain ⟨rfl, -⟩ := List.cons.inj hcs
    exact hd
  | run => exact h c List.mem_cons_self
  | quoted => rfl
  | seq first second ihfirst ihsecond =>
    obtain ⟨_ | ⟨d, one⟩, two, hone, htwo, hcs⟩ := h
    · subst hcs
      simp [Pattern.mayStart, isProductive_eq_false hone, ihsecond htwo]
    · obtain ⟨rfl, -⟩ := List.cons.inj hcs
      simp [Pattern.mayStart, ihfirst hone]
  | either first second ihfirst ihsecond =>
    rcases h with h | h
    · simp [Pattern.mayStart, ihfirst h]
    · simp [Pattern.mayStart, ihsecond h]
  | optional body ih => exact ih (h.resolve_right (List.cons_ne_nil _ _))
  | ahead | notAhead | behind | notBehind | wordBoundary | finish => cases h

theorem Reads.mayEnd {c : Char} (h : pattern.Reads (cs ++ [c])) : pattern.mayEnd c = true := by
  induction pattern generalizing cs with
  | one =>
    obtain ⟨d, hd, hcs⟩ := h
    have hsingle : cs ++ [c] = [] ++ [d] := hcs
    obtain ⟨-, hc⟩ := List.append_inj' hsingle rfl
    obtain rfl : c = d := by simpa using hc
    exact hd
  | run => exact h c (by simp)
  | quoted quote => simpa [Reads, Pattern.mayEnd] using h
  | seq first second ihfirst ihsecond =>
    obtain ⟨one, two, hone, htwo, hcs⟩ := h
    rcases List.eq_nil_or_concat two with rfl | ⟨rest, d, rfl⟩
    · rw [List.append_nil] at hcs
      subst hcs
      simp [Pattern.mayEnd, isProductive_eq_false htwo, ihfirst hone]
    · rw [List.concat_eq_append] at *
      rw [← List.append_assoc] at hcs
      obtain ⟨-, hc⟩ := List.append_inj' hcs rfl
      obtain rfl : c = d := by simpa using hc
      simp [Pattern.mayEnd, ihsecond htwo]
  | either first second ihfirst ihsecond =>
    rcases h with h | h
    · simp [Pattern.mayEnd, ihfirst h]
    · simp [Pattern.mayEnd, ihsecond h]
  | optional body ih => exact ih (h.resolve_right (by simp))
  | ahead | notAhead | behind | notBehind | wordBoundary | finish =>
    exact absurd h (by simp [Reads])

theorem Reads.mayJoin {before after : List Char} {c d : Char}
    (h : pattern.Reads (before ++ c :: d :: after)) : pattern.mayJoin c d = true := by
  induction pattern generalizing before after with
  | one =>
    obtain ⟨e, he, hcs⟩ := h
    exact absurd (congrArg List.length hcs) (by simp; omega)
  | run => simp [Pattern.mayJoin, h c (by simp), h d (by simp)]
  | quoted => rfl
  | seq first second ihfirst ihsecond =>
    obtain ⟨one, two, hone, htwo, hcs⟩ := h
    -- The two characters stand in the first part, in the second one, or where the parts meet.
    rcases List.append_eq_append_iff.1 hcs with ⟨_ | ⟨e, middle⟩, rfl, hsecond⟩ | ⟨middle, rfl, rfl⟩
    · rw [List.nil_append] at hsecond
      subst hsecond
      have hreads : second.Reads ([] ++ c :: d :: after) := htwo
      simp [Pattern.mayJoin, ihsecond hreads]
    · obtain ⟨rfl, hrest⟩ := List.cons.inj hsecond
      cases middle with
      | nil =>
        obtain rfl : d :: after = two := hrest
        simp [Pattern.mayJoin, hone.mayEnd, htwo.mayStart]
      | cons e middle =>
        obtain ⟨rfl, -⟩ := List.cons.inj hrest
        simp [Pattern.mayJoin, ihfirst hone]
    · simp [Pattern.mayJoin, ihsecond htwo]
  | either first second ihfirst ihsecond =>
    rcases h with h | h
    · simp [Pattern.mayJoin, ihfirst h]
    · simp [Pattern.mayJoin, ihsecond h]
  | optional body ih => exact ih (h.resolve_right (by simp))
  | ahead | notAhead | behind | notBehind | wordBoundary | finish =>
    exact absurd h (by simp [Reads])

/-! ### Clauses on a line of their own -/

/-- The characters of a clause, after its line break. -/
def clauseMarks : List Char := "LIMIT -0123456789".toList

end Pattern

/-- A clause on a line of its own. -/
structure IsClause (clause : List Char) : Prop where
  begins : ['\n', 'L', 'I'] <+: clause
  marks : ∀ c ∈ clause.tail, c ∈ Pattern.clauseMarks

theorem IsClause.mem_marks {clause : List Char} (h : IsClause clause) {c : Char} (hc : c ∈ clause) :
    c ∈ '\n' :: Pattern.clauseMarks := by
  obtain ⟨rest, rfl⟩ := h.begins
  rcases List.mem_cons.1 hc with rfl | hc
  · exact List.mem_cons_self
  · exact List.mem_cons_of_mem _ (h.marks c hc)

theorem IsClause.not_mem {clause : List Char} (h : IsClause clause) {c : Char}
    (hc : c ∉ '\n' :: Pattern.clauseMarks) : c ∉ clause :=
  fun hmem => hc (h.mem_marks hmem)

namespace Pattern

variable {pattern : Pattern} {cs : List Char}

/-- The pattern may read beyond the end of a text, into a clause that follows it. -/
def crosses (pattern : Pattern) : Bool :=
  pattern.mayEnd '\n' ||
    pattern.mayJoin '\n' 'L' &&
      (pattern.mayEnd 'L' || pattern.mayJoin 'L' 'I' && clauseMarks.any pattern.mayEnd)

theorem Reads.crosses {clause before after : List Char} (h : pattern.Reads (before ++ after))
    (hclause : IsClause clause) (hafter : after <+: clause) (hne : after ≠ []) :
    pattern.crosses = true := by
  obtain ⟨rest, hrest⟩ := hclause.begins
  have hmarks := hclause.marks
  rw [← hrest] at hafter hmarks
  obtain ⟨c, after, rfl⟩ := List.exists_cons_of_ne_nil hne
  obtain ⟨rfl, hletters⟩ := List.cons_prefix_cons.1 hafter
  clear hafter hne
  rw [Pattern.crosses, Bool.or_eq_true, Bool.and_eq_true, Bool.or_eq_true, Bool.and_eq_true]
  rcases after with _ | ⟨c, after⟩
  · exact .inl h.mayEnd
  obtain ⟨rfl, hletter⟩ := List.cons_prefix_cons.1 hletters
  clear hletters
  refine .inr ⟨h.mayJoin, ?_⟩
  rcases after with _ | ⟨c, after⟩
  · have hreads : pattern.Reads (before ++ ['\n'] ++ ['L']) := by simpa using h
    exact .inl hreads.mayEnd
  obtain ⟨rfl, hafter⟩ := List.cons_prefix_cons.1 hletter
  have hreads : pattern.Reads (before ++ ['\n'] ++ 'L' :: 'I' :: after) := by simpa using h
  refine .inr ⟨hreads.mayJoin, ?_⟩
  -- Whatever of the clause is read, it ends with one of the characters of the clause.
  obtain ⟨init, last, hlast⟩ := List.eq_nil_or_concat' ('I' :: after) |>.resolve_left (by simp)
  have hends : pattern.Reads (before ++ ['\n', 'L'] ++ init ++ [last]) := by simpa [hlast] using h
  rw [List.any_eq_true]
  refine ⟨last, hmarks last ?_, hends.mayEnd⟩
  have hmem : last ∈ 'I' :: after := by simp [hlast]
  rcases List.mem_cons.1 hmem with rfl | hmem
  · simp
  · have hrest : last ∈ rest := hafter.subset hmem
    simp [hrest]

theorem not_reads_of_not_crosses {clause : List Char} (hclause : IsClause clause)
    (h : pattern.crosses = false) (cs : List Char) :
    ∀ after, after <+: clause → after ≠ [] → ¬pattern.Reads (cs ++ after) :=
  fun _ hafter hne hreads => absurd (hreads.crosses hclause hafter hne) (by simp [h])

/-- Whether the pattern goes on or not at the end of a text does not depend on what follows there. -/
def SettledBefore (clause : List Char) : Pattern → Prop
  | .quoted quote _ => ∀ c ∈ clause.head?, c ≠ quote
  | .seq first second | .either first second =>
    first.SettledBefore clause ∧ second.SettledBefore clause
  | .optional body => body.SettledBefore clause
  | .ahead body | .notAhead body =>
    body.SettledBefore clause ∧
      ∀ cs after, after <+: clause → after ≠ [] → ¬body.Reads (cs ++ after)
  | .wordBoundary => ∀ c ∈ clause.head?, isWord c = false
  | .finish => False
  | _ => True

/-- Whether the pattern goes on or not at the end of a text does not depend on a clause after it. -/
def isSettled : Pattern → Bool
  | .quoted quote _ => quote != '\n'
  | .seq first second | .either first second => first.isSettled && second.isSettled
  | .optional body => body.isSettled
  | .ahead body | .notAhead body => body.isSettled && !body.crosses
  | .finish => false
  | _ => true

theorem settledBefore_of_isSettled {clause : List Char} (hclause : IsClause clause)
    (h : pattern.isSettled = true) : pattern.SettledBefore clause := by
  have hhead : ∀ c ∈ clause.head?, c = '\n' := by
    obtain ⟨rest, rfl⟩ := hclause.begins
    exact fun c hc => (Option.some.inj hc).symm
  induction pattern with
  | quoted quote =>
    intro c hc
    rw [hhead c hc]
    exact Ne.symm (by simpa [isSettled] using h)
  | seq first second ihfirst ihsecond | either first second ihfirst ihsecond =>
    obtain ⟨hfirst, hsecond⟩ := Bool.and_eq_true_iff.1 h
    exact ⟨ihfirst hfirst, ihsecond hsecond⟩
  | optional body ih => exact ih h
  | ahead body ih | notAhead body ih =>
    obtain ⟨hbody, hcrosses⟩ := Bool.and_eq_true_iff.1 h
    exact ⟨ih hbody, not_reads_of_not_crosses hclause (by simpa using hcrosses)⟩
  | wordBoundary =>
    intro c hc
    rw [hhead c hc]
    decide
  | finish => cases h
  | one | run | behind | notBehind => exact trivial

end Pattern

/-! ### Places with more text to the right -/

/-- The place, with more text to the right. -/
def Place.extend (place : Place) (more : List Char) : Place :=
  { place with right := place.right ++ more }

/-- The place is not inside the text that was added. -/
def Place.isWithin (more : List Char) (place : Place) : Bool :=
  more.length ≤ place.right.length

section

variable {clause : List Char}

theorem isWithin_extend (place : Place) : (place.extend clause).isWithin clause = true := by
  simp [Place.isWithin, Place.extend]

theorem filter_singleton_extend (place : Place) :
    [place.extend clause].filter (·.isWithin clause) = [place.extend clause] :=
  List.filter_cons_of_pos (isWithin_extend place)

/-- What is read from a place beyond the text is still beyond it. -/
theorem Place.Reaches.not_isWithin {place last : Place} {cs : List Char} (h : place.Reaches cs last)
    (hplace : place.isWithin clause = false) : last.isWithin clause = false := by
  have hlength := congrArg List.length h.right_eq
  simp only [Place.isWithin, List.length_append, decide_eq_false_iff_not] at hplace hlength ⊢
  omega

theorem filter_ends_eq_nil {pattern : Pattern} {place : Place}
    (hplace : place.isWithin clause = false) :
    (pattern.ends place).filter (·.isWithin clause) = [] := by
  rw [List.filter_eq_nil_iff]
  intro last hlast
  obtain ⟨cs, hreaches, -⟩ := Pattern.reaches_of_mem_ends hlast
  simp [hreaches.not_isWithin hplace]

/-- What is not within the text after one part is not within it after the next part. -/
theorem filter_flatMap_ends (pattern : Pattern) (places : List Place) :
    (places.flatMap pattern.ends).filter (·.isWithin clause) =
      (places.filter (·.isWithin clause)).flatMap
        fun middle => (pattern.ends middle).filter (·.isWithin clause) := by
  induction places with
  | nil => rfl
  | cons middle rest ih =>
    rw [List.flatMap_cons, List.filter_append, ih]
    cases hmiddle : middle.isWithin clause with
    | true => rw [List.filter_cons_of_pos hmiddle, List.flatMap_cons]
    | false =>
      rw [List.filter_cons_of_neg (by simp [hmiddle]), filter_ends_eq_nil hmiddle,
        List.nil_append]

/-- One character more than the text has is beyond the text. -/
theorem filter_ends_one_nil (accepts : Char → Bool) {place : Place} (h : place.right = []) :
    ((Pattern.one accepts).ends (place.extend clause)).filter (·.isWithin clause) = [] := by
  rw [List.filter_eq_nil_iff]
  intro last hlast
  obtain ⟨cs, hreaches, c, -, rfl⟩ := Pattern.reaches_of_mem_ends hlast
  have hlength := congrArg List.length hreaches.right_eq
  simp only [Place.extend, h, List.nil_append, List.length_append, List.length_singleton] at hlength
  simp only [Place.isWithin, decide_eq_true_eq]
  omega

/-- Where what follows starts with no word character, it is to a boundary of words as the end of the
text is. -/
theorem isWordBoundary_extend (h : ∀ d ∈ clause.head?, isWord d = false) (place : Place) :
    (place.extend clause).isWordBoundary = place.isWordBoundary := by
  obtain ⟨left, right, taken⟩ := place
  cases right with
  | nil =>
    cases clause with
    | nil => rfl
    | cons d rest => simp [Place.isWordBoundary, Place.extend, h d rfl]
  | cons c right => rfl

/-- The places within the text at which a run may end are not affected by what follows. -/
theorem filter_runs_extend (accepts : Char → Bool) (place : Place) :
    ((place.extend clause).runs accepts).filter (·.isWithin clause) =
      (place.runs accepts).map (·.extend clause) := by
  have hgo : ∀ right (place : Place) found, place.right = right →
      (Place.runs.go accepts (right ++ clause) (place.extend clause)
        (found.map (·.extend clause))).filter (·.isWithin clause) =
        (Place.runs.go accepts right place found).map (·.extend clause) := by
    intro right
    induction right with
    | nil =>
      intro place found hright
      -- All that is found from here on is beyond the text.
      have hbeyond : ∀ right (place : Place) found, right.length ≤ clause.length →
          (Place.runs.go accepts right place found).filter (·.isWithin clause) =
            found.filter (·.isWithin clause) := by
        intro right
        induction right with
        | nil => exact fun _ _ _ => rfl
        | cons c rest ih =>
          intro place found hlength
          rw [List.length_cons] at hlength
          rw [Place.runs.go]
          split
          · rw [ih _ _ (by omega), List.filter_cons_of_neg]
            change ¬decide (clause.length ≤ rest.length) = true
            rw [decide_eq_true_eq]
            omega
          · rfl
      rw [List.nil_append, hbeyond _ _ _ le_rfl, Place.runs.go]
      exact List.filter_eq_self.2 fun last hlast => by
        obtain ⟨before, -, rfl⟩ := List.mem_map.1 hlast
        exact isWithin_extend before
    | cons c rest ih =>
      intro place found hright
      rw [List.cons_append, Place.runs.go, Place.runs.go]
      split
      · exact ih (place.step c rest) (place.step c rest :: found) rfl
      · exact List.filter_eq_self.2 fun last hlast => by
          obtain ⟨before, -, rfl⟩ := List.mem_map.1 hlast
          exact isWithin_extend before
  exact hgo place.right place [place] rfl

/-- A quote with no quote after it is the closing one. -/
theorem quotedEnds_cons {quote : Char} (hquote : ∀ d ∈ clause.head?, d ≠ quote) (escapes : Bool)
    (c : Char) (taken : Nat) : quotedEnds quote escapes (c :: clause) taken =
      if c == quote then [⟨some c, clause, taken + 1⟩]
      else quotedEnds quote escapes clause (taken + 1) := by
  cases clause with
  | nil => rfl
  | cons d rest =>
    have hd : ¬(d == quote) = true := by simpa using hquote d rfl
    have hescaped : ¬(escapes && c == '\\' && d == quote) = true := by simp [hd]
    rw [quotedEnds, if_neg hd, if_neg hescaped]

theorem filter_quotedEnds_append {quote : Char} (hquote : ∀ c ∈ clause.head?, c ≠ quote)
    (escapes : Bool) (cs : List Char) (taken : Nat) :
    (quotedEnds quote escapes (cs ++ clause) taken).filter (·.isWithin clause) =
      (quotedEnds quote escapes cs taken).map (·.extend clause) := by
  have hbeyond : ∀ taken, (quotedEnds quote escapes clause taken).filter (·.isWithin clause) = [] := by
    intro taken
    rw [List.filter_eq_nil_iff]
    intro last hlast
    obtain ⟨read, hreaches, hlast⟩ := reaches_of_mem_quotedEnds none hlast
    have hlength := congrArg List.length hreaches.right_eq
    have hread : read ≠ [] := by
      rintro rfl
      cases hlast
    have hpos := List.length_pos_iff.2 hread
    simp only [Place.isWithin, List.length_append, decide_eq_true_eq] at hlength ⊢
    omega
  fun_induction quotedEnds quote escapes cs taken with
  | case1 => exact hbeyond _
  | case2 c taken hc =>
    rw [List.singleton_append, quotedEnds_cons hquote, if_pos hc]
    exact filter_singleton_extend ⟨some c, [], taken + 1⟩
  | case3 c taken hc =>
    rw [List.singleton_append, quotedEnds_cons hquote, if_neg hc]
    exact hbeyond _
  | case4 c d more taken hc hd ih =>
    change (quotedEnds quote escapes (c :: d :: (more ++ _)) taken).filter _ = _
    rw [quotedEnds, if_pos hc, if_pos hd, List.filter_append, ih, List.map_append]
    exact congrArg _ (filter_singleton_extend ⟨some c, d :: more, taken + 1⟩)
  | case5 c d more taken hc hd =>
    change (quotedEnds quote escapes (c :: d :: (more ++ _)) taken).filter _ = _
    rw [quotedEnds, if_pos hc, if_neg hd]
    exact filter_singleton_extend ⟨some c, d :: more, taken + 1⟩
  | case6 c d more taken hc hescaped ihlong ihshort =>
    change (quotedEnds quote escapes (c :: d :: (more ++ _)) taken).filter _ = _
    rw [quotedEnds, if_neg hc, if_pos hescaped, List.filter_append, ihlong, List.map_append]
    exact congrArg _ ihshort
  | case7 c d more taken hc hescaped ih =>
    change (quotedEnds quote escapes (c :: d :: (more ++ _)) taken).filter _ = _
    rw [quotedEnds, if_neg hc, if_neg hescaped]
    exact ih

namespace Pattern

variable {pattern : Pattern}

/-- Where no reading of the pattern goes beyond the text, its ends are all within the text. -/
theorem filter_ends_eq_self {place : Place}
    (hwithin : ∀ after, after <+: clause → after ≠ [] → ¬pattern.Reads (place.right ++ after)) :
    (pattern.ends (place.extend clause)).filter (·.isWithin clause) =
      pattern.ends (place.extend clause) := by
  rw [List.filter_eq_self]
  intro last hlast
  obtain ⟨cs, ⟨hright, -⟩, hreads⟩ := reaches_of_mem_ends hlast
  rcases List.append_eq_append_iff.1 hright with ⟨after, rfl, hclause⟩ | ⟨rest, -, hlast⟩
  · cases after with
    | nil => simp [Place.isWithin, hclause]
    | cons c after => exact absurd hreads (hwithin _ ⟨_, hclause.symm⟩ (List.cons_ne_nil _ _))
  · simp [Place.isWithin, hlast]

/-- A pattern that is not read into what follows is found with that just if it is found without. -/
theorem isEmpty_ends_extend {place : Place}
    (hwithin : ∀ after, after <+: clause → after ≠ [] → ¬pattern.Reads (place.right ++ after))
    (hends : (pattern.ends (place.extend clause)).filter (·.isWithin clause) =
      (pattern.ends place).map (·.extend clause)) :
    (pattern.ends (place.extend clause)).isEmpty = (pattern.ends place).isEmpty := by
  rw [filter_ends_eq_self hwithin] at hends
  rw [hends, List.isEmpty_map]

/-- The places within the text at which a settled pattern may end are not affected by what follows
it. -/
theorem filter_ends_extend (h : pattern.SettledBefore clause) (place : Place) :
    (pattern.ends (place.extend clause)).filter (·.isWithin clause) =
      (pattern.ends place).map (·.extend clause) := by
  induction pattern generalizing place with
  | one accepts =>
    obtain ⟨left, right, taken⟩ := place
    cases right with
    | nil => exact filter_ends_one_nil accepts rfl
    | cons c rest =>
      change List.filter _ (if accepts c then _ else _) = List.map _ (if accepts c then _ else _)
      split
      · exact filter_singleton_extend ((⟨left, c :: rest, taken⟩ : Place).step c rest)
      · rfl
  | run accepts => exact filter_runs_extend accepts place
  | quoted quote escapes => exact filter_quotedEnds_append h escapes place.right place.taken
  | seq first second ihfirst ihsecond =>
    obtain ⟨hfirst, hsecond⟩ := h
    rw [ends, ends, filter_flatMap_ends, ihfirst hfirst, List.flatMap_map, List.map_flatMap]
    exact congrArg (List.flatMap · _) (funext fun middle => ihsecond hsecond middle)
  | either first second ihfirst ihsecond =>
    obtain ⟨hfirst, hsecond⟩ := h
    rw [ends, ends, List.filter_append, List.map_append, ihfirst hfirst, ihsecond hsecond]
  | optional body ih =>
    rw [ends, ends, List.filter_append, List.map_append, ih h, filter_singleton_extend]
    rfl
  | ahead body ih | notAhead body ih =>
    obtain ⟨hbody, hstays⟩ := h
    rw [ends, ends, isEmpty_ends_extend (hstays _) (ih hbody place)]
    split
    all_goals first | rfl | exact filter_singleton_extend place
  | behind accepts | notBehind accepts =>
    rw [ends, ends]
    change List.filter _ (if place.left.any accepts then _ else _) = _
    split
    all_goals first | rfl | exact filter_singleton_extend place
  | wordBoundary =>
    rw [ends, ends, isWordBoundary_extend h]
    split
    · exact filter_singleton_extend place
    · rfl
  | finish => cases h

/-- A pattern that reads nothing beyond the text ends at the same places with what follows it. -/
theorem ends_extend (h : pattern.SettledBefore clause) (place : Place)
    (hwithin : ∀ after, after <+: clause → after ≠ [] → ¬pattern.Reads (place.right ++ after)) :
    pattern.ends (place.extend clause) = (pattern.ends place).map (·.extend clause) :=
  (filter_ends_eq_self hwithin).symm.trans (filter_ends_extend h place)

end Pattern

end

end SemanticLayer.Sql
