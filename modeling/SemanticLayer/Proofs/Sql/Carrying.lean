import SemanticLayer.Proofs.Sql.Appending
import SemanticLayer.Proofs.Sql.WriteKeyword

/-!
Texts in which a count is replaced by another one. What is read before the count does not depend on
it: most patterns end before it, and those that can read beyond it, such as comments and names in
quotes, look for a closing mark that no count has.
-/

namespace SemanticLayer.Sql

open Text Pattern

/-! ### What stands before a count -/

/-- What may stand directly before a count: a blank, or the end of a comment. -/
def isBarrier (c : Char) : Bool :=
  isBlank c || c == '/'

def barriers : List Char :=
  [47, 9, 10, 11, 12, 13, 28, 29, 30, 31, 32, 133, 160, 5760, 8192, 8193, 8194, 8195, 8196, 8197,
    8198, 8199, 8200, 8201, 8202, 8232, 8233, 8239, 8287, 12288].map Char.ofNat

theorem mem_barriers {c : Char} (h : isBarrier c = true) : c ∈ barriers := by
  have hcodes : barriers = ([47] ++ List.range' 9 5 ++ List.range' 28 5 ++ [133, 160, 5760] ++
      List.range' 8192 11 ++ [8232, 8233, 8239, 8287, 12288]).map Char.ofNat := rfl
  rw [hcodes]
  refine List.mem_map.2 ⟨c.toNat, ?_, Char.ofNat_toNat c⟩
  rcases Bool.or_eq_true_iff.1 h with h | h
  · simp only [isBlank, Bool.or_eq_true, Bool.and_eq_true, decide_eq_true_eq, beq_iff_eq] at h
    simp only [List.mem_append, List.mem_range'_1, List.mem_cons, List.not_mem_nil, or_false]
    omega
  · obtain rfl := beq_iff_eq.1 h
    decide

theorem isWord_of_isBarrier {c : Char} (h : isBarrier c = true) : isWord c = false := by
  rcases Bool.or_eq_true_iff.1 h with h | h
  · exact isWord_of_isBlank h
  · obtain rfl := beq_iff_eq.1 h
    decide

namespace Pattern

variable {pattern : Pattern} {c d : Char}

/-- The pattern is one character of a class that the given one is not of. -/
def refuses (c : Char) : Pattern → Bool
  | .one accepts => !accepts c
  | _ => false

/-- Whether the pattern goes on or not before the character, which is no word character, does not
depend on what follows that. -/
def isSettledAt (pattern : Pattern) (c : Char) : Bool :=
  match pattern with
  | .quoted quote _ => quote != c
  | .seq first second | .either first second => first.isSettledAt c && second.isSettledAt c
  | .optional body => body.isSettledAt c
  | .ahead body | .notAhead body => body.refuses c
  | .finish => false
  | .one _ | .run _ | .behind _ | .notBehind _ | .wordBoundary => true

theorem settledBefore_of_refuses {rest : List Char} (h : pattern.refuses c = true) :
    pattern.SettledBefore (c :: rest) ∧
      ∀ cs after, after <+: c :: rest → after ≠ [] → ¬pattern.Reads (cs ++ after) := by
  cases pattern with
  | one accepts =>
    refine ⟨trivial, ?_⟩
    rintro cs (_ | ⟨d, after⟩) hafter hne ⟨e, he, hread⟩
    · exact hne rfl
    obtain ⟨rfl, -⟩ := List.cons_prefix_cons.1 hafter
    cases cs with
    | nil =>
      obtain ⟨rfl, -⟩ := List.cons.inj hread
      simp [refuses, he] at h
    | cons => simp at hread
  | _ => cases h

theorem settledBefore_of_isSettledAt (hc : isWord c = false) (rest : List Char)
    (h : pattern.isSettledAt c = true) : pattern.SettledBefore (c :: rest) := by
  induction pattern with
  | quoted quote =>
    intro d hd
    obtain rfl := Option.mem_some_iff.1 hd
    exact Ne.symm (by simpa [isSettledAt] using h)
  | seq first second ihfirst ihsecond | either first second ihfirst ihsecond =>
    obtain ⟨hfirst, hsecond⟩ := Bool.and_eq_true_iff.1 h
    exact ⟨ihfirst hfirst, ihsecond hsecond⟩
  | optional body ih => exact ih h
  | ahead | notAhead => exact settledBefore_of_refuses h
  | wordBoundary =>
    intro d hd
    obtain rfl := Option.mem_some_iff.1 hd
    exact hc
  | finish => cases h
  | one | run | behind | notBehind => exact trivial

/-- In the texts of the pattern, one of the second characters may follow one of the first ones. -/
def mayJoinAny (cs ds : List Char) : Pattern → Bool
  | .run accepts => cs.any accepts && ds.any accepts
  | .quoted _ _ => true
  | .seq first second =>
    first.mayJoinAny cs ds || second.mayJoinAny cs ds ||
      ds.any second.mayStart && cs.any first.mayEnd
  | .either first second => first.mayJoinAny cs ds || second.mayJoinAny cs ds
  | .optional body => body.mayJoinAny cs ds
  | _ => false

theorem mayJoinAny_of_mayJoin {cs ds : List Char} (hc : c ∈ cs) (hd : d ∈ ds)
    (h : pattern.mayJoin c d = true) : pattern.mayJoinAny cs ds = true := by
  have hany : ∀ {accepts : Char → Bool} {e : Char} {es : List Char}, e ∈ es → accepts e = true →
      es.any accepts = true := fun he haccepts => List.any_eq_true.2 ⟨_, he, haccepts⟩
  induction pattern with
  | run accepts =>
    rw [mayJoin, Bool.and_eq_true] at h
    rw [mayJoinAny, hany hc h.1, hany hd h.2, Bool.and_self]
  | quoted => rfl
  | seq first second ihfirst ihsecond =>
    simp only [mayJoin, Bool.or_eq_true, Bool.and_eq_true] at h
    simp only [mayJoinAny, Bool.or_eq_true, Bool.and_eq_true]
    exact h.imp (Or.imp ihfirst ihsecond) fun h => ⟨hany hd h.2, hany hc h.1⟩
  | either first second ihfirst ihsecond =>
    rw [mayJoin, Bool.or_eq_true] at h
    rw [mayJoinAny, Bool.or_eq_true]
    exact h.imp ihfirst ihsecond
  | optional body ih => exact ih h
  | one | ahead | notAhead | behind | notBehind | wordBoundary | finish => cases h

/-- The pattern reads nothing that ends with the character or goes on after it. -/
theorem not_reads_of_not_mayJoin (hend : pattern.mayEnd c = false) (hjoin : pattern.mayJoin c d = false)
    (rest cs : List Char) :
    ∀ after, after <+: c :: d :: rest → after ≠ [] → ¬pattern.Reads (cs ++ after) := by
  rintro (_ | ⟨e, _ | ⟨f, after⟩⟩) hafter hne hreads
  · exact hne rfl
  · obtain ⟨rfl, -⟩ := List.cons_prefix_cons.1 hafter
    exact absurd hreads.mayEnd (by simp [hend])
  · obtain ⟨rfl, hrest⟩ := List.cons_prefix_cons.1 hafter
    obtain ⟨rfl, -⟩ := List.cons_prefix_cons.1 hrest
    exact absurd hreads.mayJoin (by simp [hjoin])

end Pattern

/-! ### Readings that are the same -/

section

variable {here there : List Char} {pattern : Pattern} {place : Place}

theorem Place.extend_inj {one two : Place} {more : List Char}
    (h : one.extend more = two.extend more) : one = two := by
  obtain ⟨left, right, taken⟩ := one
  obtain ⟨otherLeft, otherRight, otherTaken⟩ := two
  simpa [Place.extend] using h

/-- Of the places found where the one text follows, the first is found with the other one as well, if
it stands before that text; and where nothing was found, nothing is. -/
structure CarriesTo (here there : List Char) (olds news : List Place) : Prop where
  nothing : olds = [] → news = []
  first : ∀ last : Place, olds.head? = some (last.extend here) →
    news.head? = some (last.extend there)

namespace CarriesTo

theorem map (places : List Place) : CarriesTo here there (places.map (·.extend here))
    (places.map (·.extend there)) := by
  cases places with
  | nil => exact ⟨fun _ => rfl, fun last h => by cases h⟩
  | cons place places =>
    refine ⟨fun h => absurd h (List.cons_ne_nil _ _), fun last h => ?_⟩
    rw [List.map_cons, List.head?_cons, Place.extend_inj (Option.some.inj h)]

/-- Places within what follows do not count. -/
theorem beyond {olds : List Place} (h : ∀ old ∈ olds, old.isWithin here = false)
    (news : List Place) (hnothing : olds = [] → news = []) : CarriesTo here there olds news := by
  refine ⟨hnothing, fun last hlast => ?_⟩
  have hbeyond := h _ (List.mem_of_mem_head? hlast)
  rw [isWithin_extend] at hbeyond
  cases hbeyond

theorem append {olds news others more : List Place} (h : CarriesTo here there olds news)
    (hother : CarriesTo here there others more) :
    CarriesTo here there (olds ++ others) (news ++ more) := by
  constructor
  · intro hnothing
    obtain ⟨hone, htwo⟩ := List.append_eq_nil_iff.1 hnothing
    rw [h.nothing hone, hother.nothing htwo, List.append_nil]
  · intro last hlast
    cases olds with
    | nil =>
      rw [h.nothing rfl, List.nil_append]
      exact hother.first last hlast
    | cons old olds => rw [List.head?_append, h.first last hlast, Option.some_or]

theorem of_filter {olds middles : List Place}
    (h : olds.filter (·.isWithin here) = middles.map (·.extend here)) :
    CarriesTo here there olds (middles.map (·.extend there)) := by
  constructor
  · rintro rfl
    rw [List.filter_nil, eq_comm, List.map_eq_nil_iff] at h
    rw [h, List.map_nil]
  · intro last hlast
    obtain ⟨later, rfl⟩ := List.head?_eq_some_iff.1 hlast
    rw [List.filter_cons_of_pos (isWithin_extend last)] at h
    exact (map middles).first last (by rw [← h, List.head?_cons])

end CarriesTo

/-- What the pattern reads where the one text follows is read with the other one too. -/
def Pattern.Carries (here there : List Char) (pattern : Pattern) (place : Place) : Prop :=
  CarriesTo here there (pattern.ends (place.extend here))
    (pattern.ends (place.extend there))

namespace Pattern

/-- A pattern that is settled before both texts carries over if it does not read into the new one. -/
theorem carries_of_settled (hhere : pattern.SettledBefore here)
    (hthere : pattern.SettledBefore there)
    (hwithin : ∀ after, after <+: there → after ≠ [] → ¬pattern.Reads (place.right ++ after)) :
    pattern.Carries here there place := by
  rw [Carries, ends_extend hthere place hwithin]
  exact .of_filter (filter_ends_extend hhere place)

/-- What carries over from some places carries over from all of them in their order. Places within
the old text may stand among them, since they lead to none before it. -/
theorem flatMap_carries (olds middles : List Place)
    (hmiddles : olds.filter (·.isWithin here) = middles.map (·.extend here))
    (hcarries : ∀ middle ∈ middles, pattern.Carries here there middle) :
    CarriesTo here there (olds.flatMap pattern.ends)
      ((middles.map (·.extend there)).flatMap pattern.ends) := by
  induction olds generalizing middles with
  | nil =>
    rw [List.filter_nil, eq_comm, List.map_eq_nil_iff] at hmiddles
    subst hmiddles
    exact .map []
  | cons old olds ih =>
    cases hold : old.isWithin here with
    | true =>
      rw [List.filter_cons_of_pos hold, eq_comm, List.map_eq_cons_iff] at hmiddles
      obtain ⟨middle, others, rfl, rfl, hothers⟩ := hmiddles
      obtain ⟨hmiddle, hrest⟩ := List.forall_mem_cons.1 hcarries
      exact hmiddle.append (ih others hothers.symm hrest)
    | false =>
      rw [List.filter_cons_of_neg (by simp [hold])] at hmiddles
      rw [List.flatMap_cons, ← List.nil_append (List.flatMap _ (middles.map _))]
      refine (CarriesTo.beyond (fun later hlater => ?_) [] fun _ => rfl).append
        (ih middles hmiddles hcarries)
      obtain ⟨cs, hreaches, -⟩ := reaches_of_mem_ends hlater
      exact hreaches.not_isWithin hold

/-- After a part that ends before both texts, the rest has to carry over. -/
theorem carries_seq {first second : Pattern} (hhere : first.SettledBefore here)
    (hthere : first.SettledBefore there)
    (hwithin : ∀ after, after <+: there → after ≠ [] → ¬first.Reads (place.right ++ after))
    (hsecond : ∀ middle ∈ first.ends place, second.Carries here there middle) :
    (first.seq second).Carries here there place := by
  rw [Carries, ends, ends, ends_extend hthere place hwithin]
  exact flatMap_carries _ _ (filter_ends_extend hhere place) hsecond

theorem carries_congr {other : Pattern} (h : ∀ place, pattern.ends place = other.ends place)
    (hother : other.Carries here there place) : pattern.Carries here there place := by
  rwa [Carries, h, h]

end Pattern

end

/-! ### Runs -/

theorem Place.afterRun_eq (accepts : Char → Bool) (place : Place) :
    place.afterRun accepts = ⟨(place.right.takeWhile accepts).getLast?.or place.left,
      place.right.dropWhile accepts, place.taken + (place.right.takeWhile accepts).length⟩ := by
  have hgo : ∀ right (place : Place), place.right = right →
      afterRun.go accepts right place = ⟨(right.takeWhile accepts).getLast?.or place.left,
        right.dropWhile accepts, place.taken + (right.takeWhile accepts).length⟩ := by
    intro right
    induction right with
    | nil =>
      rintro ⟨left, right, taken⟩ rfl
      rfl
    | cons c rest ih =>
      rintro ⟨left, right, taken⟩ rfl
      rw [afterRun.go]
      split
      · rename_i hc
        rw [ih _ rfl, List.takeWhile_cons_of_pos hc, List.dropWhile_cons_of_pos hc]
        simp only [step, List.getLast?_cons, List.length_cons, Place.mk.injEq, true_and]
        refine ⟨?_, by omega⟩
        cases (rest.takeWhile accepts).getLast? <;> rfl
      · rename_i hc
        rw [List.takeWhile_cons_of_neg hc, List.dropWhile_cons_of_neg hc]
        rfl
  exact hgo _ _ rfl

/-- After a run, a pattern that starts with no character of the class is read at the end of it. -/
theorem Place.flatMap_runs {accepts : Char → Bool} {second : Pattern}
    (h : ∀ place : Place, place.right.head?.any accepts = true → second.ends place = [])
    (place : Place) :
    (place.runs accepts).flatMap second.ends = second.ends (place.afterRun accepts) := by
  have hgo : ∀ right (place : Place) found, place.right = right →
      (∀ earlier ∈ found, second.ends earlier = []) →
      (runs.go accepts right place (place :: found)).flatMap second.ends =
        second.ends (afterRun.go accepts right place) := by
    intro right
    induction right with
    | nil =>
      intro place found _ hfound
      rw [runs.go, afterRun.go, List.flatMap_cons, List.flatMap_eq_nil_iff.2 hfound,
        List.append_nil]
    | cons c rest ih =>
      intro place found hright hfound
      rw [runs.go, afterRun.go]
      split
      · rename_i hc
        have hplace : second.ends place = [] := h place (by simp [hright, hc])
        exact ih _ _ rfl (List.forall_mem_cons.2 ⟨hplace, hfound⟩)
      · rw [List.flatMap_cons, List.flatMap_eq_nil_iff.2 hfound, List.append_nil]
  exact hgo _ _ _ rfl (by simp)

theorem Place.afterRun_extend_of_ne_nil {accepts : Char → Bool} {place : Place}
    (h : place.right.dropWhile accepts ≠ []) (more : List Char) :
    (place.extend more).afterRun accepts = (place.afterRun accepts).extend more := by
  have htake : (place.right ++ more).takeWhile accepts = place.right.takeWhile accepts := by
    rw [List.takeWhile_append, if_neg]
    intro hlength
    have hall := (List.takeWhile_prefix accepts).eq_of_length hlength
    rw [List.takeWhile_eq_self_iff] at hall
    exact h (List.dropWhile_eq_nil_iff.2 hall)
  have hdrop : (place.right ++ more).dropWhile accepts = place.right.dropWhile accepts ++ more := by
    rw [List.dropWhile_append, if_neg (by simpa using h)]
  rw [afterRun_eq, afterRun_eq]
  simp only [extend, htake, hdrop]

/-- A run over all that is left goes on through characters of the class. -/
theorem Place.right_afterRun_extend {accepts : Char → Bool} {place : Place} {count : List Char}
    (hall : place.right.dropWhile accepts = []) (hcount : ∀ d ∈ count, accepts d = true)
    (rest : List Char) : ((place.extend (count ++ rest)).afterRun accepts).right =
      rest.dropWhile accepts := by
  rw [afterRun_eq]
  change (place.right ++ (count ++ rest)).dropWhile accepts = _
  rw [List.dropWhile_append_of_pos (List.dropWhile_eq_nil_iff.1 hall),
    List.dropWhile_append_of_pos hcount]

/-- What is read at the end of such a run lies beyond the first of those characters. -/
theorem Pattern.not_isWithin_of_mem_ends_afterRun {pattern : Pattern} {accepts : Char → Bool}
    {place : Place} {count : List Char} (hall : place.right.dropWhile accepts = [])
    (hcount : ∀ d ∈ count, accepts d = true) (hne : count ≠ []) (rest : List Char) :
    ∀ last ∈ pattern.ends ((place.extend (count ++ rest)).afterRun accepts),
      last.isWithin (count ++ rest) = false := by
  intro last hlast
  obtain ⟨cs, hreaches, -⟩ := reaches_of_mem_ends hlast
  have hlength := congrArg List.length hreaches.right_eq
  rw [Place.right_afterRun_extend hall hcount, List.length_append] at hlength
  have hle := (List.dropWhile_suffix (p := accepts) (l := rest)).length_le
  have hpos := List.length_pos_iff.2 hne
  simp only [Place.isWithin, List.length_append, decide_eq_false_iff_not]
  omega

theorem Pattern.ends_char_eq_nil {mark : Char} {place : Place} :
    (Rule.char mark).ends place = [] ↔ mark ∉ place.right.head? := by
  obtain ⟨left, _ | ⟨c, rest⟩, taken⟩ := place <;> simp [Rule.char, ends]

/-- After a run of at least one character, a pattern that starts with no character of the class is
read at the end of the run. -/
theorem Pattern.ends_oneOrMore_seq {accepts : Char → Bool} {second : Pattern}
    (h : ∀ place : Place, place.right.head?.any accepts = true → second.ends place = [])
    (place : Place) : ((oneOrMore accepts).seq second).ends place =
      if place.right.head?.any accepts then second.ends (place.afterRun accepts) else [] := by
  obtain ⟨left, _ | ⟨c, rest⟩, taken⟩ := place
  · rfl
  · rw [ends, oneOrMore, ends, List.flatMap_assoc]
    change (if accepts c then _ else _ : List Place).flatMap _ = _
    cases hc : accepts c with
    | false => simp [hc]
    | true =>
      simp only [if_true, List.flatMap_singleton, List.head?_cons, Option.any_some, hc]
      rw [ends, Place.flatMap_runs h]
      simp only [Place.afterRun, Place.afterRun.go, if_pos hc]
      rfl

/-- A run of at least one character up to a mark that is not of the class ends in one place at
most. -/
theorem Pattern.ends_upTo {accepts : Char → Bool} {mark : Char} (hmark : accepts mark = false)
    (place : Place) : ((oneOrMore accepts).seq (Rule.char mark)).ends place =
      if place.right.head?.any accepts then (Rule.char mark).ends (place.afterRun accepts) else [] := by
  refine ends_oneOrMore_seq ?_ place
  rintro ⟨left, _ | ⟨c, rest⟩, taken⟩ hc
  · rfl
  · have hne : (c == mark) = false := by
      rw [beq_eq_false_iff_ne]
      rintro rfl
      simp [hmark] at hc
    simp [Rule.char, ends, hne]

/-! ### Closing marks -/

/-- A count of word characters after a barrier, and another one of digits in place of it. -/
structure IsReplaced (c : Char) (one two : List Char) : Prop where
  barrier : isBarrier c = true
  one_ne : one ≠ []
  one_isWord : ∀ d ∈ one, isWord d = true
  two_ne : two ≠ []
  two_digit : ∀ d ∈ two, d ∈ "0123456789".toList

namespace IsReplaced

variable {c : Char} {one two : List Char}

theorem two_isWord (h : IsReplaced c one two) : ∀ d ∈ two, isWord d = true :=
  fun d hd => isWord_of_isDecimalDigit (isDecimalDigit_of_mem (h.two_digit d hd))

theorem ne_of_not_isWord {d mark : Char} (hd : isWord d = true) (hmark : isWord mark = false) :
    d ≠ mark := by
  rintro rfl
  simp [hd] at hmark

end IsReplaced

theorem quotedEnds_add (quote : Char) (escapes : Bool) (cs : List Char) (taken more : Nat) :
    quotedEnds quote escapes cs (taken + more) =
      (quotedEnds quote escapes cs taken).map fun place =>
        { place with taken := place.taken + more } := by
  fun_induction quotedEnds quote escapes cs taken with
  | case1 => rfl
  | case2 c taken hc => simp [quotedEnds, hc]; omega
  | case3 c taken hc => simp [quotedEnds, hc]
  | case4 c d rest taken hc hd ih =>
    rw [quotedEnds, if_pos hc, if_pos hd, List.map_append, ← ih, Nat.add_right_comm taken more 2,
      Nat.add_right_comm taken more 1]
    rfl
  | case5 c d rest taken hc hd =>
    rw [quotedEnds, if_pos hc, if_neg hd, Nat.add_right_comm taken more 1]
    rfl
  | case6 c d rest taken hc hescaped ihlong ihshort =>
    rw [quotedEnds, if_neg hc, if_pos hescaped, List.map_append, ← ihlong, ← ihshort,
      Nat.add_right_comm taken more 2, Nat.add_right_comm taken more 1]
  | case7 c d rest taken hc hescaped ih =>
    rw [quotedEnds, if_neg hc, if_neg hescaped, Nat.add_right_comm taken more 1, ih]

/-- Characters that are neither the quote nor a backslash are read on. -/
theorem quotedEnds_plain {quote : Char} {escapes : Bool} {plain : List Char}
    (h : ∀ c ∈ plain, c ≠ quote ∧ c ≠ '\\') (rest : List Char) (taken : Nat) :
    quotedEnds quote escapes (plain ++ rest) taken =
      quotedEnds quote escapes rest (taken + plain.length) := by
  induction plain generalizing taken with
  | nil => rfl
  | cons c plain ih =>
    obtain ⟨⟨hquote, hslash⟩, hplain⟩ := List.forall_mem_cons.1 h
    have hnext : quotedEnds quote escapes (c :: (plain ++ rest)) taken =
        quotedEnds quote escapes (plain ++ rest) (taken + 1) := by
      cases plain ++ rest with
      | nil => simp [quotedEnds, hquote]
      | cons d more => rw [quotedEnds, if_neg (by simpa using hquote), if_neg (by simp [hslash])]
    rw [List.cons_append, hnext, ih hplain, List.length_cons]
    congr 1
    omega

namespace Pattern

variable {c : Char} {one two : List Char}

/-- A quoted text goes on through a count. -/
theorem carries_quoted (h : IsReplaced c one two) {quote : Char} (hquote : isWord quote = false)
    (hc : c ≠ quote ∧ c ≠ '\\') (escapes : Bool) (rest : List Char) (place : Place) :
    (Pattern.quoted quote escapes).Carries (c :: (one ++ rest)) (c :: (two ++ rest)) place := by
  have hplain : ∀ {count : List Char}, (∀ d ∈ count, isWord d = true) →
      ∀ d ∈ c :: count, d ≠ quote ∧ d ≠ '\\' := fun hcount =>
    List.forall_mem_cons.2 ⟨hc, fun d hd => ⟨IsReplaced.ne_of_not_isWord (hcount d hd) hquote,
      IsReplaced.ne_of_not_isWord (hcount d hd) (by decide)⟩⟩
  -- Beyond the barrier only what follows the count matters, and all that is found there is too far.
  have hcount : ∀ taken, CarriesTo (c :: (one ++ rest)) (c :: (two ++ rest))
      (quotedEnds quote escapes (c :: (one ++ rest)) taken)
      (quotedEnds quote escapes (c :: (two ++ rest)) taken) := by
    intro taken
    refine .beyond (fun old hold => ?_) _ fun hnothing => ?_
    · obtain ⟨read, hreaches, hread⟩ := reaches_of_mem_quotedEnds none hold
      have hlength := congrArg List.length hreaches.right_eq
      cases read with
      | nil => cases hread
      | cons => simp [Place.isWithin] at hlength ⊢; omega
    · rw [← List.cons_append, quotedEnds_plain (hplain h.one_isWord), quotedEnds_add,
        List.map_eq_nil_iff] at hnothing
      rw [← List.cons_append, quotedEnds_plain (hplain h.two_isWord), quotedEnds_add, hnothing,
        List.map_nil]
  have hclosed : ∀ place : Place, CarriesTo (c :: (one ++ rest)) (c :: (two ++ rest))
      [place.extend (c :: (one ++ rest))] [place.extend (c :: (two ++ rest))] := fun place =>
    .map [place]
  have hbarrier : ∀ more, ∀ d ∈ (c :: more).head?, d ≠ quote := by
    rintro more d hd
    obtain rfl := Option.mem_some_iff.1 hd
    exact hc.1
  obtain ⟨left, right, taken⟩ := place
  unfold Carries ends Place.extend
  dsimp only
  fun_induction quotedEnds quote escapes right taken with
  | case1 taken => exact hcount taken
  | case2 d taken hd =>
    simp only [List.singleton_append, quotedEnds_cons (hbarrier _), if_pos hd]
    exact hclosed ⟨some d, [], taken + 1⟩
  | case3 d taken hd =>
    simp only [List.singleton_append, quotedEnds_cons (hbarrier _), if_neg hd]
    exact hcount (taken + 1)
  | case4 d e more taken hd he ih =>
    simp only [List.cons_append, quotedEnds, if_pos hd, if_pos he]
    exact ih.append (hclosed ⟨some d, e :: more, taken + 1⟩)
  | case5 d e more taken hd he =>
    simp only [List.cons_append, quotedEnds, if_pos hd, if_neg he]
    exact hclosed ⟨some d, e :: more, taken + 1⟩
  | case6 d e more taken hd hescaped ihlong ihshort =>
    simp only [List.cons_append, quotedEnds, if_neg hd, if_pos hescaped]
    exact ihlong.append ihshort
  | case7 d e more taken hd hescaped ih =>
    simp only [List.cons_append, quotedEnds, if_neg hd, if_neg hescaped]
    exact ih

/-- A run up to a mark goes on through a count of characters of the class. -/
theorem carries_upTo (h : IsReplaced c one two) {accepts : Char → Bool} {mark : Char}
    (hmark : accepts mark = false) (hc : accepts c = true)
    (hword : ∀ d, isWord d = true → accepts d = true) (rest : List Char) (place : Place) :
    ((oneOrMore accepts).seq (Rule.char mark)).Carries (c :: (one ++ rest)) (c :: (two ++ rest)) place := by
  have hhead : ∀ more, (place.extend (c :: more)).right.head?.any accepts =
      (place.right ++ [c]).head?.any accepts := by
    intro more
    cases hright : place.right <;> simp [Place.extend, hright]
  rw [Carries, ends_upTo hmark, ends_upTo hmark, hhead, hhead]
  cases (place.right ++ [c]).head?.any accepts with
  | false => exact .map []
  | true =>
    simp only [if_true]
    have hcount : ∀ {count : List Char}, (∀ d ∈ count, isWord d = true) →
        ∀ d ∈ c :: count, accepts d = true := fun hcount =>
      List.forall_mem_cons.2 ⟨hc, fun d hd => hword d (hcount d hd)⟩
    have hone := hcount h.one_isWord
    have htwo := hcount h.two_isWord
    rw [← List.cons_append, ← List.cons_append]
    by_cases hall : place.right.dropWhile accepts = []
    · -- The run goes on through the barrier and the count, so its end is beyond them.
      refine .beyond (not_isWithin_of_mem_ends_afterRun hall hone (List.cons_ne_nil _ _) rest) _
        fun hnothing => ?_
      rw [ends_char_eq_nil, Place.right_afterRun_extend hall htwo]
      rwa [ends_char_eq_nil, Place.right_afterRun_extend hall hone] at hnothing
    · rw [Place.afterRun_extend_of_ne_nil hall, Place.afterRun_extend_of_ne_nil hall]
      have hstops : (place.afterRun accepts).right ≠ [] := by rwa [Place.afterRun_eq]
      generalize place.afterRun accepts = stop at hstops ⊢
      obtain ⟨left, _ | ⟨d, more⟩, taken⟩ := stop
      · exact absurd rfl hstops
      · change CarriesTo _ _ (if d == mark then _ else _) (if d == mark then _ else _)
        split
        · exact .map [(⟨left, d :: more, taken⟩ : Place).step d more]
        · exact .map []

end Pattern

/-! ### Rules -/

/-- What is read before a count is as long with another count in its place: where nothing is read
nothing is, and a length that leaves the count out stays. -/
structure CarriesLength (size : Nat) (old new : Option Nat) : Prop where
  nothing : old = none → new = none
  length : ∀ n ≤ size, old = some n → new = some n

theorem Pattern.Carries.length {pattern : Pattern} {here there : List Char} {left : Option Char}
    {cs : List Char} (h : pattern.Carries here there ⟨left, cs, 0⟩) :
    CarriesLength cs.length (pattern.length? left (cs ++ here))
      (pattern.length? left (cs ++ there)) := by
  obtain ⟨hnothing, hfirst⟩ := h
  rw [Pattern.length?_eq, Pattern.length?_eq]
  refine ⟨fun hold => ?_, fun n hn hold => ?_⟩
  · rw [Option.map_eq_none_iff, List.head?_eq_none_iff] at hold ⊢
    exact hnothing hold
  · obtain ⟨last, hlast, rfl⟩ := Option.map_eq_some_iff.1 hold
    obtain ⟨read, ⟨hright, htaken⟩, -⟩ := reaches_of_mem_ends (List.mem_of_mem_head? hlast)
    dsimp only at hright htaken
    rw [Nat.zero_add] at htaken
    have hread : last.right = cs.drop last.taken ++ here := by
      have hdrop := congrArg (List.drop read.length) hright
      rw [List.drop_left, ← htaken, List.drop_append_of_le_length hn] at hdrop
      exact hdrop.symm
    have hextend : last = (⟨last.left, cs.drop last.taken, last.taken⟩ : Place).extend here := by
      rw [Place.extend, ← hread]
    rw [hextend] at hlast
    exact congrArg (Option.map _) (hfirst _ hlast)

/-- A pattern that does not end with the character does not end right after it. -/
theorem CarriesLength.succ {pattern : Pattern} {left : Option Char} {cs here there : List Char}
    {c : Char} (h : CarriesLength cs.length (pattern.length? left (cs ++ c :: here))
      (pattern.length? left (cs ++ c :: there))) (hend : pattern.mayEnd c = false) :
    CarriesLength (cs.length + 1) (pattern.length? left (cs ++ c :: here))
      (pattern.length? left (cs ++ c :: there)) := by
  refine ⟨h.nothing, fun n hn hold => ?_⟩
  rcases Nat.lt_or_eq_of_le hn with hlt | rfl
  · exact h.length n (by omega) hold
  · rw [Pattern.length?_eq] at hold
    obtain ⟨last, hlast, hsize⟩ := Option.map_eq_some_iff.1 hold
    obtain ⟨read, ⟨hright, htaken⟩, hreads⟩ := reaches_of_mem_ends (List.mem_of_mem_head? hlast)
    dsimp only at hright htaken
    rw [Nat.zero_add, hsize] at htaken
    have hread : read = cs ++ [c] := by
      have htake := congrArg (List.take read.length) hright
      rw [List.take_left, ← htaken, List.take_length_add_append] at htake
      exact htake.symm
    rw [hread] at hreads
    exact absurd hreads.mayEnd (by simp [hend])

namespace Pattern

variable {pattern : Pattern} {c : Char} {one two rest : List Char} {left : Option Char}
  {cs : List Char}

/-- No text of the pattern ends before a count of digits, or goes on from there into it. -/
def endsBefore (pattern : Pattern) : Bool :=
  (barriers.all fun c => !pattern.mayEnd c) && !pattern.mayJoinAny barriers "0123456789".toList

theorem mayEnd_of_endsBefore (h : pattern.endsBefore = true) (hc : isBarrier c = true) :
    pattern.mayEnd c = false := by
  have hall := List.all_eq_true.1 (Bool.and_eq_true_iff.1 h).1 c (mem_barriers hc)
  simpa using hall

theorem not_reads_of_endsBefore (h : pattern.endsBefore = true) (hcount : IsReplaced c one two)
    (rest cs : List Char) :
    ∀ after, after <+: c :: (two ++ rest) → after ≠ [] → ¬pattern.Reads (cs ++ after) := by
  obtain ⟨d, digits, htwo⟩ := List.exists_cons_of_ne_nil hcount.two_ne
  have hdigit : d ∈ "0123456789".toList := hcount.two_digit d (by simp [htwo])
  rw [htwo]
  refine not_reads_of_not_mayJoin (mayEnd_of_endsBefore h hcount.barrier) ?_ _ cs
  rw [← Bool.not_eq_true]
  intro hjoin
  have hnone := (Bool.and_eq_true_iff.1 h).2
  rw [mayJoinAny_of_mayJoin (mem_barriers hcount.barrier) hdigit hjoin] at hnone
  cases hnone

/-- The pattern ends before a count, whatever that is. -/
def isBounded (pattern : Pattern) : Bool :=
  pattern.endsBefore && barriers.all pattern.isSettledAt

theorem carries_of_isBounded (h : pattern.isBounded = true) (hcount : IsReplaced c one two)
    (rest : List Char) (place : Place) :
    pattern.Carries (c :: (one ++ rest)) (c :: (two ++ rest)) place := by
  obtain ⟨hends, hall⟩ := Bool.and_eq_true_iff.1 h
  have hsettled := List.all_eq_true.1 hall c (mem_barriers hcount.barrier)
  exact carries_of_settled (settledBefore_of_isSettledAt (isWord_of_isBarrier hcount.barrier) _ hsettled)
    (settledBefore_of_isSettledAt (isWord_of_isBarrier hcount.barrier) _ hsettled)
    (not_reads_of_endsBefore hends hcount rest place.right)

/-- A part that is bounded may stand before one that carries over. -/
theorem carries_seq_of_isBounded {first second : Pattern} (h : first.isBounded = true)
    (hcount : IsReplaced c one two) {place : Place}
    (hsecond : ∀ middle, second.Carries (c :: (one ++ rest)) (c :: (two ++ rest)) middle) :
    (first.seq second).Carries (c :: (one ++ rest)) (c :: (two ++ rest)) place := by
  obtain ⟨hends, hall⟩ := Bool.and_eq_true_iff.1 h
  have hsettled := List.all_eq_true.1 hall c (mem_barriers hcount.barrier)
  exact carries_seq (settledBefore_of_isSettledAt (isWord_of_isBarrier hcount.barrier) _ hsettled)
    (settledBefore_of_isSettledAt (isWord_of_isBarrier hcount.barrier) _ hsettled)
    (not_reads_of_endsBefore hends hcount rest place.right) fun middle _ => hsecond middle

end Pattern

namespace IsReplaced

variable {pattern : Pattern} {c : Char} {one two : List Char}

/-- Where word characters follow, a pattern that does not join them to the barrier reads none. -/
theorem not_reads_into (hjoin : ∀ d, isWord d = true → pattern.mayJoin c d = false)
    {count : List Char} (hne : count ≠ []) (hcount : ∀ d ∈ count, isWord d = true)
    (rest cs : List Char) : ∀ after, after <+: count ++ rest → after ≠ [] →
      ¬pattern.Reads (cs ++ [c] ++ after) := by
  obtain ⟨d, more, rfl⟩ := List.exists_cons_of_ne_nil hne
  rintro (_ | ⟨e, after⟩) hafter hafterNe hreads
  · exact hafterNe rfl
  · obtain ⟨rfl, -⟩ := List.cons_prefix_cons.1 hafter
    rw [List.append_assoc] at hreads
    exact absurd hreads.mayJoin (by simp [hjoin e (hcount e List.mem_cons_self)])

/-- A pattern that looks at nothing it does not read, and does not go on from what stands last. -/
theorem carries_plain (h : IsReplaced c one two) (hsettled : ∀ more, pattern.SettledBefore more)
    {last : Char} (hjoin : ∀ d, isWord d = true → pattern.mayJoin last d = false) (rest : List Char)
    {place : Place} {cs : List Char} (hright : place.right = cs ++ [last]) :
    pattern.Carries (one ++ rest) (two ++ rest) place := by
  refine carries_of_settled (hsettled _) (hsettled _) ?_
  rw [hright]
  exact not_reads_into hjoin h.two_ne h.two_isWord rest cs

end IsReplaced

/-! ### Lines -/

section

open Rule

theorem isLineBreak_of_isWord {d : Char} (hd : isWord d = true) : isLineBreak d = false := by
  rw [isLineBreak, Bool.or_eq_false_iff, beq_eq_false_iff_ne, beq_eq_false_iff_ne]
  exact ⟨IsReplaced.ne_of_not_isWord hd (by decide), IsReplaced.ne_of_not_isWord hd (by decide)⟩

theorem settledBefore_lineBreak (more : List Char) : lineBreak.SettledBefore more :=
  ⟨⟨trivial, trivial⟩, trivial, trivial⟩

theorem lineBreak_mayJoin {c d : Char} (hd : isWord d = true) : lineBreak.mayJoin c d = false := by
  have hne : d ≠ '\n' := IsReplaced.ne_of_not_isWord hd (by decide)
  simp [lineBreak, Pattern.any, char, mayJoin, mayEnd, mayStart, hne]

/-- A line is read up to the first of its breaks, or to the end. -/
theorem ends_restOfLine (place : Place) : restOfLine.ends place =
    (Pattern.either lineBreak .finish).ends (place.afterRun (!isLineBreak ·)) := by
  refine Place.flatMap_runs ?_ place
  rintro ⟨left, _ | ⟨d, more⟩, taken⟩ hd
  · simp at hd
  · have hd : d ≠ '\n' ∧ d ≠ '\r' := by simpa [isLineBreak] using hd
    simp [lineBreak, Pattern.any, char, ends, hd]

/-- Every line has an end. -/
theorem ends_restOfLine_ne_nil (place : Place) : restOfLine.ends place ≠ [] := by
  rw [ends_restOfLine]
  have hhead : ∀ d ∈ (place.afterRun (!isLineBreak ·)).right.head?, isLineBreak d = true := by
    intro d hd
    simpa using place.head?_afterRun (!isLineBreak ·) d hd
  generalize place.afterRun (!isLineBreak ·) = stop at hhead
  obtain ⟨left, _ | ⟨d, more⟩, taken⟩ := stop
  · simp [ends]
  · have hd : d = '\n' ∨ d = '\r' := by simpa [isLineBreak] using hhead d rfl
    rcases hd with rfl | rfl <;> simp [lineBreak, Pattern.any, char, ends]

end

namespace IsReplaced

variable {c : Char} {one two : List Char}

open Rule in
/-- A line goes on through a count. -/
theorem carries_restOfLine (h : IsReplaced c one two) (rest : List Char) (place : Place) :
    restOfLine.Carries (one ++ rest) (two ++ rest) place := by
  by_cases hall : place.right.dropWhile (!isLineBreak ·) = []
  · -- The line goes on through the count, so its end is beyond that.
    have hcount : ∀ d ∈ one, (!isLineBreak d) = true := fun d hd => by
      simp [isLineBreak_of_isWord (h.one_isWord d hd)]
    rw [Carries, ends_restOfLine]
    refine .beyond (not_isWithin_of_mem_ends_afterRun hall hcount h.one_ne rest) _ fun hnothing => ?_
    rw [← ends_restOfLine] at hnothing
    exact absurd hnothing (ends_restOfLine_ne_nil _)
  · rw [Carries, ends_restOfLine, ends_restOfLine, Place.afterRun_extend_of_ne_nil hall,
      Place.afterRun_extend_of_ne_nil hall]
    have hstops : (place.afterRun (!isLineBreak ·)).right ≠ [] := by rwa [Place.afterRun_eq]
    generalize place.afterRun (!isLineBreak ·) = stop at hstops ⊢
    have hfinish : ∀ more, Pattern.finish.ends (stop.extend more) = [] := fun more =>
      if_neg (by simp [Place.extend, hstops])
    rw [ends, ends, hfinish, hfinish, List.append_nil, List.append_nil]
    obtain ⟨before, last, hlast⟩ := (List.eq_nil_or_concat' stop.right).resolve_left hstops
    exact h.carries_plain settledBefore_lineBreak (fun d hd => lineBreak_mayJoin hd) rest hlast

end IsReplaced

open Rule in
/-- The rules that may read up to a count or into it. -/
def reachingRules : List Rule :=
  [ always .lineHint (all [lineCommentMark, char '+', restOfLine]),
    always .lineComment (.seq lineCommentMark restOfLine),
    always .newline lineBreak,
    always .whitespace (.one isBlank),
    always .name (.seq (char '\x60') (.quoted '\x60' false)),
    always .name (.seq (char '´') (.quoted '´' false)),
    always .name
      (.seq name (.ahead (all [.run isBlank, char '.', .notAhead (.one isDecimalDigit)]))),
    always .quotedText (.seq (char '\'') (.quoted '\'' true)),
    always .quotedName (.seq (char '"') (.quoted '"' true)),
    always .name
      (all [.notBehind (fun c => isWord c || c == ']'), char '[',
        oneOrMore (fun c => c != ']' && c != '['), char ']']),
    always .keyword (all [text "GO", .one isBlank, digits, .wordBoundary]),
    always .zoneCast
      (all [anyText ["AT", "WITH'"], blanks, text "TIME", blanks, text "ZONE", blanks, char '\'',
        oneOrMore (· != '\''), char '\'']),
    always .operator (oneOrMore ['+', '/', '@', '#', '%', '^', '&', '|', '-'].contains) ]

open Rule in
/-- What stands before the name of a zone. -/
def zoneOpening : Pattern :=
  all [anyText ["AT", "WITH'"], blanks, text "TIME", blanks, text "ZONE", blanks, char '\'']

/-- The places of these rules among all. -/
def reachingPlaces : List Nat :=
  [0, 1, 2, 3, 7, 8, 15, 22, 23, 24, 38, 40, 47]

theorem rules_reach : ∀ rule ∈ rules, rule.pattern.isBounded = true ∨ rule ∈ reachingRules := by
  have hbounded : (rules.zipIdx.all fun (rule, place) =>
      reachingPlaces.contains place || rule.pattern.isBounded) = true := by decide +kernel
  have hplaces : reachingPlaces.filterMap (rules[·]?) = reachingRules := rfl
  intro rule hrule
  obtain ⟨place, hlt, rfl⟩ := List.getElem_of_mem hrule
  have hplace := List.all_eq_true.1 hbounded (rules[place], place)
    (List.mk_mem_zipIdx_iff_getElem?.2 (List.getElem?_eq_getElem hlt))
  rcases Bool.or_eq_true_iff.1 hplace with hreaches | h
  · refine .inr (hplaces ▸ List.mem_filterMap.2 ⟨place, ?_, List.getElem?_eq_getElem hlt⟩)
    exact List.contains_iff_mem.1 hreaches
  · exact .inl h

namespace IsReplaced

variable {c : Char} {one two : List Char}

/-- A mark that is no letter has no other case. -/
theorem eq_of_sameLetter {mark : Char} (hmark : mark ∈ ['-', '#', ' ', '\'']) {d : Char}
    (h : sameLetter mark d = true) : d = mark := by
  have hnarrow : ['-', '#', ' ', '\''].Forall fun mark => mark.toLower = mark ∧ mark.toNat < 128 ∧
      mark ∉ ['i', 's', 'k'] ∧
      ∀ code : Fin 128, sameLetter mark (Char.ofNat code.val) = true →
        Char.ofNat code.val = mark := by
    decide +kernel
  obtain ⟨hlower, hsmall, hletters, hcodes⟩ := List.forall_iff_forall_mem.1 hnarrow mark hmark
  by_cases hd : d.toNat < 128
  · have hcode := hcodes ⟨d.toNat, hd⟩
    rw [Char.ofNat_toNat] at hcode
    exact hcode h
  · simp only [sameLetter, toLower_of_wide (not_lt.1 hd), hlower] at h
    simp at hletters
    simpa [hletters] using h

open Rule in
theorem lineCommentMark_mayJoin {d : Char} (hd : isWord d = true) :
    lineCommentMark.mayJoin c d = false := by
  have hnone : ∀ mark ∈ ['-', ' '], sameLetter mark d = false := by
    intro mark hmark
    rw [← Bool.not_eq_true]
    intro hsame
    obtain rfl := eq_of_sameLetter (by simp at hmark ⊢; tauto) hsame
    have hword : ['-', ' '].Forall (isWord · = false) := by decide
    rw [List.forall_iff_forall_mem.1 hword _ hmark] at hd
    cases hd
  change (_ || _ || sameLetter '-' c && sameLetter '-' d ||
    (_ || _ || sameLetter '#' c && sameLetter ' ' d)) = false
  rw [hnone '-' (by simp), hnone ' ' (by simp)]
  simp [mayJoin]

open Rule in
theorem settledBefore_lineCommentMark (more : List Char) : lineCommentMark.SettledBefore more :=
  ⟨⟨trivial, trivial⟩, trivial, trivial⟩

theorem ne_barrier (h : IsReplaced c one two) {mark : Char} (hmark : isBarrier mark = false) :
    c ≠ mark := by
  rintro rfl
  simp [h.barrier] at hmark

open Rule in
theorem carries_comment (h : IsReplaced c one two) {mark : Pattern}
    (hsettled : ∀ more, mark.SettledBefore more)
    (hjoin : ∀ d, isWord d = true → mark.mayJoin c d = false) (rest : List Char)
    (left : Option Char) (cs : List Char) :
    (mark.seq restOfLine).Carries (one ++ rest) (two ++ rest) ⟨left, cs ++ [c], 0⟩ :=
  carries_seq (hsettled _) (hsettled _) (not_reads_into hjoin h.two_ne h.two_isWord rest cs)
    fun middle _ => h.carries_restOfLine rest middle

/-- The name before a dot is settled, since a count is neither blank nor a dot. -/
theorem carries_dottedName (h : IsReplaced c one two) (rest : List Char) (place : Place) :
    (Rule.name.seq (.ahead (all [.run isBlank, Rule.char '.', .notAhead (.one isDecimalDigit)]))).Carries
      (c :: (one ++ rest)) (c :: (two ++ rest)) place := by
  have hname : (barriers.all fun c => Rule.name.isSettledAt c &&
      (Pattern.notAhead (.one isDecimalDigit)).isSettledAt c) = true := by decide +kernel
  have hsettledAt := List.all_eq_true.1 hname c (mem_barriers h.barrier)
  rw [Bool.and_eq_true] at hsettledAt
  have hdot : (c == '.') = false := beq_eq_false_iff_ne.2 (h.ne_barrier (by decide))
  have hsettled : ∀ {count : List Char}, count ≠ [] → (∀ d ∈ count, isWord d = true) →
      (Rule.name.seq (.ahead
        (all [.run isBlank, Rule.char '.', .notAhead (.one isDecimalDigit)]))).SettledBefore
          (c :: (count ++ rest)) := by
    intro count hne hcount
    refine ⟨settledBefore_of_isSettledAt (isWord_of_isBarrier h.barrier) _ hsettledAt.1,
      ⟨trivial, trivial, settledBefore_of_isSettledAt (isWord_of_isBarrier h.barrier) _ hsettledAt.2⟩, fun cs => ?_⟩
    obtain ⟨d, more, rfl⟩ := List.exists_cons_of_ne_nil hne
    have hd := hcount d List.mem_cons_self
    have hblank : isBlank d = false := by
      rw [← Bool.not_eq_true]
      intro hblank
      rw [isWord_of_isBlank hblank] at hd
      cases hd
    have hdigit : (d == '.') = false := beq_eq_false_iff_ne.2 (ne_of_not_isWord hd (by decide))
    refine not_reads_of_not_mayJoin ?_ ?_ _ cs
    · simp [all, Rule.char, mayEnd, isProductive, hdot]
    · simp [all, Rule.char, mayJoin, mayEnd, mayStart, isProductive, hblank, hdigit]
  have hends : (Rule.name.seq (.ahead
      (all [.run isBlank, Rule.char '.', .notAhead (.one isDecimalDigit)]))).endsBefore = true := by
    decide +kernel
  exact carries_of_settled (hsettled h.one_ne h.one_isWord) (hsettled h.two_ne h.two_isWord)
    (not_reads_of_endsBefore hends h rest place.right)

open Rule in
/-- The separator of batches is read into a count of digits just if it stands directly before it. -/
theorem carries_batch (h : IsReplaced c one two) (rest : List Char) {place : Place}
    (hfree : place.right.length = 2 → ∀ g ∈ place.right.head?, sameLetter 'G' g = false) :
    (all [text "GO", .one isBlank, digits, .wordBoundary]).Carries (c :: (one ++ rest))
      (c :: (two ++ rest)) place := by
  have hsettled : ∀ more, (all [text "GO", .one isBlank, digits, .wordBoundary]).SettledBefore
      (c :: more) := fun more =>
    ⟨⟨trivial, trivial⟩, trivial, ⟨trivial, trivial⟩, fun d hd => by
      obtain rfl := Option.mem_some_iff.1 hd
      exact isWord_of_isBarrier h.barrier⟩
  refine carries_of_settled (hsettled _) (hsettled _) ?_
  rintro (_ | ⟨d, after⟩) hafter hne hreads
  · exact hne rfl
  rw [(List.cons_prefix_cons.1 hafter).1] at hreads
  obtain ⟨go, _, hgo, ⟨_, _, ⟨blank, -, rfl⟩, ⟨count, _, hcount, rfl, rfl⟩, rfl⟩, hread⟩ := hreads
  have hletters : List.Forall₂ (fun letter d => sameLetter letter d = true) ['G', 'O'] go :=
    reads_text.1 hgo
  obtain ⟨g, _, hg, hrest, rfl⟩ := List.forall₂_cons_left_iff.1 hletters
  obtain ⟨o, _, ho, hnil, rfl⟩ := List.forall₂_cons_left_iff.1 hrest
  obtain rfl := List.forall₂_nil_left_iff.1 hnil
  have hbarrier : isWord c = false := isWord_of_isBarrier h.barrier
  rcases hright : place.right with _ | ⟨x, _ | ⟨y, _ | ⟨z, more⟩⟩⟩ <;> rw [hright] at hread
  · -- The barrier is the first letter, or the second one.
    obtain ⟨rfl, -⟩ := List.cons.inj hread
    rw [(sameLetter_capital (by decide) hg).1] at hbarrier
    cases hbarrier
  · obtain ⟨-, htail⟩ := List.cons.inj hread
    obtain ⟨rfl, -⟩ := List.cons.inj htail
    rw [(sameLetter_capital (by decide) ho).1] at hbarrier
    cases hbarrier
  · obtain ⟨rfl, -⟩ := List.cons.inj hread
    rw [hfree (by rw [hright]; rfl) x (by rw [hright]; rfl)] at hg
    cases hg
  · -- The barrier is among the digits.
    simp only [List.cons_append, List.nil_append, List.append_nil, List.cons.injEq] at hread
    have hmem : c ∈ count := by simp [← hread.2.2.2]
    rw [isWord_of_isDecimalDigit ((reads_oneOrMore.1 hcount).2 c hmem)] at hbarrier
    cases hbarrier

open Rule in
/-- The mark of a hint does not end with a word character. -/
theorem carries_hint (h : IsReplaced c one two) (rest : List Char) (left : Option Char)
    (cs : List Char) : (all [lineCommentMark, char '+', restOfLine]).Carries (one ++ rest)
      (two ++ rest) ⟨left, cs ++ [c], 0⟩ := by
  have hends : ∀ place : Place, (all [lineCommentMark, char '+', restOfLine]).ends place =
      ((lineCommentMark.seq (char '+')).seq restOfLine).ends place := fun place =>
    List.flatMap_assoc.symm
  have hsettled : ∀ more, (lineCommentMark.seq (char '+')).SettledBefore more := fun more =>
    ⟨settledBefore_lineCommentMark more, trivial⟩
  refine carries_congr hends (h.carries_comment hsettled (fun d hd => ?_) rest left cs)
  have hplus : d ≠ '+' := ne_of_not_isWord hd (by decide)
  simp [mayJoin, lineCommentMark_mayJoin hd, char, mayStart, hplus]

open Rule in
/-- A name or text in quotes goes on through a count. -/
theorem carries_quotation (h : IsReplaced c one two) {quote : Char} (hword : isWord quote = false)
    (hquote : isBarrier quote = false) (hbounded : (char quote).isBounded = true) (escapes : Bool)
    (rest : List Char) (place : Place) :
    ((char quote).seq (.quoted quote escapes)).Carries (c :: (one ++ rest)) (c :: (two ++ rest))
      place :=
  carries_seq_of_isBounded hbounded h fun middle =>
    carries_quoted h hword ⟨h.ne_barrier hquote, h.ne_barrier (by decide)⟩ escapes rest middle

open Rule in
/-- A name in brackets goes on through a count. -/
theorem carries_bracketed (h : IsReplaced c one two) (rest : List Char) (place : Place) :
    (all [.notBehind (fun c => isWord c || c == ']'), char '[',
      oneOrMore (fun c => c != ']' && c != '['), char ']']).Carries (c :: (one ++ rest))
      (c :: (two ++ rest)) place := by
  refine carries_seq_of_isBounded (by decide +kernel) h fun _ =>
    carries_seq_of_isBounded (by decide +kernel) h fun middle =>
      carries_upTo h rfl ?_ (fun d hd => ?_) rest middle
  · have hopen : c ≠ '[' := h.ne_barrier (by decide)
    have hclose : c ≠ ']' := h.ne_barrier (by decide)
    simp [hopen, hclose]
  · have hopen : d ≠ '[' := ne_of_not_isWord hd (by decide)
    have hclose : d ≠ ']' := ne_of_not_isWord hd (by decide)
    simp [hopen, hclose]

open Rule in
/-- The name of a zone goes on through a count. -/
theorem carries_zoneCast (h : IsReplaced c one two) (rest : List Char) (place : Place) :
    (all [anyText ["AT", "WITH'"], blanks, text "TIME", blanks, text "ZONE", blanks, char '\'',
      oneOrMore (· != '\''), char '\'']).Carries (c :: (one ++ rest)) (c :: (two ++ rest)) place := by
  have hends : ∀ place : Place,
      (all [anyText ["AT", "WITH'"], blanks, text "TIME", blanks, text "ZONE", blanks, char '\'',
        oneOrMore (· != '\''), char '\'']).ends place =
      (zoneOpening.seq ((oneOrMore (· != '\'')).seq (char '\''))).ends place := fun place => by
    simp only [zoneOpening, all, ends, List.flatMap_assoc]
  refine carries_congr hends (carries_seq_of_isBounded (by decide +kernel) h fun middle =>
    carries_upTo h rfl ?_ (fun d hd => ?_) rest middle)
  · simpa using h.ne_barrier (show isBarrier '\'' = false by decide)
  · simpa using ne_of_not_isWord hd (show isWord '\'' = false by decide)

/-- A run of marks does not go on into a count. -/
theorem carries_marks (h : IsReplaced c one two) {marks : List Char}
    (hmarks : ∀ mark ∈ marks, isWord mark = false) (rest : List Char) (left : Option Char)
    (cs : List Char) :
    (oneOrMore marks.contains).Carries (one ++ rest) (two ++ rest) ⟨left, cs ++ [c], 0⟩ := by
  have hsettled : ∀ more, (oneOrMore marks.contains).SettledBefore more := fun _ =>
    ⟨trivial, trivial⟩
  refine h.carries_plain hsettled (fun d hd => ?_) rest rfl
  have hout : marks.contains d = false := by
    rw [← Bool.not_eq_true, List.contains_iff_mem]
    intro hmem
    rw [hmarks d hmem] at hd
    cases hd
  simp only [oneOrMore, mayJoin, mayStart, hout, Bool.and_false, Bool.or_false]

open Rule in
/-- Where a count stands after a barrier, a rule that may reach it reads the same before it. -/
theorem reachingRules_carry (h : IsReplaced c one two) (rest : List Char) (left : Option Char)
    {cs : List Char} (hfree : cs.length = 2 → ∀ g ∈ cs.head?, sameLetter 'G' g = false) :
    ∀ rule ∈ reachingRules, CarriesLength (cs.length + 1)
      (rule.pattern.length? left (cs ++ c :: (one ++ rest)))
      (rule.pattern.length? left (cs ++ c :: (two ++ rest))) := by
  have hplain : ∀ {pattern : Pattern},
      pattern.Carries (one ++ rest) (two ++ rest) ⟨left, cs ++ [c], 0⟩ →
      CarriesLength (cs.length + 1) (pattern.length? left (cs ++ c :: (one ++ rest)))
        (pattern.length? left (cs ++ c :: (two ++ rest))) := by
    intro pattern hcarries
    simpa using hcarries.length
  -- Most of the rules read nothing that ends with the barrier.
  have hcloses : ∀ {pattern : Pattern}, (barriers.all fun c => !pattern.mayEnd c) = true →
      pattern.Carries (c :: (one ++ rest)) (c :: (two ++ rest)) ⟨left, cs, 0⟩ →
      CarriesLength (cs.length + 1) (pattern.length? left (cs ++ c :: (one ++ rest)))
        (pattern.length? left (cs ++ c :: (two ++ rest))) := by
    intro pattern hend hcarries
    exact hcarries.length.succ (by simpa using List.all_eq_true.1 hend c (mem_barriers h.barrier))
  simp only [reachingRules, List.forall_mem_cons]
  refine ⟨hplain ?hint, hplain ?comment, hplain ?line, hplain ?blank, hcloses ?_ ?back,
    hcloses ?_ ?acute, hcloses ?_ ?dotted, hcloses ?_ ?single, hcloses ?_ ?double,
    hcloses ?_ ?bracket, hcloses ?_ ?batch, hcloses ?_ ?zone, hplain ?operator, by simp⟩
  case hint => exact h.carries_hint rest left cs
  case comment =>
    exact h.carries_comment settledBefore_lineCommentMark (fun d hd => lineCommentMark_mayJoin hd)
      rest left cs
  case line => exact h.carries_plain settledBefore_lineBreak (fun d hd => lineBreak_mayJoin hd) rest rfl
  case blank =>
    have hblank : ∀ more, (Pattern.one isBlank).SettledBefore more := fun _ => trivial
    exact h.carries_plain hblank (fun _ _ => rfl) rest rfl
  case back => exact h.carries_quotation (by decide) (by decide) (by decide +kernel) false rest _
  case acute =>
    exact h.carries_quotation (by decide +kernel) (by decide +kernel) (by decide +kernel) false rest _
  case dotted => exact h.carries_dottedName rest _
  case single => exact h.carries_quotation (by decide) (by decide) (by decide +kernel) true rest _
  case double => exact h.carries_quotation (by decide) (by decide) (by decide +kernel) true rest _
  case bracket => exact h.carries_bracketed rest _
  case batch => exact h.carries_batch rest hfree
  case zone => exact h.carries_zoneCast rest _
  case operator => exact h.carries_marks (List.forall_iff_forall_mem.1 (by decide)) rest left cs
  all_goals decide +kernel

end IsReplaced

end SemanticLayer.Sql
