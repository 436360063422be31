import Mathlib.Data.List.Basic
import SemanticLayer.Sql.Lexer

/-!
What patterns read. A pattern ends at places in the order in which they are tried, and reading is the
search for the first of them that lets the rest succeed. What stands between its start and an end is
a text of the language of the pattern, which does not look at what is around. So every token is a
text of the language of its rule.
-/

namespace SemanticLayer.Sql

open Text

/-! ### Ends -/

/-- The places after the closing quotes of a quoted text, in the order in which they are tried. -/
def quotedEnds (quote : Char) (escapes : Bool) : List Char → Nat → List Place
  | [], _ => []
  | [c], taken => if c == quote then [⟨some c, [], taken + 1⟩] else []
  | c :: d :: rest, taken =>
    if c == quote then
      if d == quote then
        quotedEnds quote escapes rest (taken + 2) ++ [⟨some c, d :: rest, taken + 1⟩]
      else
        [⟨some c, d :: rest, taken + 1⟩]
    else if escapes && c == '\\' && d == quote then
      quotedEnds quote escapes rest (taken + 2) ++ quotedEnds quote escapes (d :: rest) (taken + 1)
    else
      quotedEnds quote escapes (d :: rest) (taken + 1)

/-- The places at which a reading of the pattern may end, in the order in which they are tried. -/
def Pattern.ends : Pattern → Place → List Place
  | .one accepts, place =>
    match place.right with
    | c :: rest => if accepts c then [place.step c rest] else []
    | [] => []
  | .run accepts, place => place.runs accepts
  | .quoted quote escapes, place => quotedEnds quote escapes place.right place.taken
  | .seq first second, place => (first.ends place).flatMap second.ends
  | .either first second, place => first.ends place ++ second.ends place
  | .optional body, place => body.ends place ++ [place]
  | .ahead body, place => if (body.ends place).isEmpty then [] else [place]
  | .notAhead body, place => if (body.ends place).isEmpty then [place] else []
  | .behind accepts, place => if place.left.any accepts then [place] else []
  | .notBehind accepts, place => if place.left.any accepts then [] else [place]
  | .wordBoundary, place => if place.isWordBoundary then [place] else []
  | .finish, place => if place.right.isEmpty then [place] else []

theorem readQuoted_eq (quote : Char) (escapes : Bool) (next : Place → Option Place)
    (cs : List Char) (taken : Nat) :
    readQuoted quote escapes next cs taken =
      (quotedEnds quote escapes cs taken).findSome? next := by
  fun_induction readQuoted quote escapes next cs taken with
  | case1 => rfl
  | case2 c taken hclosing | case5 c d rest taken hclosing =>
    simp [quotedEnds, *, List.findSome?_singleton]
  | case3 c taken hclosing => simp [quotedEnds, hclosing]
  | case4 c d rest taken hclosing hdoubled ih =>
    rw [quotedEnds, if_pos hclosing, if_pos hdoubled, List.findSome?_append,
      List.findSome?_singleton, ih]
  | case6 c d rest taken hclosing hescaped ih1 ih2 =>
    rw [quotedEnds, if_neg hclosing, if_pos hescaped, List.findSome?_append, ih1, ih2]
  | case7 c d rest taken hclosing hescaped ih =>
    rw [quotedEnds, if_neg hclosing, if_neg hescaped, ih]

theorem findSome?_flatMap {α β γ : Type} (f : α → List β) (g : β → Option γ) (items : List α) :
    (items.flatMap f).findSome? g = items.findSome? fun item => (f item).findSome? g := by
  induction items with
  | nil => rfl
  | cons item rest ih =>
    rw [List.flatMap_cons, List.findSome?_append, List.findSome?_cons, ih]
    cases (f item).findSome? g <;> rfl

/-- A pattern is read at the first of its ends that lets the rest succeed. -/
theorem Pattern.read_eq (pattern : Pattern) (next : Place → Option Place) (place : Place) :
    pattern.read next place = (pattern.ends place).findSome? next := by
  induction pattern generalizing next place with
  | one accepts =>
    obtain ⟨left, right, taken⟩ := place
    cases right with
    | nil => rfl
    | cons c rest =>
      change (if accepts c then _ else _) = (if accepts c then _ else _ : List Place).findSome? next
      split
      · rw [List.findSome?_singleton]
      · rfl
  | run => rfl
  | quoted quote escapes => exact readQuoted_eq quote escapes next _ _
  | seq first second ihfirst ihsecond =>
    rw [read, ihfirst, ends, findSome?_flatMap]
    exact congrArg (List.findSome? · _) (funext fun later => ihsecond next later)
  | either first second ihfirst ihsecond =>
    rw [read, ihfirst, ihsecond, ends, List.findSome?_append]
  | optional body ih => rw [read, ih, ends, List.findSome?_append, List.findSome?_singleton]
  | ahead body ih | notAhead body ih =>
    rw [read, ih, ends]
    cases body.ends place <;> simp [List.findSome?_singleton]
  | behind | notBehind | wordBoundary | finish =>
    rw [read, ends]
    split <;> simp [List.findSome?_singleton]

theorem Pattern.read_some (pattern : Pattern) (place : Place) :
    pattern.read some place = (pattern.ends place).head? := by
  rw [read_eq]
  cases pattern.ends place <;> rfl

theorem Pattern.length?_eq (pattern : Pattern) (left : Option Char) (right : List Char) :
    pattern.length? left right = (pattern.ends ⟨left, right, 0⟩).head?.map (·.taken) := by
  rw [length?, read_some]

/-! ### Languages -/

namespace Pattern

/-- The texts that the pattern may read, whatever is around them. -/
def Reads : Pattern → List Char → Prop
  | .one accepts, cs => ∃ c, accepts c = true ∧ cs = [c]
  | .run accepts, cs => ∀ c ∈ cs, accepts c = true
  | .quoted quote _, cs => cs.getLast? = some quote
  | .seq first second, cs => ∃ one two, first.Reads one ∧ second.Reads two ∧ cs = one ++ two
  | .either first second, cs => first.Reads cs ∨ second.Reads cs
  | .optional body, cs => body.Reads cs ∨ cs = []
  | .ahead _, cs | .notAhead _, cs | .behind _, cs | .notBehind _, cs | .wordBoundary, cs
  | .finish, cs => cs = []

end Pattern

/-- From the one place to the other, the characters have been read. -/
structure Place.Reaches (place : Place) (cs : List Char) (last : Place) : Prop where
  right_eq : place.right = cs ++ last.right
  taken_eq : last.taken = place.taken + cs.length

namespace Place.Reaches

variable {place middle last : Place} {one two : List Char}

theorem refl (place : Place) : place.Reaches [] place := ⟨rfl, rfl⟩

theorem trans (h : place.Reaches one middle) (hlast : middle.Reaches two last) :
    place.Reaches (one ++ two) last := by
  refine ⟨?_, ?_⟩
  · rw [h.right_eq, hlast.right_eq, List.append_assoc]
  · rw [hlast.taken_eq, h.taken_eq, List.length_append, Nat.add_assoc]

theorem step {c : Char} {rest : List Char} (h : place.right = c :: rest) :
    place.Reaches [c] (place.step c rest) :=
  ⟨h, rfl⟩

end Place.Reaches

theorem Place.reaches_of_mem_runs {accepts : Char → Bool} {place last : Place}
    (h : last ∈ place.runs accepts) :
    ∃ cs, place.Reaches cs last ∧ ∀ c ∈ cs, accepts c = true := by
  -- The places found so far were reached from the start, and so was the place that is looked at.
  have hgo : ∀ right now found, now.right = right →
      (∃ cs, place.Reaches cs now ∧ ∀ c ∈ cs, accepts c = true) →
      (∀ last ∈ found, ∃ cs, place.Reaches cs last ∧ ∀ c ∈ cs, accepts c = true) →
      ∀ last ∈ Place.runs.go accepts right now found,
        ∃ cs, place.Reaches cs last ∧ ∀ c ∈ cs, accepts c = true := by
    intro right
    induction right with
    | nil => exact fun now found _ _ hfound => hfound
    | cons c rest ih =>
      intro now found hright hnow hfound
      rw [Place.runs.go]
      split
      · rename_i hc
        obtain ⟨cs, hreaches, haccepts⟩ := hnow
        have hnext : ∃ cs, place.Reaches cs (now.step c rest) ∧ ∀ c ∈ cs, accepts c = true := by
          refine ⟨cs ++ [c], hreaches.trans (.step hright), ?_⟩
          simpa [or_imp, forall_and] using ⟨haccepts, hc⟩
        exact ih _ _ rfl hnext (List.forall_mem_cons.2 ⟨hnext, hfound⟩)
      · exact hfound
  have hstart : ∃ cs, place.Reaches cs place ∧ ∀ c ∈ cs, accepts c = true :=
    ⟨[], .refl place, by simp⟩
  exact hgo _ _ _ rfl hstart (by simpa using hstart) last h

theorem reaches_of_mem_quotedEnds {quote : Char} {escapes : Bool} {cs : List Char} {taken : Nat}
    {last : Place} (left : Option Char) (h : last ∈ quotedEnds quote escapes cs taken) :
    ∃ read, (⟨left, cs, taken⟩ : Place).Reaches read last ∧ read.getLast? = some quote := by
  -- What is read after some characters ends with the quote, and so does what is read with them.
  have hlater : ∀ (first : List Char) {rest : List Char} {taken : Nat} {later : Place},
      (∃ read, (⟨left, rest, taken + first.length⟩ : Place).Reaches read later ∧
        read.getLast? = some quote) →
      ∃ read, (⟨left, first ++ rest, taken⟩ : Place).Reaches read later ∧
        read.getLast? = some quote := by
    rintro first rest taken later ⟨read, ⟨hright, htaken⟩, hquote⟩
    dsimp only at hright htaken
    subst hright
    refine ⟨first ++ read, ⟨by simp, by simp [htaken, Nat.add_assoc]⟩, ?_⟩
    rw [List.getLast?_append, hquote]
    rfl
  have hclosed : ∀ {c : Char} {rest : List Char} {taken : Nat}, (c == quote) = true →
      ∃ read, (⟨left, c :: rest, taken⟩ : Place).Reaches read ⟨some c, rest, taken + 1⟩ ∧
        read.getLast? = some quote := by
    intro c rest taken hc
    exact ⟨[c], ⟨rfl, rfl⟩, congrArg some (beq_iff_eq.1 hc)⟩
  fun_induction quotedEnds quote escapes cs taken with
  | case1 | case3 => cases h
  | case2 c taken hc =>
    obtain rfl := List.mem_singleton.1 h
    exact hclosed hc
  | case4 c d rest taken hc hd ih =>
    rcases List.mem_append.1 h with h | h
    · exact hlater [c, d] (ih h)
    · obtain rfl := List.mem_singleton.1 h
      exact hclosed hc
  | case5 c d rest taken hc hd =>
    obtain rfl := List.mem_singleton.1 h
    exact hclosed hc
  | case6 c d rest taken hc hescaped ihlong ihshort =>
    rcases List.mem_append.1 h with h | h
    · exact hlater [c, d] (ihlong h)
    · exact hlater [c] (ihshort h)
  | case7 c d rest taken hc hescaped ih => exact hlater [c] (ih h)

namespace Pattern

/-- Between the start of a reading and its end stands a text of the language. -/
theorem reaches_of_mem_ends {pattern : Pattern} {place last : Place} (h : last ∈ pattern.ends place) :
    ∃ cs, place.Reaches cs last ∧ pattern.Reads cs := by
  induction pattern generalizing place last with
  | one accepts =>
    rw [ends] at h
    split at h
    · rename_i c rest hright
      split at h
      · rename_i hc
        obtain rfl := List.mem_singleton.1 h
        exact ⟨[c], .step hright, c, hc, rfl⟩
      · cases h
    · cases h
  | run accepts => exact Place.reaches_of_mem_runs h
  | quoted quote escapes => exact reaches_of_mem_quotedEnds _ h
  | seq first second ihfirst ihsecond =>
    obtain ⟨middle, hmiddle, hlast⟩ := List.mem_flatMap.1 h
    obtain ⟨one, hone, hreads⟩ := ihfirst hmiddle
    obtain ⟨two, htwo, hrest⟩ := ihsecond hlast
    exact ⟨one ++ two, hone.trans htwo, one, two, hreads, hrest, rfl⟩
  | either first second ihfirst ihsecond =>
    rcases List.mem_append.1 h with h | h
    · obtain ⟨cs, hcs, hreads⟩ := ihfirst h
      exact ⟨cs, hcs, .inl hreads⟩
    · obtain ⟨cs, hcs, hreads⟩ := ihsecond h
      exact ⟨cs, hcs, .inr hreads⟩
  | optional body ih =>
    rcases List.mem_append.1 h with h | h
    · obtain ⟨cs, hcs, hreads⟩ := ih h
      exact ⟨cs, hcs, .inl hreads⟩
    · obtain rfl := List.mem_singleton.1 h
      exact ⟨[], .refl _, .inr rfl⟩
  | ahead | notAhead | behind | notBehind | wordBoundary | finish =>
    simp only [ends, List.mem_ite_nil_left, List.mem_ite_nil_right, List.mem_singleton] at h
    exact ⟨[], h.2 ▸ .refl place, rfl⟩

/-- The pattern reads at least one character. -/
def isProductive : Pattern → Bool
  | .one _ | .quoted _ _ => true
  | .seq first second => first.isProductive || second.isProductive
  | .either first second => first.isProductive && second.isProductive
  | _ => false

theorem Reads.ne_nil {pattern : Pattern} {cs : List Char} (h : pattern.Reads cs)
    (hproductive : pattern.isProductive = true) : cs ≠ [] := by
  induction pattern generalizing cs with
  | one =>
    obtain ⟨c, -, rfl⟩ := h
    exact List.cons_ne_nil _ _
  | quoted =>
    rintro rfl
    cases h
  | seq first second ihfirst ihsecond =>
    obtain ⟨one, two, hone, htwo, rfl⟩ := h
    rcases Bool.or_eq_true_iff.1 hproductive with hproductive | hproductive
    · exact List.append_ne_nil_of_left_ne_nil (ihfirst hone hproductive) _
    · exact List.append_ne_nil_of_right_ne_nil _ (ihsecond htwo hproductive)
  | either first second ihfirst ihsecond =>
    obtain ⟨hfirst, hsecond⟩ := Bool.and_eq_true_iff.1 hproductive
    rcases h with h | h
    · exact ihfirst h hfirst
    · exact ihsecond h hsecond
  | run | optional | ahead | notAhead | behind | notBehind | wordBoundary | finish =>
    cases hproductive

end Pattern

/-! ### Tokens -/

/-- Where a token may come from. -/
inductive Token.IsLexed : Token → Prop
  | quotation {kind : TokenKind} (h : kind ∈ [.blockHint, .blockComment, .literal]) (text : String) :
      IsLexed ⟨kind, text⟩
  | rule {rule : Rule} (h : rule ∈ rules) {cs : List Char} (hreads : rule.pattern.Reads cs) :
      IsLexed ⟨rule.kind (String.ofList cs), String.ofList cs⟩
  | unknown (text : String) : IsLexed ⟨.unknown, text⟩

theorem rules_isProductive : ∀ rule ∈ rules, rule.pattern.isProductive = true := by
  have hrules : (rules.all fun rule => rule.pattern.isProductive) = true := by decide +kernel
  exact List.all_eq_true.1 hrules

/-- What the first rule that applies reads is of the language of that rule. -/
theorem firstRule?_eq_some {left : Option Char} {right : List Char} {kind : TokenKind} {length : Nat}
    (h : firstRule? left right = some (kind, length)) :
    ∃ rule ∈ rules, rule.pattern.Reads (right.take length) ∧ 1 ≤ length ∧
      kind = rule.kind (String.ofList (right.take length)) := by
  obtain ⟨rule, hrule, hread⟩ := List.exists_of_findSome?_eq_some h
  obtain ⟨size, hsize, hkind⟩ := Option.bind_eq_some_iff.1 hread
  obtain ⟨rfl, rfl⟩ := Prod.mk.inj (Option.some.inj hkind)
  rw [Pattern.length?_eq] at hsize
  obtain ⟨last, hlast, rfl⟩ := Option.map_eq_some_iff.1 hsize
  obtain ⟨cs, ⟨hright, htaken⟩, hreads⟩ := Pattern.reaches_of_mem_ends (List.mem_of_mem_head? hlast)
  dsimp only at hright htaken
  have hne := hreads.ne_nil (rules_isProductive rule hrule)
  rw [Nat.zero_add] at htaken
  have hread : right.take last.taken = cs := by rw [htaken, hright, List.take_left]
  exact ⟨rule, hrule, by rw [hread]; exact hreads, htaken ▸ List.length_pos_iff.2 hne, rfl⟩

theorem quotation?_kind {left : Option Char} {right : List Char} {kind : TokenKind} {length : Nat}
    (h : quotation? left right = some (kind, length)) :
    kind ∈ [.blockHint, .blockComment, .literal] := by
  unfold quotation? at h
  split at h
  · obtain ⟨size, -, hsize⟩ := Option.map_eq_some_iff.1 h
    simp [← (Prod.mk.inj hsize).1]
  · obtain ⟨size, -, hsize⟩ := Option.map_eq_some_iff.1 h
    simp [← (Prod.mk.inj hsize).1]
  · split at h
    · cases h
    · obtain ⟨mark, -, hmark⟩ := Option.bind_eq_some_iff.1 h
      obtain ⟨size, -, hsize⟩ := Option.map_eq_some_iff.1 hmark
      simp [← (Prod.mk.inj hsize).1]

theorem isLexed_tokenAt (left : Option Char) (right : List Char) :
    Token.IsLexed ⟨(tokenAt left right).1,
      String.ofList (right.take (max 1 (tokenAt left right).2))⟩ := by
  unfold tokenAt
  cases hquotation : quotation? left right with
  | some found => exact .quotation (quotation?_kind hquotation) _
  | none =>
    cases hrule : firstRule? left right with
    | none => exact .unknown _
    | some found =>
      obtain ⟨kind, length⟩ := found
      obtain ⟨rule, hmem, hreads, hlength, rfl⟩ := firstRule?_eq_some hrule
      change Token.IsLexed ⟨_, String.ofList (right.take (max 1 length))⟩
      rw [Nat.max_eq_right hlength]
      exact .rule hmem hreads

theorem isLexed_of_mem_readTokens {count : Nat} {left : Option Char} {chars : List Char}
    {token : Token} (h : token ∈ readTokens count left chars) : token.IsLexed := by
  fun_induction readTokens count left chars with
  | case1 | case2 => cases h
  | case3 count left c rest right kind length hkind read ih =>
    rcases List.mem_cons.1 h with rfl | h
    · have hlexed := isLexed_tokenAt left right
      rwa [hkind] at hlexed
    · exact ih h

/-- Every token of a text comes from a quotation or from a rule, or is of unknown kind. -/
theorem isLexed_of_mem_tokenize {sql : String} {token : Token} (h : token ∈ tokenize sql) :
    token.IsLexed :=
  isLexed_of_mem_readTokens h

end SemanticLayer.Sql
