import SemanticLayer.Proofs.Sql.Scan

/-!
Parentheses. The scanner keeps one scope for each open parenthesis, and a scope holds a query if the
parenthesis begins like a query or stands where a table has to. Names never contain parentheses, and
the arguments of an array function close as many as they open, so passing over them leaves the
scopes in step with the parentheses.
-/

namespace SemanticLayer.Sql

/-- The places of the open parentheses after the tokens, the innermost first, where the first token
stands at `place` and those in `opened` are open already. -/
def openFrom (place : Nat) (opened : List Nat) : List Token → List Nat
  | [] => opened
  | token :: rest =>
    if token.isMark "(" then openFrom (place + 1) (place :: opened) rest
    else if token.isMark ")" then openFrom (place + 1) opened.tail rest
    else openFrom (place + 1) opened rest

/-- The places of the parentheses that are open before a place. -/
def openBefore (tokens : List Token) (place : Nat) : List Nat :=
  openFrom 0 [] (tokens.take place)

/-- Every parenthesis is closed, and none is closed before it is opened. -/
def IsBalanced (tokens : List Token) : Prop :=
  (∀ place ≤ tokens.length, (tokens.take place).countP (·.isMark ")") ≤
      (tokens.take place).countP (·.isMark "(")) ∧
    tokens.countP (·.isMark ")") = tokens.countP (·.isMark "(")

instance : DecidablePred IsBalanced := fun _ => inferInstanceAs (Decidable (_ ∧ _))

theorem openFrom_append (front back : List Token) (place : Nat) (opened : List Nat) :
    openFrom place opened (front ++ back) =
      openFrom (place + front.length) (openFrom place opened front) back := by
  induction front generalizing place opened with
  | nil => rfl
  | cons token rest ih =>
    have hlength : place + (token :: rest).length = place + 1 + rest.length := by
      rw [List.length_cons]
      omega
    rw [List.cons_append, openFrom, openFrom, hlength]
    split
    · exact ih _ _
    split
    · exact ih _ _
    · exact ih _ _

theorem openFrom_plain {tokens : List Token} (place : Nat) (opened : List Nat)
    (h : ∀ token ∈ tokens, token.isMark "(" = false ∧ token.isMark ")" = false) :
    openFrom place opened tokens = opened := by
  induction tokens generalizing place with
  | nil => rfl
  | cons token rest ih =>
    obtain ⟨hopen, hclose⟩ := h token List.mem_cons_self
    rw [openFrom, hopen, hclose, if_neg (by simp), if_neg (by simp)]
    exact ih _ fun other hother => h other (List.mem_cons_of_mem _ hother)

/-- A group that is closed closes all parentheses that were opened in it. -/
theorem openFrom_group (tokens : List Token) (place : Nat) (inner outer : List Nat)
    (hinner : inner ≠ []) (hclosed : groupLength inner.length tokens < tokens.length) :
    openFrom place (inner ++ outer) (tokens.take (groupLength inner.length tokens)) = outer := by
  induction tokens generalizing place inner with
  | nil => simp [groupLength] at hclosed
  | cons token rest ih =>
    rw [groupLength] at hclosed ⊢
    split
    · rename_i hopen
      rw [if_pos hopen, List.length_cons] at hclosed
      rw [List.take_succ_cons, openFrom, if_pos hopen]
      exact ih (place + 1) (place :: inner) (by simp) (by rw [List.length_cons]; omega)
    split
    · rename_i hopen hclose
      split
      · rename_i hlast
        have hlength : inner.length = 1 := by simpa using hlast
        obtain ⟨last, rfl⟩ := List.length_eq_one_iff.1 hlength
        simp [openFrom, hopen, hclose]
      · rename_i hmore
        rw [if_neg hopen, if_pos hclose, if_neg hmore, List.length_cons] at hclosed
        obtain ⟨first, others, rfl⟩ := List.exists_cons_of_ne_nil hinner
        rw [List.take_succ_cons, openFrom, if_neg hopen, if_pos hclose]
        have hothers : others ≠ [] := by
          rintro rfl
          simp at hmore
        rw [List.length_cons, Nat.add_sub_cancel] at hclosed ⊢
        exact ih (place + 1) others hothers (by omega)
    · rename_i hopen hclose
      rw [if_neg hopen, if_neg hclose, List.length_cons] at hclosed
      rw [List.take_succ_cons, openFrom, if_neg hopen, if_neg hclose]
      exact ih (place + 1) inner hinner (by omega)

theorem openBefore_add {tokens : List Token} {place : Nat} (hplace : place ≤ tokens.length)
    (count : Nat) :
    openBefore tokens (place + count) =
      openFrom place (openBefore tokens place) ((tokens.drop place).take count) := by
  rw [openBefore, List.take_add, openFrom_append, List.length_take, Nat.min_eq_left hplace,
    Nat.zero_add, openBefore]

theorem openBefore_succ {tokens : List Token} {place : Nat} {token : Token}
    (h : tokens[place]? = some token) :
    openBefore tokens (place + 1) =
      if token.isMark "(" then place :: openBefore tokens place
      else if token.isMark ")" then (openBefore tokens place).tail
      else openBefore tokens place := by
  obtain ⟨hlt, rfl⟩ := List.getElem?_eq_some_iff.1 h
  rw [openBefore_add (Nat.le_of_lt hlt), List.drop_eq_getElem_cons hlt, List.take_succ_cons,
    List.take_zero, openFrom]
  rfl

namespace Scan

variable {declared : List String} {scan : Scan} {token : Token} {rest tokens : List Token}
  {place : Nat}

/-- What is read along with a name leaves no parenthesis open. -/
theorem Reads.openBefore_eq (h : Reads tokens place token)
    (hlength : place + token.extent (tokens.drop (place + 1)) < tokens.length) :
    openBefore tokens (place + token.extent (tokens.drop (place + 1))) =
      openBefore tokens place := by
  obtain ⟨hlt, rfl⟩ := List.getElem?_eq_some_iff.1 h.found
  have hname := Token.standsInName_of_isIdentifierPart h.part
  have hdrop : tokens.drop place = tokens[place] :: tokens.drop (place + 1) :=
    List.drop_eq_getElem_cons hlt
  -- The first token opens and closes nothing.
  have hfirst (count : Nat) : openBefore tokens (place + (count + 1)) =
      openFrom (place + 1) (openBefore tokens place) ((tokens.drop (place + 1)).take count) := by
    rw [openBefore_add (Nat.le_of_lt hlt), hdrop, List.take_succ_cons, openFrom, hname.notOpen,
      hname.notClose, if_neg (by simp), if_neg (by simp)]
  rw [Token.extent] at hlength ⊢
  split
  · rename_i hunnest
    rw [if_pos hunnest] at hlength
    obtain ⟨mark, after, hafter, hmark⟩ := Token.exists_of_opensUnnest hunnest
    have hgroup : 1 + groupLength 0 (mark :: after) = groupLength 1 after + 1 + 1 := by
      rw [groupLength, if_pos hmark, Nat.zero_add]
      omega
    have hcount : after.length + (place + 2) = tokens.length := by
      have hlength := congrArg List.length hafter
      rw [List.length_drop, List.length_cons] at hlength
      omega
    rw [hafter, hgroup] at hlength ⊢
    rw [hfirst, hafter, List.take_succ_cons, openFrom, if_pos hmark]
    exact openFrom_group after _ [place + 1] _ (by simp) (by rw [List.length_singleton]; omega)
  · have hpos : nameLength (tokens.drop (place + 1)) =
        nameLength (tokens.drop (place + 1)) - 1 + 1 := by
      unfold nameLength
      omega
    rw [hpos, hfirst]
    refine openFrom_plain _ _ fun token htoken => ?_
    exact ⟨(standsInName_of_mem htoken).notOpen, (standsInName_of_mem htoken).notClose⟩

/-! ### Scopes -/

/-- Whether queries stand in the open parentheses and outside all of them. -/
def queries (scan : Scan) : List Bool :=
  (scan.scope :: scan.outer).map Scope.holdsQuery

theorem queries_readListToken : (scan.readListToken token).queries = scan.queries := by
  unfold readListToken
  split
  · split
    · rfl
    · split <;> rfl
  · rfl

theorem queries_leave (opened : List Bool) (h : scan.queries = opened ++ [true]) :
    scan.leave.queries = opened.tail ++ [true] := by
  unfold leave
  cases houter : scan.outer with
  | nil =>
    cases opened with
    | nil => simp [queries]
    | cons first others => simp [queries, houter] at h
  | cons scope outer =>
    cases opened with
    | nil => simp [queries, houter] at h
    | cons first others =>
      have htail := congrArg List.tail h
      simpa [queries, houter] using htail

theorem queries_readToken (opened : List Bool) (h : scan.queries = opened ++ [true]) :
    (scan.readToken token rest).queries =
      (if token.isMark "(" then follows rest Token.startsQuery :: opened
      else if token.isMark ")" then opened.tail else opened) ++ [true] := by
  unfold readToken
  split
  · exact congrArg (follows rest Token.startsQuery :: ·) h
  split
  · exact queries_leave opened h
  split
  · split
    · exact h
    · exact queries_readListToken.trans h
  · exact queries_readListToken.trans h

/-- Whether a query or a join of tables stands in a parenthesis: it begins like a query or stands
where a table has to. -/
def holdsQuery (tokens : List Token) (place : Nat) : Bool :=
  follows (tokens.drop (place + 1)) Token.startsQuery || (reach tokens place).expecting

theorem queries_readTable (opened : List Bool) (h : scan.queries = opened ++ [true]) :
    (scan.readTable declared token rest).2.queries =
      (if token.isMark "(" then true :: opened
      else if token.isMark ")" then opened.tail else opened) ++ [true] := by
  unfold readTable
  dsimp only
  split
  · exact congrArg (true :: ·) h
  rename_i hopen
  split
  · rename_i hmodifier
    obtain ⟨keyword, -, hkeyword⟩ := Token.isKeywordOf_iff.1 hmodifier
    rw [Token.isMark_of_keyword? hkeyword, if_neg (by simp)]
    exact h
  split
  · rename_i hpart
    rw [(Token.standsInName_of_isIdentifierPart hpart).notClose, if_neg (by simp)]
    exact h
  · have hcalm : ({ scan with expecting := false } : Scan).queries = opened ++ [true] := h
    refine (queries_readToken opened hcalm).trans ?_
    rw [if_neg hopen]

theorem queries_step (opened : List Bool) (hskip : scan.skip = 0)
    (h : scan.queries = opened ++ [true]) :
    (scan.step declared token rest).2.queries =
      (if token.isMark "(" then (follows rest Token.startsQuery || scan.expecting) :: opened
      else if token.isMark ")" then opened.tail else opened) ++ [true] := by
  cases htrivia : token.isTrivia with
  | true =>
    rw [step_of_trivia hskip htrivia, Token.isMark_of_isTrivia htrivia,
      Token.isMark_of_isTrivia htrivia, if_neg (by simp), if_neg (by simp)]
    exact h
  | false =>
    cases hexpecting : scan.expecting with
    | true =>
      rw [step_of_expecting hskip htrivia hexpecting, Bool.or_true]
      exact queries_readTable opened h
    | false =>
      rw [step_of_calm hskip htrivia hexpecting, Bool.or_false]
      exact queries_readToken opened h

/-- The scopes are in step with the open parentheses wherever no name is being passed over. -/
theorem queries_reach (tokens : List Token) (place : Nat) (hplace : place < tokens.length)
    (hskip : (reach tokens place).skip = 0) :
    (reach tokens place).queries =
      (openBefore tokens place).map (holdsQuery tokens) ++ [true] := by
  induction place using Nat.strong_induction_on with
  | _ place ih =>
    cases place with
    | zero => rfl
    | succ place =>
      have htoken : tokens[place]? = some tokens[place] := List.getElem?_eq_getElem (by omega)
      rcases Nat.eq_zero_or_pos (reach tokens place).skip with hfree | hbusy
      · have hbefore := ih place (by omega) (by omega) hfree
        rw [reach_succ htoken, queries_step _ hfree hbefore, openBefore_succ htoken]
        split
        · rfl
        split
        · rw [List.map_tail]
        · rfl
      · -- The last token of a name has been passed over.
        obtain ⟨first, token, hlt, hreads, hsum⟩ := exists_reads_of_skip (by omega) hbusy
        have hpassed : (reach tokens (place + 1)).skip = (reach tokens place).skip - 1 := by
          rw [reach_succ htoken, step_of_skip hbusy]
          rfl
        have hend : first + token.extent (tokens.drop (first + 1)) = place + 1 := by omega
        have hopen := hreads.openBefore_eq (by omega)
        have hcount : first + 1 + (place - first) = place + 1 := by omega
        obtain ⟨-, -, hscope, houter⟩ := hreads.reach_eq (place - first) (by omega) (by omega)
        rw [hcount] at hscope houter
        rw [hend] at hopen
        rw [hopen, ← ih first (by omega) (by omega) hreads.free, queries, queries, hscope, houter]

/-- A query or a join of tables is read at a place if one stands in the innermost parenthesis there,
or if there is no parenthesis. -/
theorem holdsQuery_reach (hplace : place < tokens.length)
    (hskip : (reach tokens place).skip = 0) :
    (reach tokens place).scope.holdsQuery = true ↔
      ∀ opened ∈ (openBefore tokens place).head?, holdsQuery tokens opened = true := by
  have hqueries := queries_reach tokens place hplace hskip
  cases hopen : openBefore tokens place with
  | nil => simp_all [queries]
  | cons first others => simp_all [queries]

end Scan

end SemanticLayer.Sql
