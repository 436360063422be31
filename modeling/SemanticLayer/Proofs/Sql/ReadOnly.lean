import SemanticLayer.Proofs.Outcome
import SemanticLayer.Proofs.Sql.Splitting
import SemanticLayer.Proofs.Text.Case

/-!
Texts that are accepted as one statement that only reads. The text of such a statement has no blanks
at its ends, all of its tokens belong to the one statement, and a semicolon among them closes
nothing, or has only blanks and line comments after it.
-/

namespace SemanticLayer.Sql

open Text

/-! ### Blank tokens -/

/-- Two rules make blank tokens. -/
theorem rules_blank : ∀ rule ∈ rules, (∀ text, (rule.kind text).isBlank = false) ∨
    rule.pattern = Rule.lineBreak ∨ rule.pattern = .one isBlank := by
  have hword (word : String) : (wordKind word).isBlank = false := by
    unfold wordKind
    split_ifs <;> rfl
  simpa [rules, markRules, valueRules, wordRules, Rule.always, TokenKind.isBlank]
    using .inl fun text => hword (upper text)

/-- A blank token holds nothing but blanks. -/
theorem Token.IsLexed.isBlank {token : Token} (h : token.IsLexed) (hkind : token.kind.isBlank = true) :
    ∀ c ∈ token.text.toList, isBlank c = true := by
  cases h with
  | quotation h text =>
    have hnone : ∀ kind ∈ [TokenKind.blockHint, .blockComment, .literal], kind.isBlank = false := by
      decide
    exact absurd (hkind.symm.trans (hnone _ h)) (by simp)
  | unknown text => cases hkind
  | @rule rule hrule cs hreads =>
    rw [String.toList_ofList]
    rcases rules_blank rule hrule with hnot | hpattern | hpattern
    · exact absurd (hkind.symm.trans (hnot _)) (by simp)
    · rw [hpattern] at hreads
      rcases hreads with ⟨one, two, ⟨c, hc, rfl⟩, ⟨d, hd, rfl⟩, rfl⟩ | ⟨c, hc, rfl⟩ | ⟨c, hc, rfl⟩
      · obtain ⟨rfl, rfl⟩ := And.intro (beq_iff_eq.1 hc) (beq_iff_eq.1 hd)
        exact List.all_eq_true.1 (by decide)
      · obtain rfl := beq_iff_eq.1 hc
        exact List.all_eq_true.1 (by decide)
      · obtain rfl := beq_iff_eq.1 hc
        exact List.all_eq_true.1 (by decide)
    · rw [hpattern] at hreads
      obtain ⟨c, hc, rfl⟩ := hreads
      simpa using hc

theorem trimChars_eq_nil {cs : List Char} (h : trimChars cs = []) : ∀ c ∈ cs, isBlank c = true := by
  have hdrop : cs.dropWhile isBlank = [] := by
    change (cs.dropWhile isBlank).rdropWhile isBlank = [] at h
    rw [List.rdropWhile_eq_nil_iff] at h
    rw [List.eq_nil_iff_forall_not_mem]
    intro c hc
    have hhead := List.head?_dropWhile_not isBlank cs
    cases hcs : cs.dropWhile isBlank with
    | nil => simp [hcs] at hc
    | cons first rest =>
      rw [hcs] at hhead
      exact absurd ((h first (by simp [hcs])).symm.trans (by simpa using hhead)) (by simp)
  exact List.dropWhile_eq_nil_iff.1 hdrop

/-- A statement with a token that is more than blanks is no blank statement. -/
theorem isNonBlank_of_mem {tokens : List Token} {token : Token} (h : token ∈ tokens) {c : Char}
    (hc : c ∈ token.text.toList) (hblank : isBlank c = false) : isNonBlank tokens = true := by
  have hmem : c ∈ (Token.textOf tokens).toList := by
    rw [Token.textOf, String.toList_join]
    exact List.mem_flatMap.2 ⟨_, List.mem_map_of_mem h, hc⟩
  rw [isNonBlank, Bool.not_eq_true', List.isEmpty_eq_false_iff]
  intro hnil
  exact absurd (hblank.symm.trans (trimChars_eq_nil hnil c hmem)) (by simp)

/-- A token that completes a statement is a semicolon or a word with a G. -/
theorem Splitting.IsClosedBy.exists_mem {state : Splitting} {token : Token}
    (h : state.IsClosedBy token) : ∃ c ∈ token.text.toList, c = ';' ∨ c = 'G' := by
  rcases h with ⟨hmark, -⟩ | ⟨-, hbatch⟩
  · have htext : token.text = ";" := by
      simp only [Token.isMark, Bool.and_eq_true, beq_iff_eq] at hmark
      exact hmark.2
    exact ⟨';', by simp [htext], .inl rfl⟩
  · simp only [separatesBatches, Bool.and_eq_true, beq_iff_eq] at hbatch
    have hword : (token.text.toList.takeWhile fun c => !isBlank c) = ['G', 'O'] := by
      rw [← String.toList_ofList (l := token.text.toList.takeWhile _), hbatch.2]
      rfl
    have hmem : 'G' ∈ token.text.toList.takeWhile fun c => !isBlank c := by simp [hword]
    exact ⟨'G', (List.takeWhile_prefix _).subset hmem, .inr rfl⟩

theorem Splitting.IsClosedBy.exists_not_isBlank {state : Splitting} {token : Token}
    (h : state.IsClosedBy token) : ∃ c ∈ token.text.toList, isBlank c = false := by
  obtain ⟨c, hc, rfl | rfl⟩ := h.exists_mem
  · exact ⟨';', hc, by decide⟩
  · exact ⟨'G', hc, by decide⟩

theorem text_ne_empty_of_mem_readTokens {count : Nat} {left : Option Char} {chars : List Char}
    {token : Token} (h : token ∈ readTokens count left chars) : token.text.toList ≠ [] := by
  fun_induction readTokens count left chars with
  | case1 | case2 => cases h
  | case3 count left c rest right kind length hkind read ih =>
    rcases List.mem_cons.1 h with rfl | h
    · rw [String.toList_ofList, Ne, List.take_eq_nil_iff, not_or]
      exact ⟨by omega, List.cons_ne_nil _ _⟩
    · exact ih h

/-! ### One statement -/

/-- Where the text ends with no blank, the tokens after a place are more than blanks. -/
theorem exists_not_isBlank {text : String} (hlast : ∀ c ∈ text.toList.getLast?, isBlank c = false)
    {before rest : List Token} {token : Token} (h : tokenize text = before ++ token :: rest) :
    ∃ other ∈ token :: rest, ∃ c ∈ other.text.toList, isBlank c = false := by
  have htext : text.toList = (Token.textOf before).toList ++ (Token.textOf (token :: rest)).toList := by
    rw [← textOf_tokenize text, h]
    simp [Token.textOf]
  have hfirst : token.text.toList ≠ [] :=
    text_ne_empty_of_mem_readTokens (h.symm ▸ List.mem_append_right _ List.mem_cons_self)
  have hne : (Token.textOf (token :: rest)).toList ≠ [] := by
    simpa [Token.textOf] using fun htoken => absurd htoken (by simpa using hfirst)
  rw [htext, List.getLast?_append_of_ne_nil _ hne, List.getLast?_eq_some_getLast hne] at hlast
  have hmem := List.getLast_mem hne
  generalize (Token.textOf (token :: rest)).toList.getLast hne = c at hlast hmem
  rw [Token.textOf, String.toList_join, List.mem_flatMap] at hmem
  obtain ⟨otherText, hotherText, hc⟩ := hmem
  obtain ⟨other, hother, rfl⟩ := List.mem_map.1 hotherText
  exact ⟨other, hother, c, hc, hlast c rfl⟩

/-- Where a text ends with no blank and just one of its statements is more than blanks, it has no
other statement. -/
theorem statements_eq_singleton {text : String} (hlast : ∀ c ∈ text.toList.getLast?, isBlank c = false)
    {tokens : List Token} (h : (statements (tokenize text)).filter isNonBlank = [tokens]) :
    statements (tokenize text) = [tokenize text] := by
  by_cases hcontinues : Splitting.start.Continues (tokenize text)
  · have hrun := Splitting.run_of_continues hcontinues
    change statements (tokenize text) = if ([] ++ tokenize text).all _ then _ else _ at hrun
    split at hrun
    · rw [hrun] at h
      cases h
    · exact hrun
  · -- The text is divided where a statement is complete, and there is something on either side.
    obtain ⟨before, token, rest, htokens, hended, -, hrun⟩ :=
      Splitting.run_of_not_continues hcontinues
    change statements (tokenize text) = before :: _ at hrun
    have hbefore : isNonBlank before = true := by
      obtain ⟨first, closing, later, rfl, hclosed⟩ := Splitting.exists_isClosedBy hended rfl
      obtain ⟨c, hc, hblank⟩ := hclosed.exists_not_isBlank
      exact isNonBlank_of_mem (by simp) hc hblank
    obtain ⟨other, hother, c, hc, hblank⟩ := exists_not_isBlank hlast htokens
    have hkind : other.kind.isBlank = false := by
      have hlexed : other.IsLexed :=
        isLexed_of_mem_tokenize (htokens ▸ List.mem_append_right _ hother)
      rw [← Bool.not_eq_true]
      intro hkind
      exact absurd (hblank.symm.trans (hlexed.isBlank hkind c hc)) (by simp)
    have hread : other ∈ Splitting.start.tokens ∨ other ∈ token :: rest := .inr hother
    obtain ⟨statement, hstatement, hmem⟩ := Splitting.exists_mem_run hread hkind
    have hlater : statement ∈ (Splitting.start.run (token :: rest)).filter isNonBlank :=
      List.mem_filter.2 ⟨hstatement, isNonBlank_of_mem hmem hc hblank⟩
    rw [hrun, List.filter_cons_of_pos hbefore] at h
    rw [(List.cons.inj h).2] at hlater
    cases hlater

/-! ### Texts that are accepted -/

/-- The text is one statement that only reads. -/
structure IsReadOnly (text : String) : Prop where
  nonempty : text ≠ ""
  single : statements (tokenize text) = [tokenize text]
  select : statementKind (tokenize text) = .ok "SELECT"
  harmless : ∀ token ∈ tokenize text, token.writeKeyword? = none

theorem refuseStatement?_eq_none {tokens : List Token} {kind : String} :
    refuseStatement? tokens kind = none ↔
      (∀ token ∈ tokens, token.writeKeyword? = none) ∧ kind = "SELECT" := by
  rw [← List.findSome?_eq_none_iff, refuseStatement?]
  cases tokens.findSome? Token.writeKeyword? with
  | none => simp
  | some keyword => simp

section

variable (sql : String)

theorem not_isBlank_head?_trimStatement :
    ∀ c ∈ (trimStatement sql).toList.head?, isBlank c = false := by
  rw [trimStatement, trim, String.toList_ofList]
  exact not_isBlank_of_mem_head?_trimChars

theorem not_isBlank_getLast?_trimStatement :
    ∀ c ∈ (trimStatement sql).toList.getLast?, isBlank c = false := by
  rw [trimStatement, trim, String.toList_ofList]
  exact not_isBlank_of_mem_getLast?_trimChars

end

/-- A text with no blank at its ends is left as it is just if it does not end with a semicolon. -/
theorem trimStatement_eq_self {text : String} (hhead : ∀ c ∈ text.toList.head?, isBlank c = false)
    (hlast : ∀ c ∈ text.toList.getLast?, isBlank c = false) :
    trimStatement text = text ↔ text.toList.getLast? ≠ some ';' := by
  rw [trimStatement, trimChars_eq_self hhead hlast]
  change trim (String.ofList (text.toList.rdropWhile (· == ';'))) = text ↔ _
  rw [trim, String.toList_ofList]
  constructor
  · -- What is left without the semicolon is shorter than the text.
    intro h hsemicolon
    obtain ⟨init, hinit⟩ := List.getLast?_eq_some_iff.1 hsemicolon
    have hshort := congrArg (fun text : String => text.toList.length) h
    rw [String.toList_ofList, hinit, List.rdropWhile_concat_pos _ _ _ (by decide),
      List.length_append, List.length_singleton] at hshort
    have htrim : trimChars (init.rdropWhile (· == ';')) <:+: init :=
      ((List.rdropWhile_prefix isBlank _).isInfix.trans (List.dropWhile_suffix isBlank).isInfix).trans
        (List.rdropWhile_prefix _ init).isInfix
    have hle := htrim.length_le
    omega
  · intro hsemicolon
    have hdrop : text.toList.rdropWhile (· == ';') = text.toList := by
      rw [List.rdropWhile_eq_self_iff]
      intro hne hmark
      exact hsemicolon (by rw [List.getLast?_eq_some_getLast hne, beq_iff_eq.1 hmark])
    rw [hdrop, trimChars_eq_self hhead hlast, String.ofList_toList]

/-- Each statement is taken together with its sort. -/
theorem forall₂_of_parsed {found : List (List Token)} {parsed : List (List Token × String)}
    (h : (found.mapM fun tokens => do return (tokens, ← statementKind tokens)) = .ok parsed) :
    List.Forall₂ (fun tokens pair => pair.1 = tokens ∧ statementKind tokens = .ok pair.2)
      found parsed := by
  refine (forall₂_of_mapM h).imp fun tokens pair hpair => ?_
  obtain ⟨kind, hkind, hpair⟩ := bind_eq_ok.1 hpair
  obtain rfl := pure_eq_ok.1 hpair
  exact ⟨rfl, hkind⟩

theorem filter_of_parsed {found : List (List Token)} {parsed : List (List Token × String)}
    (h : List.Forall₂ (fun tokens pair => pair.1 = tokens ∧ statementKind tokens = .ok pair.2)
      found parsed) :
    (parsed.filter fun pair => isNonBlank pair.1).map Prod.fst = found.filter isNonBlank := by
  induction h with
  | nil => rfl
  | @cons tokens pair _ _ hpair _ ih =>
    obtain ⟨rfl, -⟩ := hpair
    cases hblank : isNonBlank pair.1 <;> simp [hblank, ih]

/-- A text is accepted as what is left of it without blanks at its ends and semicolons at its end,
if that is one statement that only reads. -/
theorem checkReadOnly_eq_ok {sql text : String} :
    checkReadOnly sql = .ok ⟨text, none⟩ ↔ text = trimStatement sql ∧ IsReadOnly text := by
  have hlast := not_isBlank_getLast?_trimStatement sql
  unfold checkReadOnly
  generalize trimStatement sql = trimmed at hlast ⊢
  dsimp only
  by_cases hempty : trimmed = ""
  · subst hempty
    refine iff_of_false (by simp [pure, Except.pure]) ?_
    rintro ⟨rfl, hread⟩
    exact hread.nonempty rfl
  rw [if_neg (by simpa using hempty)]
  constructor
  · intro h
    obtain ⟨parsed, hparsed, hanswer⟩ := bind_eq_ok.1 h
    have hpairs := forall₂_of_parsed hparsed
    split at hanswer
    · rename_i tokens kind hfilter
      obtain ⟨rfl, hrefuse⟩ := ReadOnlyAnswer.mk.inj (pure_eq_ok.1 hanswer)
      obtain ⟨hharmless, rfl⟩ := refuseStatement?_eq_none.1 hrefuse
      have hfound := filter_of_parsed hpairs
      rw [hfilter] at hfound
      have hsingle := statements_eq_singleton hlast hfound.symm
      rw [hsingle] at hpairs
      obtain ⟨⟨one, kind⟩, rest, ⟨rfl, hkind⟩, hrest, rfl⟩ := List.forall₂_cons_left_iff.1 hpairs
      obtain rfl := List.forall₂_nil_left_iff.1 hrest
      obtain ⟨hmem, -⟩ := List.mem_filter.1 (hfilter ▸ List.mem_singleton_self _)
      obtain ⟨rfl, rfl⟩ := Prod.mk.inj (List.mem_singleton.1 hmem)
      exact ⟨rfl, hempty, hsingle, hkind, hharmless⟩
    · cases (ReadOnlyAnswer.mk.inj (pure_eq_ok.1 hanswer)).2
  · rintro ⟨rfl, hread⟩
    have hnonblank : isNonBlank (tokenize text) = true := by
      rw [isNonBlank, textOf_tokenize, Bool.not_eq_true', List.isEmpty_eq_false_iff]
      intro hnil
      have hne : text.toList ≠ [] := by simpa using hempty
      have hblank := trimChars_eq_nil hnil _ (List.getLast_mem hne)
      have hnot := hlast _ (List.getLast?_eq_some_getLast hne)
      exact absurd (hnot.symm.trans hblank) (by simp)
    obtain ⟨-, hsingle, hkind, hharmless⟩ := hread
    generalize tokenize text = tokens at hnonblank hsingle hkind hharmless ⊢
    have hrefuse := refuseStatement?_eq_none.2 ⟨hharmless, rfl⟩
    refine bind_eq_ok.2 ⟨[(tokens, "SELECT")], ?_, ?_⟩
    · rw [hsingle, List.mapM_cons, List.mapM_nil, hkind]
      rfl
    · have hfilter : [(tokens, "SELECT")].filter (fun pair => isNonBlank pair.1) =
          [(tokens, "SELECT")] := by simp [hnonblank]
      rw [hfilter]
      exact congrArg (fun refusal => Except.ok (ReadOnlyAnswer.mk text refusal)) hrefuse

end SemanticLayer.Sql
