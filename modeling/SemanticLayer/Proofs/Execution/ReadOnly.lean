import SemanticLayer.Proofs.Execution.RawQuery
import SemanticLayer.Proofs.Sql.RowLimit
import SemanticLayer.Proofs.Sql.WriteKeyword

/-!
What may be said of hand-written SQL that was accepted as one statement that only reads. Semicolons
are taken from its end once, so one may be left where there were blanks between several of them;
others stand inside parentheses and blocks, or before a line comment.
-/

namespace SemanticLayer

open Text

theorem readOnlySql_iff {sql text : String} :
    readOnlySql sql = .ok text ↔ text = Sql.trimStatement sql ∧ Sql.IsReadOnly text :=
  readOnlySql_eq_ok.trans Sql.checkReadOnly_eq_ok

/-! ### Semicolons -/

/-- Where the semicolons of a statement are, and what becomes of it when its rows are bounded or it is
checked again. -/
structure IsOneStatement (text : String) : Prop where
  /-- A semicolon closes nothing, or has only blanks and line comments after it. -/
  semicolons : ∀ before token after, Sql.tokenize text = before ++ token :: after →
    token.isMark ";" = true →
      (Sql.Splitting.start.readAll (before ++ [token])).IsOpen ∨
        ∀ later ∈ after, Sql.Splitting.Trails later
  bounded : ∀ maxRows bounded, boundedSql text maxRows = .ok bounded →
    Sql.IsBounded text maxRows bounded
  again : readOnlySql text = .ok text ↔ text.toList.getLast? ≠ some ';'

/-- What is accepted is one statement in the sense of the splitting of statements, not one without
semicolons. -/
theorem readOnlySql_isOneStatement {sql text : String} (h : readOnlySql sql = .ok text) :
    IsOneStatement text := by
  obtain ⟨htrimmed, hread⟩ := readOnlySql_iff.1 h
  have hhead := Sql.not_isBlank_head?_trimStatement sql
  have hlast := Sql.not_isBlank_getLast?_trimStatement sql
  rw [← htrimmed] at hhead hlast
  obtain ⟨hcontinues, -⟩ := Sql.statements_eq_self.1 hread.single
  refine ⟨?_, ?_, ?_⟩
  · intro before token after htokens hmark
    refine or_iff_not_imp_left.2 fun hopen later hlater => ?_
    -- The semicolon completes the statement, and what comes later does not change that.
    have hclosed : (Sql.Splitting.start.readAll before).IsClosedBy token := by
      rw [Sql.Splitting.readAll_append] at hopen
      exact .inl ⟨hmark, hopen⟩
    obtain ⟨between, rest, rfl⟩ := List.append_of_mem hlater
    have hsplit : Sql.tokenize text = (before ++ token :: between) ++ later :: rest := by
      rw [htokens, List.append_assoc, List.cons_append]
    exact hcontinues _ _ _ hsplit
      (Sql.Splitting.readAll_start_ended.2 ⟨before, token, between, rfl, hclosed⟩)
  · intro maxRows bounded hbounded
    unfold boundedSql at hbounded
    cases hrows : Sql.boundRows text maxRows with
    | error fault =>
      rw [hrows] at hbounded
      cases hbounded
    | ok found =>
      rw [hrows] at hbounded
      obtain rfl := Except.ok.inj hbounded
      exact Sql.isBounded_of_boundRows hread.single hrows
  · rw [readOnlySql_iff, and_iff_left hread, eq_comm, Sql.trimStatement_eq_self hhead hlast]

/-- One of the two semicolons is left. -/
theorem readOnlySql_twoSemicolons : readOnlySql "SELECT 1; ;" = .ok "SELECT 1;" := by
  decide +kernel

theorem readOnlySql_isOneStatement_terminated :
    readOnlySql "SELECT 1; ;" = .ok "SELECT 1;" ∧ IsOneStatement "SELECT 1;" :=
  ⟨readOnlySql_twoSemicolons, readOnlySql_isOneStatement readOnlySql_twoSemicolons⟩

/-- A statement may keep a semicolon, which a limit comes after and which is taken away when the text
is checked again. -/
theorem readOnlySql_terminated :
    (¬∀ sql text, readOnlySql sql = .ok text →
      ∀ token ∈ Sql.tokenize text, token.isMark ";" = false) ∧
    (¬∀ sql text maxRows bounded, readOnlySql sql = .ok text →
      boundedSql text maxRows = .ok bounded →
        Sql.statements (Sql.tokenize bounded) = [Sql.tokenize bounded]) ∧
    ¬∀ sql text, readOnlySql sql = .ok text → readOnlySql text = .ok text := by
  have haccepted := readOnlySql_twoSemicolons
  refine ⟨fun h => ?_, fun h => ?_, fun h => ?_⟩
  · have hplace : (Sql.tokenize "SELECT 1;")[3]? = some ⟨.punctuation, ";"⟩ := by decide +kernel
    have hmark := h _ _ haccepted _ (List.mem_of_getElem? hplace)
    cases hmark
  · have hbounded : boundedSql "SELECT 1;" 100 = .ok "SELECT 1;\nLIMIT 100" := by decide +kernel
    have hstatements := h _ _ _ _ haccepted hbounded
    have hlength : (Sql.statements (Sql.tokenize "SELECT 1;\nLIMIT 100")).length = 2 := by
      decide +kernel
    rw [hstatements] at hlength
    cases hlength
  · have hagain : readOnlySql "SELECT 1;" ≠ .ok "SELECT 1;" := by decide +kernel
    exact hagain (h _ _ haccepted)

/-! ### Keywords that write -/

/-- A keyword of a text that is accepted begins with a word that writes just if it creates something
in place of what there is. -/
theorem readOnlySql_write_iff {sql text : String} (h : readOnlySql sql = .ok text)
    {token : Sql.Token} (htoken : token ∈ Sql.tokenize text)
    (hkeyword : token.kind.isKeyword = true) :
    upper token.firstWord ∈ Sql.writeKeywords ↔ token.IsReplacing :=
  (readOnlySql_iff.1 h).2.write_iff htoken hkeyword

/-- A text that replaces a table before it selects something. -/
def replacingQuery : String :=
  "WITH t AS (CREATE OR REPLACE TABLE x) SELECT 1"

/-- The token of it that creates. -/
def replacingToken : Sql.Token :=
  ⟨.definition, "CREATE OR REPLACE"⟩

theorem replacingQuery_accepted : readOnlySql replacingQuery = .ok replacingQuery := by
  decide +kernel

theorem replacingToken_mem : replacingToken ∈ Sql.tokenize replacingQuery := by
  have hplace : (Sql.tokenize replacingQuery)[7]? = some replacingToken := by decide +kernel
  exact List.mem_of_getElem? hplace

theorem readOnlySql_write_replacing :
    readOnlySql replacingQuery = .ok replacingQuery ∧
      replacingToken ∈ Sql.tokenize replacingQuery ∧ replacingToken.kind.isKeyword = true ∧
        (upper replacingToken.firstWord ∈ Sql.writeKeywords ↔ replacingToken.IsReplacing) :=
  ⟨replacingQuery_accepted, replacingToken_mem, rfl,
    readOnlySql_write_iff replacingQuery_accepted replacingToken_mem rfl⟩

theorem readOnlySql_write_accepted :
    ¬∀ sql text, readOnlySql sql = .ok text → ∀ token ∈ Sql.tokenize text,
      token.kind.isKeyword = true → upper token.firstWord ∉ Sql.writeKeywords := by
  intro h
  exact h _ _ replacingQuery_accepted replacingToken replacingToken_mem rfl (by decide +kernel)

end SemanticLayer
