import SemanticLayer.Proofs.Sql.Group

/-!
Where declared names are exempt. The names of common table expressions are collected from the whole
text, so a single name that is declared anywhere is no table anywhere, while in SQL the name stands
for the declared query only in its scope.
-/

namespace SemanticLayer.Sql

open Text

/-! ### Declarations -/

/-- A common table expression: its name in lower case, and the tokens from the parenthesis of its
query on. There are none where no query follows. -/
structure Declaration where
  name : String
  body : List Token
  deriving Repr, DecidableEq

/-- The tokens from the parenthesis of the declared query on. -/
def bodyOf (afterName : List Token) : List Token :=
  let rest := skipTrivia afterName
  let rest := if rest.head?.any (·.isMark "(") then skipTrivia (afterGroup rest) else rest
  match rest with
  | word :: rest =>
    if word.keyword? == some "AS" then
      let rest := skipTrivia rest
      let rest :=
        if rest.head?.any (·.isKeywordOf ["MATERIALIZED", "NOT MATERIALIZED"]) then
          skipTrivia (rest.drop 1)
        else
          rest
      if rest.head?.any (·.isMark "(") then rest else []
    else
      []
  | [] => []

/-- The declarations at the head of the tokens, at most `count` of them. -/
def declarations : Nat → List Token → List Declaration
  | 0, _ => []
  | _ + 1, [] => []
  | count + 1, token :: rest =>
    if token.isIdentifierPart then
      ⟨lower (unquote token.text), bodyOf rest⟩ ::
        match skipTrivia (afterGroup (bodyOf rest)) with
        | mark :: next => if mark.isMark "," then declarations count (skipTrivia next) else []
        | [] => []
    else
      []

/-- Whether the declarations after the word `WITH` may refer to themselves. -/
def isRecursive (afterWith : List Token) : Bool :=
  (skipTrivia afterWith).head?.any (·.isKeywordOf ["RECURSIVE"])

/-- The declarations after the word `WITH`. -/
def withDeclarations (afterWith : List Token) : List Declaration :=
  let rest := skipTrivia afterWith
  let rest := if isRecursive afterWith then skipTrivia (rest.drop 1) else rest
  declarations rest.length rest

/-- The next declaration comes after the query of the one before it. -/
theorem nextDeclaration?_eq (afterName : List Token) :
    nextDeclaration? afterName =
      match skipTrivia (afterGroup (bodyOf afterName)) with
      | mark :: next => if mark.isMark "," then some (skipTrivia next) else none
      | [] => none := by
  unfold nextDeclaration? bodyOf
  dsimp only
  generalize (if (skipTrivia afterName).head?.any (·.isMark "(") then
    skipTrivia (afterGroup (skipTrivia afterName)) else skipTrivia afterName) = rest
  cases rest with
  | nil => rfl
  | cons word rest =>
    dsimp only
    split
    · generalize (if (skipTrivia rest).head?.any
        (·.isKeywordOf ["MATERIALIZED", "NOT MATERIALIZED"]) then
          skipTrivia ((skipTrivia rest).drop 1) else skipTrivia rest) = body
      split
      · rfl
      · rfl
    · rfl

theorem declaredNames_eq (count : Nat) (tokens : List Token) :
    declaredNames count tokens = (declarations count tokens).map Declaration.name := by
  induction count generalizing tokens with
  | zero => rfl
  | succ count ih =>
    cases tokens with
    | nil => rfl
    | cons token rest =>
      rw [declaredNames, declarations, nextDeclaration?_eq]
      split
      · rw [List.map_cons]
        congr 1
        cases skipTrivia (afterGroup (bodyOf rest)) with
        | nil => rfl
        | cons mark next =>
          cases hcomma : mark.isMark "," with
          | true => simp [hcomma, ih]
          | false => simp [hcomma]
      · rfl

theorem withNames_eq (afterWith : List Token) :
    withNames afterWith = (withDeclarations afterWith).map Declaration.name :=
  declaredNames_eq _ _

/-- A word `WITH` of the text declares the name. -/
def DeclaredIn (tokens : List Token) (name : String) : Prop :=
  ∃ word < tokens.length, tokens[word]?.bind Token.keyword? = some "WITH" ∧
    ∃ item ∈ withDeclarations (tokens.drop (word + 1)), item.name = name

theorem mem_cteNames {tokens : List Token} {name : String} :
    name ∈ cteNames tokens ↔ DeclaredIn tokens name := by
  induction tokens with
  | nil => simp [cteNames, DeclaredIn]
  | cons token rest ih =>
    have hhead : name ∈ withNames rest ↔ ∃ item ∈ withDeclarations rest, item.name = name := by
      rw [withNames_eq, List.mem_map]
    have hcons : DeclaredIn (token :: rest) name ↔
        token.keyword? = some "WITH" ∧ name ∈ withNames rest ∨ DeclaredIn rest name := by
      rw [hhead, DeclaredIn, List.length_cons, Nat.exists_lt_succ_left]
      simp [DeclaredIn]
    rw [hcons, ← ih, cteNames]
    split
    · rename_i hword
      simp [beq_iff_eq.1 hword]
    · rename_i hword
      simp [show token.keyword? ≠ some "WITH" by simpa using hword]

/-! ### Scopes -/

/-- The place of the first one of the last tokens. -/
def placeOf (tokens last : List Token) : Nat :=
  tokens.length - last.length

/-- A declaration of the name holds at the place: it has ended, and the parenthesis around its word
`WITH` is still open, or it is recursive, and the place is in the query of one of the declarations
of the same word. -/
def InScope (tokens : List Token) (name : String) (place : Nat) : Prop :=
  ∃ word < tokens.length, tokens[word]?.bind Token.keyword? = some "WITH" ∧
    ∃ item ∈ withDeclarations (tokens.drop (word + 1)), item.name = name ∧
      (placeOf tokens (afterGroup item.body) ≤ place ∧
          (∀ opened ∈ (openBefore tokens word).head?, opened ∈ openBefore tokens place) ∨
        isRecursive (tokens.drop (word + 1)) = true ∧
          ∃ other ∈ withDeclarations (tokens.drop (word + 1)),
            placeOf tokens other.body < place ∧ place < placeOf tokens (afterGroup other.body))

instance (tokens : List Token) (name : String) (place : Nat) :
    Decidable (InScope tokens name place) :=
  inferInstanceAs (Decidable (∃ word < tokens.length, _ ∧ _))

open Scan

/-- A name of one part that is read as a table and is not the array function. -/
structure SingleName (tokens : List Token) (place : Nat) (name : Token) : Prop
    extends Reads tokens place name where
  single : moreParts (tokens.drop (place + 1)) = []
  plain : name.opensUnnest (tokens.drop (place + 1)) = false

instance (tokens : List Token) (place : Nat) (name : Token) :
    Decidable (SingleName tokens place name) :=
  decidable_of_iff
    (Reads tokens place name ∧ moreParts (tokens.drop (place + 1)) = [] ∧
      name.opensUnnest (tokens.drop (place + 1)) = false)
    ⟨fun ⟨reads, single, plain⟩ => ⟨reads, single, plain⟩,
      fun h => ⟨h.toReads, h.single, h.plain⟩⟩

/-- A single name is exempt exactly if it is declared anywhere in the text. This covers the scopes
of its declarations. -/
theorem single_name_exempt_iff {tokens : List Token} {place : Nat} {name : Token}
    (h : SingleName tokens place name) :
    ((∀ r ∈ tableReferences tokens, r.start ≠ place) ↔
        DeclaredIn tokens (lower (unquote name.text))) ∧
      (InScope tokens (lower (unquote name.text)) place →
        ∀ r ∈ tableReferences tokens, r.start ≠ place) := by
  have hfound := exists_reference_of_part h.found h.significant h.part
  have hiff : (∀ r ∈ tableReferences tokens, r.start ≠ place) ↔
      DeclaredIn tokens (lower (unquote name.text)) := by
    rw [← mem_cteNames]
    constructor
    · intro hnone
      by_contra hundeclared
      obtain ⟨r, hr, hstart⟩ := hfound.2 ⟨h.toReads, h.plain, fun _ => hundeclared⟩
      exact hnone r hr hstart
    · intro hdeclared r hr hstart
      exact (hfound.1 ⟨r, hr, hstart⟩).2.2 h.single hdeclared
  refine ⟨hiff, fun hscope => hiff.2 ?_⟩
  obtain ⟨word, hword, hwith, item, hitem, hname, -⟩ := hscope
  exact ⟨word, hword, hwith, item, hitem, hname⟩

/-- `WITH recent AS (SELECT id FROM orders) SELECT id FROM recent`. -/
def recentQuery : List Token :=
  [⟨.withClause, "WITH"⟩, ⟨.name, "recent"⟩, ⟨.keyword, "AS"⟩, ⟨.punctuation, "("⟩,
    ⟨.manipulation, "SELECT"⟩, ⟨.name, "id"⟩, ⟨.keyword, "FROM"⟩, ⟨.name, "orders"⟩,
    ⟨.punctuation, ")"⟩, ⟨.manipulation, "SELECT"⟩, ⟨.name, "id"⟩, ⟨.keyword, "FROM"⟩,
    ⟨.name, "recent"⟩]

theorem single_name_exempt_recent :
    SingleName recentQuery 12 ⟨.name, "recent"⟩ ∧
      ∀ r ∈ tableReferences recentQuery, r.start ≠ 12 := by
  have h : SingleName recentQuery 12 ⟨.name, "recent"⟩ := by decide +kernel
  exact ⟨h, (single_name_exempt_iff h).2 (by decide +kernel)⟩

/-- `WITH payments AS (SELECT id FROM payments) SELECT id FROM payments`. -/
def ownQuery : List Token :=
  [⟨.withClause, "WITH"⟩, ⟨.name, "payments"⟩, ⟨.keyword, "AS"⟩, ⟨.punctuation, "("⟩,
    ⟨.manipulation, "SELECT"⟩, ⟨.name, "id"⟩, ⟨.keyword, "FROM"⟩, ⟨.name, "payments"⟩,
    ⟨.punctuation, ")"⟩, ⟨.manipulation, "SELECT"⟩, ⟨.name, "id"⟩, ⟨.keyword, "FROM"⟩,
    ⟨.name, "payments"⟩]

/-- `SELECT * FROM (WITH secret AS (SELECT 1) SELECT * FROM secret) a, secret`. -/
def siblingQuery : List Token :=
  [⟨.manipulation, "SELECT"⟩, ⟨.wildcard, "*"⟩, ⟨.keyword, "FROM"⟩, ⟨.punctuation, "("⟩,
    ⟨.withClause, "WITH"⟩, ⟨.name, "secret"⟩, ⟨.keyword, "AS"⟩, ⟨.punctuation, "("⟩,
    ⟨.manipulation, "SELECT"⟩, ⟨.integer, "1"⟩, ⟨.punctuation, ")"⟩, ⟨.manipulation, "SELECT"⟩,
    ⟨.wildcard, "*"⟩, ⟨.keyword, "FROM"⟩, ⟨.name, "secret"⟩, ⟨.punctuation, ")"⟩, ⟨.name, "a"⟩,
    ⟨.punctuation, ","⟩, ⟨.name, "secret"⟩]

/-- Names are exempt in the query that declares them, and beside the parenthesis of their
declaration. -/
theorem single_name_shadowed :
    (IsBalanced ownQuery ∧ SingleName ownQuery 7 ⟨.name, "payments"⟩ ∧
        ¬ InScope ownQuery "payments" 7 ∧ ∀ r ∈ tableReferences ownQuery, r.start ≠ 7) ∧
      IsBalanced siblingQuery ∧ SingleName siblingQuery 18 ⟨.name, "secret"⟩ ∧
        ¬ InScope siblingQuery "secret" 18 ∧
        ∀ r ∈ tableReferences siblingQuery, r.start ≠ 18 := by
  decide +kernel

end SemanticLayer.Sql
