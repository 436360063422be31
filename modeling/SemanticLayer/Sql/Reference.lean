import SemanticLayer.Sql.Token
import SemanticLayer.Text.Blank
import SemanticLayer.Text.Case

/-!
The tables that an SQL text names. A table stands after a table keyword, after a comma of a list of
tables, and first in a parenthesis that joins tables; a text in such a place that names no table is
reported as well, so that nothing in table position is passed over. Names declared by a common table
expression are no tables, and neither are unnested arrays.
-/

namespace SemanticLayer.Sql

open Text

/-- A table named in an SQL text, by the tokens from `start` up to but not including `stop`. -/
structure TableReference where
  keyword : String
  identifier : String
  aliasName : Option String
  start : Nat
  stop : Nat
  resolvable : Bool
  deriving Repr, DecidableEq

/-- Keywords that end a name; any other keyword may itself name a table. -/
def structuralKeywords : List String :=
  ["FROM", "WHERE", "ON", "USING", "AS", "SELECT", "WITH", "GROUP BY", "ORDER BY", "HAVING",
    "LIMIT", "OFFSET", "UNION", "ALL", "INTERSECT", "EXCEPT", "SET", "VALUES", "LEFT", "RIGHT",
    "INNER", "OUTER", "FULL", "CROSS", "NATURAL", "QUALIFY", "WINDOW", "AND", "OR", "NOT",
    "LATERAL", "DISTINCT", "INTO", "UPDATE", "DELETE", "INSERT", "TABLE", "ONLY", "UNION ALL"]

/-- Keywords that end a list of tables. -/
def listTerminators : List String :=
  ["WHERE", "GROUP BY", "ORDER BY", "HAVING", "LIMIT", "OFFSET", "UNION", "INTERSECT", "EXCEPT",
    "QUALIFY", "WINDOW", "SELECT", "SET", "VALUES"]

/-- Keywords that may stand between a table keyword and the table. -/
def tableModifiers : List String :=
  ["LATERAL", "ONLY"]

def queryStarts : List String :=
  ["SELECT", "WITH", "TABLE", "VALUES"]

/-- Whether a text of at least two characters starts and ends with the mark. -/
def isEnclosed (mark : Char) (cs : List Char) : Bool :=
  2 ≤ cs.length && cs.head? == some mark && cs.getLast? == some mark

/-- The text with every doubled mark written once. -/
def halveMarks (mark : Char) : List Char → List Char
  | c :: d :: rest =>
    if c == mark && d == mark then mark :: halveMarks mark rest
    else c :: halveMarks mark (d :: rest)
  | short => short

/-- The name that a quoted or plain name stands for. -/
def unquote (s : String) : String :=
  let cs := s.toList
  if isEnclosed '\x60' cs then String.ofList (halveMarks '\x60' (cs.drop 1).dropLast)
  else if isEnclosed '"' cs then String.ofList (halveMarks '"' (cs.drop 1).dropLast)
  else s

namespace Token

def isTrivia (token : Token) : Bool :=
  token.kind.isTrivia

/-- The keyword that the token is, in upper case and with single spaces. -/
def keyword? (token : Token) : Option String :=
  if token.kind.isKeyword then
    some (String.ofList (squeezeBlanks (upper token.text).toList))
  else
    none

def isKeywordOf (token : Token) (keywords : List String) : Bool :=
  token.keyword?.any keywords.contains

/-- Whether the token may be a part of a table's name. -/
def isIdentifierPart (token : Token) : Bool :=
  token.kind.isName || token.kind == .quotedName || isEnclosed '"' token.text.toList ||
    match token.keyword? with
    | some keyword =>
      token.kind != .manipulation && token.kind != .withClause &&
        !structuralKeywords.contains keyword && !keyword.endsWith "JOIN"
    | none => false

def startsQuery (token : Token) : Bool :=
  token.isKeywordOf queryStarts

/-- Whether the token may join two parts of a name. -/
def isNameSeparator (token : Token) : Bool :=
  token.isMark "." || (token.kind.isOperator && token.text == "-")

end Token

def skipTrivia (tokens : List Token) : List Token :=
  tokens.dropWhile Token.isTrivia

/-- The number of tokens up to the end of the parenthesis that is open `depth` times, or of all. -/
def groupLength : Nat → List Token → Nat
  | _, [] => 0
  | depth, token :: rest =>
    if token.isMark "(" then groupLength (depth + 1) rest + 1
    else if token.isMark ")" then
      if depth == 1 then 1 else groupLength (depth - 1) rest + 1
    else
      groupLength depth rest + 1

def afterGroup (tokens : List Token) : List Token :=
  tokens.drop (groupLength 0 tokens)

/-- What follows a declared name up to the next one, if the declaration is complete and a comma
follows it: an optional list of columns, `AS`, and a query in parentheses. -/
def nextDeclaration? (afterName : List Token) : Option (List Token) :=
  let rest := skipTrivia afterName
  let rest := if rest.head?.any (·.isMark "(") then skipTrivia (afterGroup rest) else rest
  match rest with
  | word :: rest =>
    if word.keyword? == some "AS" then
      let rest := skipTrivia rest
      let rest :=
        if rest.head?.any (·.isKeywordOf ["MATERIALIZED", "NOT MATERIALIZED"]) then
          skipTrivia (rest.drop 1)
        else
          rest
      if rest.head?.any (·.isMark "(") then
        match skipTrivia (afterGroup rest) with
        | mark :: rest => if mark.isMark "," then some (skipTrivia rest) else none
        | [] => none
      else
        none
    else
      none
  | [] => none

/-- The names of a list of declarations, at most `count` of them. -/
def declaredNames : Nat → List Token → List String
  | 0, _ => []
  | _ + 1, [] => []
  | count + 1, token :: rest =>
    if token.isIdentifierPart then
      lower (unquote token.text) ::
        match nextDeclaration? rest with
        | some next => declaredNames count next
        | none => []
    else
      []

/-- The names declared after the word `WITH`. -/
def withNames (afterWith : List Token) : List String :=
  let rest := skipTrivia afterWith
  let rest :=
    if rest.head?.any (·.isKeywordOf ["RECURSIVE"]) then skipTrivia (rest.drop 1) else rest
  declaredNames rest.length rest

/-- The names of all common table expressions, in lower case. -/
def cteNames : List Token → List String
  | [] => []
  | token :: rest =>
    if token.keyword? == some "WITH" then withNames rest ++ cteNames rest else cteNames rest

/-- The keyword that puts a table after the token; `previous` is the last token before it that is no
trivia. -/
def tableKeyword? (previous : Option Token) (token : Token) : Option String :=
  match token.keyword? with
  | none => none
  | some keyword =>
    if keyword.endsWith "JOIN" || ["UPDATE", "INTO", "TABLE"].contains keyword then some keyword
    else if keyword == "FROM" then
      match previous.bind Token.keyword? with
      | some "DISTINCT" => none
      | some "DELETE" => some "DELETE FROM"
      | _ => some "FROM"
    else
      none

/-- Further parts of a name, each with the separator before it. -/
def moreParts : List Token → List String
  | separator :: part :: rest =>
    if separator.isNameSeparator && part.isIdentifierPart then
      (separator.text ++ unquote part.text) :: moreParts rest
    else
      []
  | _ => []

/-- An alias at the head of the tokens, with the number of tokens up to its end. -/
def aliasAt? (tokens : List Token) : Option (String × Nat) :=
  let rest := skipTrivia tokens
  let rest :=
    if rest.head?.any (·.isKeywordOf ["AS"]) then skipTrivia (rest.drop 1) else rest
  match rest with
  | token :: after =>
    if token.kind.isName then some (unquote token.text, tokens.length - after.length) else none
  | [] => none

/-- Reads the table named from `token` on. The result is the reference, if the name is that of a
table, and the number of tokens read. -/
def readReference (declared : List String) (keyword : String) (start : Nat) (token : Token)
    (rest : List Token) : Option TableReference × Nat :=
  let parts := moreParts rest
  let identifier := parts.foldl (· ++ ·) (unquote token.text)
  let size := 1 + 2 * parts.length
  let after := rest.drop (2 * parts.length)
  if after.head?.any (·.isMark "(") && upper identifier == "UNNEST" then
    (none, size + groupLength 0 after)
  else
    let found := aliasAt? after
    let read := size + (found.map Prod.snd).getD 0
    if parts.isEmpty && declared.contains (lower identifier) then (none, read)
    else (some ⟨keyword, identifier, found.map Prod.fst, start, start + size, true⟩, read)

/-- An open parenthesis, or the text outside all of them. -/
structure Scope where
  /-- A query or a join of tables stands here, so that table keywords count. -/
  holdsQuery : Bool
  /-- A list of tables is open, so that a comma puts another table after it. -/
  listsTables : Bool
  deriving Repr, DecidableEq

/-- What has been seen before a token. -/
structure Scan where
  /-- The number of tokens before this one. -/
  position : Nat
  /-- Tokens still to be passed over, being part of a reference already read. -/
  skip : Nat
  /-- The last token that is no trivia. -/
  previous : Option Token
  scope : Scope
  outer : List Scope
  /-- A table has to come next. -/
  expecting : Bool
  /-- The keyword that put a table here. -/
  keyword : String
  deriving Repr

namespace Scan

/-- The state before the first token. -/
def start : Scan :=
  ⟨0, 0, none, ⟨true, false⟩, [], false, "FROM"⟩

/-- Enters a parenthesis. -/
def enter (scan : Scan) (scope : Scope) : Scan :=
  { scan with scope := scope, outer := scan.scope :: scan.outer }

/-- Leaves a parenthesis. One that was never opened ends the list of tables outside. -/
def leave (scan : Scan) : Scan :=
  match scan.outer with
  | [] => { scan with scope := ⟨true, false⟩ }
  | scope :: outer => { scan with scope := scope, outer := outer }

def follows (rest : List Token) (fits : Token → Bool) : Bool :=
  (skipTrivia rest).head?.any fits

/-- Reads a token that may continue or end a list of tables. -/
def readListToken (scan : Scan) (token : Token) : Scan :=
  if scan.scope.listsTables then
    if token.isMark "," then { scan with expecting := true, keyword := "FROM" }
    else if token.isKeywordOf listTerminators then
      { scan with scope := ⟨scan.scope.holdsQuery, false⟩ }
    else
      scan
  else
    scan

/-- Reads a token where no table is expected. -/
def readToken (scan : Scan) (token : Token) (rest : List Token) : Scan :=
  if token.isMark "(" then scan.enter ⟨follows rest Token.startsQuery, false⟩
  else if token.isMark ")" then scan.leave
  else
    match tableKeyword? scan.previous token with
    | some keyword =>
      if scan.scope.holdsQuery || keyword == "TABLE" then
        { scan with
          expecting := true
          keyword := keyword
          scope := ⟨scan.scope.holdsQuery,
            scan.scope.listsTables || keyword == "FROM" || keyword == "DELETE FROM"⟩ }
      else
        scan.readListToken token
    | none => scan.readListToken token

def readTable (declared : List String) (scan : Scan) (token : Token) (rest : List Token) :
    List TableReference × Scan :=
  let calm := { scan with expecting := false }
  if token.isMark "(" then
    let joins := follows rest fun next => !next.startsQuery
    ([], { calm.enter ⟨true, joins⟩ with expecting := joins })
  else if token.isKeywordOf tableModifiers then
    ([], scan)
  else if token.isIdentifierPart then
    let (found, read) := readReference declared scan.keyword scan.position token rest
    (found.toList, { calm with skip := read - 1 })
  else
    ([⟨scan.keyword, token.text, none, scan.position, scan.position + 1, false⟩],
      calm.readToken token rest)

/-- Moves on to the next token. -/
def advance (scan : Scan) (token : Token) : Scan :=
  { scan with
    position := scan.position + 1
    previous := if token.isTrivia then scan.previous else some token }

/-- Reads one token: the references that start with it, and the state after it. -/
def step (declared : List String) (scan : Scan) (token : Token) (rest : List Token) :
    List TableReference × Scan :=
  if 0 < scan.skip then ([], { scan with skip := scan.skip - 1 }.advance token)
  else if token.isTrivia then ([], scan.advance token)
  else if scan.expecting then
    let (found, next) := scan.readTable declared token rest
    (found, next.advance token)
  else
    ([], (scan.readToken token rest).advance token)

def run (declared : List String) : Scan → List Token → List TableReference
  | _, [] => []
  | scan, token :: rest =>
    let (found, next) := scan.step declared token rest
    found ++ run declared next rest

end Scan

/-- Every table that the tokens name, in order. -/
def tableReferences (tokens : List Token) : List TableReference :=
  Scan.start.run (cteNames tokens) tokens

end SemanticLayer.Sql
