import SemanticLayer.Sql.Grouping
import SemanticLayer.Sql.Statement

/-!
Whether an SQL text is one statement that only reads. Keywords that write are looked for among the
tokens, so that the same words inside quoted texts, quoted names and comments do no harm.
-/

namespace SemanticLayer.Sql

open Text

/-- Keywords that change data, definitions or permissions. -/
def writeKeywords : List String :=
  ["INSERT", "UPDATE", "DELETE", "DROP", "ALTER", "TRUNCATE", "CREATE", "GRANT", "REVOKE", "MERGE"]

/-- Why a text is refused. -/
inductive Refusal where
  | empty
  | severalStatements
  | writes (kind keyword : String)
  | notSelect (kind : String)
  deriving Repr, DecidableEq

namespace Refusal

def message : Refusal → String
  | .empty => "SQL must not be empty"
  | .severalStatements => "Only a single SQL statement is allowed"
  | .writes _ keyword => s!"Only read-only SELECT statements are allowed ({keyword} found)"
  | .notSelect _ => "Only read-only SELECT statements are allowed"

/-- The sort of statement that was refused. -/
def kind? : Refusal → Option String
  | .writes kind _ | .notSelect kind => some kind
  | .empty | .severalStatements => none

def keyword? : Refusal → Option String
  | .writes _ keyword => some keyword
  | .empty | .severalStatements | .notSelect _ => none

end Refusal

/-- The text without blanks at its ends and without semicolons at its end. -/
def trimStatement (sql : String) : String :=
  trim (String.ofList (dropRight (· == ';') (trimChars sql.toList)))

/-- Whether the token is a keyword that writes, given in upper case. -/
def Token.writeKeyword? (token : Token) : Option String :=
  if token.kind.isKeyword && writeKeywords.contains (upper token.text) then
    some (upper token.text)
  else
    none

def refuseStatement? (tokens : List Token) (kind : String) : Option Refusal :=
  match tokens.findSome? Token.writeKeyword? with
  | some keyword => some (.writes kind keyword)
  | none => if kind == "SELECT" then none else some (.notSelect kind)

/-- The answer to a text: the text as it may be run, and why it may not be. -/
structure ReadOnlyAnswer where
  sql : String
  refusal : Option Refusal
  deriving Repr, DecidableEq

/-- Whether a statement is more than blanks. -/
def isNonBlank (tokens : List Token) : Bool :=
  !(trimChars (Token.textOf tokens).toList).isEmpty

/-- Checks a text. It is a fault of the text if a statement nests too deeply to be understood. -/
def checkReadOnly (sql : String) : Except GroupingFault ReadOnlyAnswer := do
  let sql := trimStatement sql
  if sql.isEmpty then return ⟨sql, some .empty⟩
  let parsed ← (statements (tokenize sql)).mapM fun tokens => do
    return (tokens, ← statementKind tokens)
  match parsed.filter fun (tokens, _) => isNonBlank tokens with
  | [(tokens, kind)] => return ⟨sql, refuseStatement? tokens kind⟩
  | _ => return ⟨sql, some .severalStatements⟩

end SemanticLayer.Sql
