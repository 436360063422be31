/-!
The tokens of an SQL text. A token keeps its text exactly, so the texts of all tokens put together
are the text that was read.
-/

namespace SemanticLayer.Sql

inductive TokenKind where
  | whitespace
  | newline
  | lineComment
  | lineHint
  | blockComment
  | blockHint
  | keyword
  | definition
  | manipulation
  | permission
  | withClause
  | ordering
  | zoneCast
  | name
  | placeholder
  | builtin
  | literal
  | integer
  | decimal
  | hexadecimal
  | quotedText
  | quotedName
  | operator
  | comparison
  | wildcard
  | assignment
  | punctuation
  | command
  | unknown
  deriving Repr, DecidableEq, BEq

namespace TokenKind

/-- A keyword of any sort. -/
def isKeyword : TokenKind → Bool
  | .keyword | .definition | .manipulation | .permission | .withClause | .ordering | .zoneCast =>
    true
  | _ => false

/-- A blank or a line break. -/
def isBlank : TokenKind → Bool
  | .whitespace | .newline => true
  | _ => false

def isComment : TokenKind → Bool
  | .lineComment | .lineHint | .blockComment | .blockHint => true
  | _ => false

/-- A blank, a line break or a comment: what may stand between any two tokens. -/
def isTrivia (kind : TokenKind) : Bool :=
  kind.isBlank || kind.isComment

/-- A plain name, a placeholder or the name of a built-in type. -/
def isName : TokenKind → Bool
  | .name | .placeholder | .builtin => true
  | _ => false

def isNumber : TokenKind → Bool
  | .integer | .decimal | .hexadecimal => true
  | _ => false

/-- An operator of any sort, comparisons included. -/
def isOperator : TokenKind → Bool
  | .operator | .comparison => true
  | _ => false

end TokenKind

structure Token where
  kind : TokenKind
  text : String
  deriving Repr, DecidableEq, BEq

/-- Whether the token is the given punctuation mark. -/
def Token.isMark (token : Token) (mark : String) : Bool :=
  token.kind == .punctuation && token.text == mark

/-- The texts of the tokens, put together. -/
def Token.textOf (tokens : List Token) : String :=
  String.join (tokens.map Token.text)

end SemanticLayer.Sql
