import SemanticLayer.Sql.Token
import SemanticLayer.Text.Case

/-!
Statements as trees. The leaves are the tokens; groups stand for the parts of a statement that
belong together.
-/

namespace SemanticLayer.Sql

open Text

inductive GroupKind where
  | comment
  | brackets
  | parenthesis
  | choice
  | conditional
  | forLoop
  | body
  | over
  | function
  | condition
  | identifier
  | typedLiteral
  | operation
  | comparison
  | assignment
  | identifierList
  | values
  deriving Repr, DecidableEq

/-- Groups that are enclosed by an opening and a closing token. -/
def GroupKind.isDelimited : GroupKind → Bool
  | .brackets | .parenthesis | .choice | .conditional | .forLoop | .body => true
  | _ => false

inductive Node where
  | leaf (token : Token)
  | group (kind : GroupKind) (children : List Node)

instance : Inhabited Node := ⟨.group .comment []⟩

namespace Node

def isBlank : Node → Bool
  | .leaf token => token.kind.isBlank
  | .group .. => false

def isOf (kinds : List TokenKind) : Node → Bool
  | .leaf token => kinds.contains token.kind
  | .group .. => false

def isGroupOf (kinds : List GroupKind) : Node → Bool
  | .leaf _ => false
  | .group kind _ => kinds.contains kind

def isGroup : Node → Bool
  | .leaf _ => false
  | .group .. => true

def hasKind (fits : TokenKind → Bool) : Node → Bool
  | .leaf token => fits token.kind
  | .group .. => false

/-- Whether the node is the plain keyword, or one of the plain keywords, in any case. -/
def isWord (words : List String) : Node → Bool
  | .leaf token => token.kind == .keyword && words.contains (upper token.text)
  | .group .. => false

/-- Whether the node is a keyword of any sort with the given text. -/
def isAnyKeyword (word : String) : Node → Bool
  | .leaf token => token.kind.isKeyword && upper token.text == word
  | .group .. => false

def isMark (mark : String) : Node → Bool
  | .leaf token => token.isMark mark
  | .group .. => false

/-- The text in upper case of a node that is a single token. -/
def word? : Node → Option String
  | .leaf token => some (upper token.text)
  | .group .. => none

mutual

/-- Applies `pass` to the children of every group that `enters` lets in, innermost first. -/
def mapGroups (enters : GroupKind → Bool) (pass : Option GroupKind → List Node → List Node) :
    Node → Node
  | .leaf token => .leaf token
  | .group kind children =>
    if enters kind then .group kind (pass (some kind) (mapAllGroups enters pass children))
    else .group kind children

def mapAllGroups (enters : GroupKind → Bool) (pass : Option GroupKind → List Node → List Node) :
    List Node → List Node
  | [] => []
  | node :: rest => mapGroups enters pass node :: mapAllGroups enters pass rest

end

/-- Applies a pass everywhere, the groups inside other groups first. -/
def everywhere (enters : GroupKind → Bool) (pass : Option GroupKind → List Node → List Node)
    (nodes : List Node) : List Node :=
  pass none (mapAllGroups enters pass nodes)

end Node

end SemanticLayer.Sql
