import SemanticLayer.Sql.Lexer

/-!
The statements of an SQL text. A semicolon ends a statement unless it stands inside parentheses or
inside a block between `BEGIN` and `END`; blanks and a line comment after it still belong to the
statement.
-/

namespace SemanticLayer.Sql

open Text

/-- An open block of procedural SQL. -/
inductive Block where
  | declaration
  | body
  | conditional
  | choice
  | forLoop
  | whileLoop
  | plainLoop
  deriving Repr, DecidableEq

/-- What has been seen of a statement. -/
structure Splitting where
  /-- Open blocks, the innermost first. -/
  blocks : List Block
  /-- A loop whose body has not begun. -/
  pendingLoop : Option Block
  inCreate : Bool
  /-- The last significant token was `BEGIN`. -/
  sawBegin : Bool
  /-- Open parentheses and blocks, less those closed without being open. -/
  level : Int
  /-- The statement is complete, but for blanks and a comment. -/
  ended : Bool
  /-- The tokens read so far, the last first. -/
  tokens : List Token

namespace Splitting

def start : Splitting :=
  ⟨[], none, false, false, 0, false, []⟩

def close (state : Splitting) (sorts : List Block) : Splitting :=
  match state.blocks with
  | block :: rest =>
    if sorts.contains block then { state with blocks := rest, level := state.level - 1 } else state
  | [] => state

def opened (state : Splitting) (block : Block) : Splitting :=
  { state with blocks := block :: state.blocks, level := state.level + 1 }

/-- Reads a keyword that may close a block. -/
def readClosing (state : Splitting) (word : String) : Splitting :=
  match word with
  | "END IF" => state.close [.conditional]
  | "END FOR" => state.close [.forLoop]
  | "END WHILE" => state.close [.whileLoop]
  | "END LOOP" => state.close [.plainLoop, .forLoop, .whileLoop]
  | "END CASE" => state.close [.choice]
  | "END" => { state with blocks := state.blocks.drop 1, level := state.level - 1 }
  | _ => state

/-- Reads a keyword inside the body of a block. -/
def readInside (state : Splitting) (word : String) : Splitting :=
  match word, state.pendingLoop with
  | "FOR", _ => { state with pendingLoop := some .forLoop }
  | "WHILE", _ => { state with pendingLoop := some .whileLoop }
  | "LOOP", some loop | "DO", some loop => { state.opened loop with pendingLoop := none }
  | "LOOP", none => state.opened .plainLoop
  | "IF", _ => state.opened .conditional
  | "CASE", _ => state.opened .choice
  | _, _ => state.readClosing word

/-- Words after `BEGIN` that make it the start of a transaction. -/
def transactionWords : List String :=
  ["TRANSACTION", "WORK", "TRAN", "DISTRIBUTED", "DEFERRED", "IMMEDIATE", "EXCLUSIVE"]

/-- Reads the effect of a token on the open blocks. -/
def track (state : Splitting) (token : Token) : Splitting :=
  if token.isMark ";" then
    let calm := { state with pendingLoop := none }
    if state.sawBegin then { calm with sawBegin := false }.close [.body] else calm
  else if token.isMark "(" then { state with level := state.level + 1 }
  else if token.isMark ")" then { state with level := state.level - 1 }
  else if !token.kind.isKeyword then state
  else
    let word := upper token.text
    if token.kind == .definition && word.startsWith "CREATE" then { state with inCreate := true }
    else if word == "DECLARE" && state.inCreate && state.blocks.isEmpty then
      state.opened .declaration
    else if word == "BEGIN" then
      match state.blocks with
      | .declaration :: rest => { state with sawBegin := true, blocks := .body :: rest }
      | _ => { state with sawBegin := true }.opened .body
    else if state.sawBegin && token.kind == .keyword && transactionWords.contains word then
      { state with sawBegin := false }.close [.body]
    else if state.blocks.contains .body then state.readInside word
    else state.readClosing word

def separatesBatches (token : Token) : Bool :=
  token.kind == .keyword &&
    String.ofList (token.text.toList.takeWhile fun c => !isBlank c) == "GO"

def read (state : Splitting) (token : Token) : Splitting :=
  let state := { state.track token with tokens := token :: state.tokens }
  if token.isMark ";" then
    { state with
      sawBegin := false
      ended := state.ended || (decide (state.level ≤ 0) && !state.blocks.contains .body) }
  else if separatesBatches token then { state with ended := true }
  else if token.kind.isBlank || token.kind == .lineComment || token.kind == .blockComment ||
      (token.kind == .keyword && upper token.text == "BEGIN") then
    state
  else
    { state with sawBegin := false }

/-- The statements in the tokens, the state being that of the statement under way. -/
def run (state : Splitting) : List Token → List (List Token)
  | [] =>
    if state.tokens.all (·.kind.isBlank) then [] else [state.tokens.reverse]
  | token :: rest =>
    if state.ended && token.kind != .whitespace && token.kind != .lineComment then
      state.tokens.reverse :: run (start.read token) rest
    else
      run (state.read token) rest

end Splitting

def statements (tokens : List Token) : List (List Token) :=
  Splitting.start.run tokens

end SemanticLayer.Sql
