import SemanticLayer.Decimal.Reading
import SemanticLayer.Sql.Lexer

/-!
Bounding the rows of a statement. The last `LIMIT` outside all parentheses is lowered to the bound;
a statement without one gets a limit of its own, unless it says how many rows to fetch.
-/

namespace SemanticLayer.Sql

open Text

/-- What a text says about the number of its rows outside all parentheses. -/
structure LimitScan where
  depth : Int
  /-- The place of the last `LIMIT`. -/
  limit : Option Nat
  fetches : Bool
  deriving Repr, DecidableEq

def LimitScan.read (scan : LimitScan) (place : Nat) (token : Token) : LimitScan :=
  if token.isMark "(" then { scan with depth := scan.depth + 1 }
  else if token.isMark ")" then { scan with depth := scan.depth - 1 }
  else if scan.depth == 0 && token.kind.isKeyword then
    let word := upper token.text
    if word == "LIMIT" then { scan with limit := some place }
    else if word == "FETCH" then { scan with fetches := true }
    else scan
  else
    scan

/-- Reads all tokens, the first of which is at `place`. -/
def LimitScan.run (scan : LimitScan) : Nat → List Token → LimitScan
  | _, [] => scan
  | place, token :: rest => (scan.read place token).run (place + 1) rest

/-- The bound, where the token asks for all rows or for more rows than it allows. -/
def lowered? (maxRows : Int) (token : Token) : Except (Decimal.IntFault × String) (Option String) :=
  if token.kind == .integer then
    match Decimal.readInt token.text with
    | .ok count => .ok (if maxRows < count then some (toString maxRows) else none)
    | .error fault => .error (fault, token.text)
  else if token.kind.isKeyword && upper token.text == "ALL" then .ok (some (toString maxRows))
  else .ok none

/-- The tokens with the first one that is no trivia bounded. -/
def lowerFirst (maxRows : Int) : List Token → Except (Decimal.IntFault × String) (List Token)
  | [] => .ok []
  | token :: rest =>
    if token.kind.isTrivia then (lowerFirst maxRows rest).map (token :: ·)
    else
      (lowered? maxRows token).map fun found =>
        match found with
        | some text => { token with text } :: rest
        | none => token :: rest

/-- The statement with at most `maxRows` rows. -/
def boundRows (sql : String) (maxRows : Int) : Except (Decimal.IntFault × String) String :=
  let tokens := tokenize sql
  let scan := LimitScan.run ⟨0, none, false⟩ 0 tokens
  match scan.limit with
  | none => .ok (if scan.fetches then sql else sql ++ "\nLIMIT " ++ toString maxRows)
  | some place =>
    (lowerFirst maxRows (tokens.drop (place + 1))).map fun rest =>
      Token.textOf (tokens.take (place + 1) ++ rest)

end SemanticLayer.Sql
