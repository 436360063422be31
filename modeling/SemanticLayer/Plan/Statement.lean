import SemanticLayer.Plan.Join

/-!
The one statement that a plan consists of: what it selects, from which joined tables, under which
conditions, grouped and ordered how, and how many rows of it at most.
-/

namespace SemanticLayer

/-- An item of the select list. -/
inductive SelectTerm where
  /-- All columns of a table. -/
  | star (aliasName : String)
  | column (term : ColumnTerm) (name : String)
  /-- One value made of many; without a column it counts rows. -/
  | aggregate (aggregation : Aggregation) (term : Option ColumnTerm) (name : String)
  deriving Repr, DecidableEq

/-- The name of an aggregation in a statement. -/
def Aggregation.keyword : Aggregation → String
  | .sum => "SUM"
  | .avg => "AVG"
  | .count => "COUNT"
  | .countDistinct => "COUNT"
  | .min => "MIN"
  | .max => "MAX"
  | .none => "NONE"
  | .raw => "RAW"

namespace SelectTerm

/-- The name of the output column. -/
def name : SelectTerm → String
  | .star _ => "*"
  | .column _ name => name
  | .aggregate _ _ name => name

def isStar : SelectTerm → Bool
  | .star _ => true
  | _ => false

def isColumn : SelectTerm → Bool
  | .column _ _ => true
  | _ => false

def isAggregate : SelectTerm → Bool
  | .aggregate _ _ _ => true
  | _ => false

/-- What the item selects, without its name. -/
def expression (dialect : Dialect) : SelectTerm → String
  | .star aliasName => aliasName ++ ".*"
  | .column term _ => term.write dialect
  | .aggregate aggregation term _ =>
    let operand :=
      match term with
      | none => "*"
      | some term => term.write dialect
    let distinct := if aggregation == .countDistinct then "DISTINCT " else ""
    aggregation.keyword ++ "(" ++ distinct ++ operand ++ ")"

def write (dialect : Dialect) (term : SelectTerm) : String :=
  if term.isStar then term.expression dialect
  else term.expression dialect ++ " AS " ++ dialect.quote term.name

end SelectTerm

/-- What is grouped or ordered by: an item of the select list, counted from one, or an expression of
its own. -/
inductive SortKey where
  | ordinal (place : Nat)
  | column (term : ColumnTerm)
  deriving Repr, DecidableEq

def SortKey.write (dialect : Dialect) : SortKey → String
  | .ordinal place => toString place
  | .column term => term.write dialect

/-- The places of the items with a property, counted from `place`. -/
def placesFrom (p : SelectTerm → Bool) (place : Nat) : List SelectTerm → List Nat
  | [] => []
  | term :: rest =>
    if p term then place :: placesFrom p (place + 1) rest else placesFrom p (place + 1) rest

def columnPlaces (terms : List SelectTerm) : List Nat :=
  placesFrom SelectTerm.isColumn 1 terms

structure SelectStatement where
  dialect : Dialect
  distinct : Bool
  terms : List SelectTerm
  root : Table
  rootAlias : String
  joins : List Join
  filters : List FilterTerm
  groupBy : List SortKey
  orderBy : List (SortKey × Direction)
  limit : Int

namespace SelectStatement

/-- The condition on rows, none where all rows are wanted. -/
def condition (statement : SelectStatement) : Option (List Piece) :=
  combine statement.dialect statement.filters

/-- A clause with its keyword; a clause without items is left out. -/
def clause (keyword : String) : List String → List String
  | [] => []
  | items => [keyword ++ " " ++ ", ".intercalate items]

def lines (statement : SelectStatement) : List String :=
  let dialect := statement.dialect
  let keyword := if statement.distinct then "SELECT DISTINCT " else "SELECT "
  [keyword ++ ", ".intercalate (statement.terms.map (SelectTerm.write dialect)),
    "FROM " ++ statement.root.runtimeRef.getD "None" ++ " " ++ statement.rootAlias] ++
  statement.joins.map (Join.write dialect) ++
  (statement.condition.map fun pieces => "WHERE " ++ writePieces dialect 0 pieces).toList ++
  clause "GROUP BY" (statement.groupBy.map (SortKey.write dialect)) ++
  clause "ORDER BY" (statement.orderBy.map fun (key, direction) =>
    key.write dialect ++ " " ++ direction.code) ++
  ["LIMIT " ++ toString statement.limit]

/-- The statement as text, a line for each clause. -/
def write (statement : SelectStatement) : String :=
  "\n".intercalate statement.lines

/-- The values of the parameters p1, p2 and so on. -/
def parameters (statement : SelectStatement) : List Json :=
  parametersOf statement.dialect (statement.condition.getD [])

end SelectStatement

end SemanticLayer
