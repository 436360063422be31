import SemanticLayer.Fault
import SemanticLayer.Plan.Dialect

/-!
Conditions on columns. A condition is written as fixed text with places for values; where the
language has parameters the places are numbered, otherwise the values are written out.
-/

namespace SemanticLayer

inductive Comparison where
  | equal
  | notEqual
  | greater
  | greaterOrEqual
  | less
  | lessOrEqual
  deriving Repr, DecidableEq

def Comparison.symbol : Comparison → String
  | .equal => "="
  | .notEqual => "!="
  | .greater => ">"
  | .greaterOrEqual => ">="
  | .less => "<"
  | .lessOrEqual => "<="

/-- What is asked of the values of a column. -/
inductive Condition where
  | isNull
  | isNotNull
  | compare (comparison : Comparison) (value : Json)
  /-- The value as text fits a pattern, or does not; letter case counts in one language only. -/
  | like (negated : Bool) (pattern : String)
  | between (low high : Json)
  /-- The value is one of a list, or none of it. -/
  | among (negated : Bool) (values : List Json)

def equality (negated : Bool) (value : Json) : Condition :=
  match isNullLike value, negated with
  | true, false => .isNull
  | true, true => .isNotNull
  | false, false => .compare .equal value
  | false, true => .compare .notEqual value

/-- The values of a list; a single value counts as a list of one. -/
def listed : Json → List Json
  | .list values => values
  | value => [value]

def FilterItem.condition (item : FilterItem) : Except Report Condition :=
  match item.operator with
  | .equals => .ok (equality false item.value)
  | .notEquals => .ok (equality true item.value)
  | .contains => .ok (.like false ("%" ++ item.value.plain ++ "%"))
  | .notContains => .ok (.like true ("%" ++ item.value.plain ++ "%"))
  | .startsWith => .ok (.like false (item.value.plain ++ "%"))
  | .endsWith => .ok (.like false ("%" ++ item.value.plain))
  | .greaterThan => .ok (.compare .greater item.value)
  | .greaterOrEqual => .ok (.compare .greaterOrEqual item.value)
  | .lessThan => .ok (.compare .less item.value)
  | .lessOrEqual => .ok (.compare .lessOrEqual item.value)
  | .between =>
    if item.value.isNull || item.value2.isNull then
      .error (.make .invalidRequest
        ("between filter on " ++ item.column ++ " requires value and value2"))
    else
      .ok (.between item.value item.value2)
  | .isIn => .ok (.among false (listed item.value))
  | .notIn => .ok (.among true (listed item.value))
  | .isNull => .ok .isNull
  | .isNotNull => .ok .isNotNull
  | .unsupported code => .error (.make .invalidRequest ("Unsupported filter operator: " ++ code))

/-- A piece of a statement: fixed text, or the place of a value. -/
inductive Piece where
  | text (text : String)
  | value (value : Json)

/-- The values of the pieces, in order. -/
def pieceValues : List Piece → List Json
  | [] => []
  | .text _ :: rest => pieceValues rest
  | .value v :: rest => v :: pieceValues rest

def parameterName (number : Nat) : String :=
  "p" ++ toString number

/-- The pieces as text, where `taken` parameters have been used before. -/
def writePieces (dialect : Dialect) (taken : Nat) : List Piece → String
  | [] => ""
  | .text s :: rest => s ++ writePieces dialect taken rest
  | .value v :: rest =>
    match dialect with
    | .postgres => ":" ++ parameterName (taken + 1) ++ writePieces dialect (taken + 1) rest
    | .bigQuery => literal v ++ writePieces dialect taken rest

/-- The values that are handed over beside the text of the pieces. -/
def parametersOf (dialect : Dialect) (pieces : List Piece) : List Json :=
  match dialect with
  | .postgres => pieceValues pieces
  | .bigQuery => []

/-- The places of values with commas between them. -/
def commaPieces : List Json → List Piece
  | [] => []
  | [v] => [.value v]
  | v :: rest => .value v :: .text ", " :: commaPieces rest

namespace Condition

/-- The values that the condition has places for, in order. -/
def values : Condition → List Json
  | .isNull | .isNotNull => []
  | .compare _ value => [value]
  | .like _ pattern => [.text pattern]
  | .between low high => [low, high]
  | .among _ values => values

/-- The condition on a column that is given as text. -/
def pieces (dialect : Dialect) (column : String) : Condition → List Piece
  | .isNull => [.text (column ++ " IS NULL")]
  | .isNotNull => [.text (column ++ " IS NOT NULL")]
  | .compare comparison value =>
    [.text (column ++ " " ++ comparison.symbol ++ " "), .value value]
  | .like negated pattern =>
    let negation := if negated then "NOT " else ""
    match dialect with
    | .postgres =>
      [.text ("CAST(" ++ column ++ " AS TEXT) " ++ negation ++ "ILIKE "), .value (.text pattern)]
    | .bigQuery =>
      [.text ("CAST(" ++ column ++ " AS STRING) " ++ negation ++ "LIKE "), .value (.text pattern)]
  | .between low high =>
    [.text (column ++ " BETWEEN "), .value low, .text " AND ", .value high]
  | .among false [] => [.text "1 = 0"]
  | .among true [] => [.text "1 = 1"]
  | .among negated values =>
    let keyword := if negated then "NOT IN" else "IN"
    [.text (column ++ " " ++ keyword ++ " (")] ++ commaPieces values ++ [.text ")"]

/-- Whether all values of the condition can be written in the language. Parameters need not be
written. -/
def isWritable (dialect : Dialect) (condition : Condition) : Bool :=
  dialect == .postgres || condition.values.all SemanticLayer.isWritable

end Condition

/-- The condition that a filter states, where the language can write it. -/
def FilterItem.conditionIn (dialect : Dialect) (item : FilterItem) : Except Fault Condition := do
  let condition ← item.condition
  if condition.isWritable dialect then return condition else throw .hugeInteger

/-- A condition on a column, with its connection to the conditions before it. -/
structure FilterTerm where
  connective : Connective
  column : ColumnTerm
  condition : Condition

def FilterTerm.pieces (dialect : Dialect) (term : FilterTerm) : List Piece :=
  term.condition.pieces dialect (term.column.write dialect)

/-- Adds terms to an expression, each being combined with all that stands before it. -/
def combineFrom (dialect : Dialect) (expression : List Piece) : List FilterTerm → List Piece
  | [] => expression
  | term :: rest =>
    combineFrom dialect
      ([.text "("] ++ expression ++ [.text (" " ++ term.connective.code ++ " (")] ++
        term.pieces dialect ++ [.text "))"])
      rest

/-- The terms as one expression; no terms make none. -/
def combine (dialect : Dialect) : List FilterTerm → Option (List Piece)
  | [] => none
  | term :: rest =>
    some (combineFrom dialect ([.text "("] ++ term.pieces dialect ++ [.text ")"]) rest)

/-- The aliases of tables by the tables' identifiers. -/
abbrev Aliases := List (String × String)

/-- The alias of a table, if it has one that counts. -/
def Aliases.find? (aliases : Aliases) (id : String) : Option String :=
  presentText ((List.find? (·.1 == id) aliases).map Prod.snd)

/-- The terms for filters on tables, each with the identifier of its table. Filters on tables
without an alias are left out. -/
def filterTerms (dialect : Dialect) (aliases : Aliases) :
    List (String × FilterItem) → Except Fault (List FilterTerm)
  | [] => .ok []
  | (id, item) :: rest =>
    match aliases.find? id with
    | none => filterTerms dialect aliases rest
    | some aliasName => do
      let condition ← item.conditionIn dialect
      let terms ← filterTerms dialect aliases rest
      return ⟨item.connective, ⟨aliasName, item.column, item.part⟩, condition⟩ :: terms

end SemanticLayer
