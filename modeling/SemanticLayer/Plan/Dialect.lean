import SemanticLayer.Catalog.Table
import SemanticLayer.Request.Query

/-!
How names, dates and values are written in the two languages that statements are made in. Whatever
stands between quotation marks stays between them: a mark inside a name is doubled or left out, and
one inside a value is escaped.
-/

namespace SemanticLayer

open Text

inductive Dialect where
  | postgres
  | bigQuery
  deriving Repr, DecidableEq

namespace Dialect

/-- The language of an engine. -/
def ofEngine (engine : String) : Dialect :=
  if engine == bigQueryEngine then .bigQuery else .postgres

/-- The characters of a name as they stand between the quotation marks. -/
def quotedChar : Dialect → Char → List Char
  | .postgres, c => if c == '"' then ['"', '"'] else [c]
  | .bigQuery, c => if c == '\x60' then [] else [c]

def nameMark : Dialect → Char
  | .postgres => '"'
  | .bigQuery => '\x60'

/-- A name between quotation marks. -/
def quote (dialect : Dialect) (name : String) : String :=
  String.ofList (dialect.nameMark :: name.toList.flatMap dialect.quotedChar ++ [dialect.nameMark])

def column (dialect : Dialect) (aliasName column : String) : String :=
  aliasName ++ "." ++ dialect.quote column

/-- A part of a date, given by the code of the part. Half years are counted by months, and weeks
are those of the ISO calendar. -/
def extract (dialect : Dialect) (part date : String) : String :=
  if part == "half" then
    s!"CASE WHEN {date} IS NULL THEN NULL WHEN EXTRACT(MONTH FROM {date}) <= 6 THEN 1 ELSE 2 END"
  else
    let field :=
      if part == "week" then
        match dialect with
        | .postgres => "WEEK"
        | .bigQuery => "ISOWEEK"
      else upper part
    s!"EXTRACT({field} FROM {date})"

end Dialect

/-- A column of an aliased table, or a part of the dates in it. -/
structure ColumnTerm where
  aliasName : String
  column : String
  part : Option DatePart
  deriving Repr, DecidableEq

def ColumnTerm.write (dialect : Dialect) (term : ColumnTerm) : String :=
  let column := dialect.column term.aliasName term.column
  match term.part with
  | none => column
  | some part => dialect.extract part.code column

/-! ### Values -/

/-- The texts that stand for no value. -/
def nullWords : List String := ["", "(blank)", "null", "undefined", "nan"]

/-- Whether a value stands for no value. -/
def isNullLike : Json → Bool
  | .null => true
  | .float x => x.isNaN
  | .text s => nullWords.contains (lower (trim s))
  | _ => false

/-- Whole numbers of this size or above are nearer to no binary number than to the first one that
is out of range. -/
def hugeSize : Nat := Decimal.twoTo 1024 - Decimal.twoTo 970

/-- Whether a value can be written into a statement. -/
def isWritable : Json → Bool
  | .int n => n.natAbs < hugeSize
  | _ => true

/-- The characters of a text value as they stand between the quotation marks. -/
def escapedChar (c : Char) : List Char :=
  if c == '\\' || c == '\'' then ['\\', c] else [c]

/-- A text between single quotation marks. -/
def textLiteral (s : String) : String :=
  String.ofList ('\'' :: s.toList.flatMap escapedChar ++ ['\''])

/-- A value written into a statement. Numbers that are infinite or undefined, lists and objects are
written as texts. -/
def literal : Json → String
  | .null => "NULL"
  | .bool true => "TRUE"
  | .bool false => "FALSE"
  | .int n => toString n
  | .float x => if Decimal.isFinite x then Decimal.write x else textLiteral (Decimal.write x)
  | value => textLiteral value.plain

end SemanticLayer
