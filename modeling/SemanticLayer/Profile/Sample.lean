import SemanticLayer.Decimal.Significant
import SemanticLayer.Guard
import SemanticLayer.Profile.Basic
import SemanticLayer.Sql.Parameter

/-!
Profiles of data at hand. Values are counted as they compare: numbers by their size, so that a whole
number equals a number with a fraction of zero, and never equal to a text. For overlaps every value
is turned into text, the texts are ordered, and only the first ones are looked at.
-/

namespace SemanticLayer

/-- A cell of a data table. -/
inductive Cell where
  | null
  | int (value : Int)
  | real (value : Float)
  | text (value : String)

namespace Cell

/-- The text that a value is turned into, none for a missing value. -/
def text? : Cell → Option String
  | .null => none
  | .int n => some (toString n)
  | .real x => some (Decimal.writeSignificant x)
  | .text s => some s

/-- A text that two values share if they compare as equal, none for a missing value. -/
def identity? : Cell → Option String
  | .null => none
  | .int n => some ("=" ++ toString n)
  | .real x =>
    match if Decimal.isFinite x then Decimal.whole? x else none with
    | some n => some ("=" ++ toString n)
    | none => some ("=" ++ Decimal.write x)
  | .text s => some ("'" ++ s)

end Cell

structure DataTable where
  name : String
  columns : List String
  rows : List (List Cell)

/-- A text in lower case, as far as the basic alphabet goes. -/
def foldCase (s : String) : String :=
  String.ofList (s.toList.map Char.toLower)

/-- The list in order, each member once. -/
def sortedTexts (values : List String) : List String :=
  let sorted := values.mergeSort fun a b => !decide (b < a)
  sorted.foldr
    (fun value rest => if rest.head? == some value then rest else value :: rest) []

/-- A reference without the double quotes around it. -/
def bareReference (reference : String) : String :=
  match reference.toList with
  | '"' :: rest =>
    if rest.getLast? == some '"' then String.ofList (undouble rest.dropLast) else reference
  | _ => reference
where
  /-- The characters with each doubled quote taken once. -/
  undouble : List Char → List Char
    | '"' :: '"' :: rest => '"' :: undouble rest
    | c :: rest => c :: undouble rest
    | [] => []

namespace DataTable

/-- The values of a column, whose name is compared without regard to case. -/
def column? (table : DataTable) (column : String) : Option (List Cell) :=
  (table.columns.findIdx? fun name => foldCase name == foldCase column).map fun place =>
    table.rows.map fun row => (row[place]?).getD .null

end DataTable

/-- The data at hand. -/
structure DataSample where
  tables : List DataTable
  /-- How many values of a column are compared with those of another one; all, if negative. -/
  distinctLimit : Int

namespace DataSample

/-- Whether a table has a name, letter case aside. -/
def isNamed (name : String) (table : DataTable) : Bool :=
  foldCase table.name == foldCase name

/-- The data with more tables, none if one of their names is taken. -/
def add (sample : DataSample) (tables : List DataTable) : Option DataSample :=
  if tables.any fun table => sample.tables.any (isNamed table.name) then none
  else some { sample with tables := sample.tables ++ tables }

/-- The data without a table, none if it is not there. -/
def remove (sample : DataSample) (name : String) : Option DataSample :=
  if sample.tables.any (isNamed name) then
    some { sample with tables := sample.tables.filter fun table => !isNamed name table }
  else none

/-- The values of a column of a table that is named as in the engine. Names that a statement would
read as parameters cannot be looked up. -/
def values (sample : DataSample) (table : Table) (column : String) :
    Except ProfileFault (List Cell) :=
  let reference := table.runtimeRef.getD ""
  if !(Sql.parameters column ++ Sql.parameters reference).isEmpty then .error .unbound
  else
    let found := sample.tables.find? (isNamed (bareReference reference))
    match (found.bind fun data => data.column? column) with
    | some values => .ok values
    | none => .error .absent

def column (sample : DataSample) (table : Table) (column : String) :
    Except ProfileFault ColumnProfile := do
  let values ← sample.values table column
  let identities := values.filterMap Cell.identity?
  return ⟨values.length, identities.length, (sortedTexts identities).length⟩

/-- The texts of a column that are compared. -/
def compared (sample : DataSample) (values : List Cell) : List String :=
  let texts := sortedTexts (values.filterMap Cell.text?)
  if sample.distinctLimit < 0 then texts else texts.take sample.distinctLimit.toNat

def overlap (sample : DataSample) (left : Table) (leftColumn : String) (right : Table)
    (rightColumn : String) : Except ProfileFault OverlapProfile := do
  let leftTexts := sample.compared (← sample.values left leftColumn)
  let rightTexts := sample.compared (← sample.values right rightColumn)
  let shared := leftTexts.countP fun text => rightTexts.contains text
  return ⟨leftTexts.length, rightTexts.length, shared⟩

def profiler (sample : DataSample) : Profiler :=
  ⟨sample.column, sample.overlap⟩

end DataSample

end SemanticLayer
