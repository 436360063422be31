import SemanticLayer.Fault
import SemanticLayer.Text.Blank
import SemanticLayer.Text.Case

/-!
Rows as the warehouse sends them: lists of cells, to be read with the fields of the result. Cells of
numeric fields become numbers, and those that are no numbers become null.
-/

namespace SemanticLayer

open Text

/-- A row: its values under the names of its columns. -/
abbrev Row := List (String × Json)

/-- A limit that counts: no limit and zero do not. -/
def someLimit (limit : Option Int) : Option Int :=
  limit.filter (· != 0)

/-- The first `limit` items, or all but as many at the end if the limit is negative. -/
def cut (limit : Int) (items : List α) : List α :=
  items.take (if limit < 0 then items.length - limit.natAbs else limit.toNat)

structure ResultField where
  name : String
  isNumeric : Bool
  deriving Repr, DecidableEq

namespace ResultField

/-- The types whose values are numbers. -/
def numericTypes : List String :=
  ["INTEGER", "INT64", "FLOAT", "FLOAT64", "NUMERIC", "BIGNUMERIC"]

/-- A field's value as text; a field that is not there is empty. -/
def describe (value : Json) (key : String) : Except Fault String := do
  let _ ← Fault.field value key
  return ((value.field? key).map Json.plain).getD ""

def read (value : Json) : Except Fault ResultField := do
  let type ← describe value "type"
  return ⟨trim (← describe value "name"), numericTypes.contains (upper type)⟩

/-- The number that a value is, or null. -/
def number : Json → Except Fault Json
  | .float x => .ok (.float x)
  | .int n =>
    let x := Decimal.ofInt n
    if Decimal.isFinite x then .ok (.float x) else .error .hugeInteger
  | .bool b => .ok (.float (if b then 1.0 else 0.0))
  | .text s =>
    .ok (match Decimal.readFloat? s with
      | some x => .float x
      | none => .null)
  | _ => .ok .null

/-- The value of a field's cell, null for a cell that is absent. -/
def value (field : ResultField) (cell : Option Json) : Except Fault Json := do
  let found ← match cell with
    | some cell => if cell.isTruthy then Fault.field cell "v" else pure .null
    | none => pure .null
  if field.isNumeric then number found else return found

/-- The values of the fields, one cell after another. -/
def values : List ResultField → List Json → Except Fault Row
  | [], _ => .ok []
  | field :: fields, cells => do
    let found ← field.value cells.head?
    return (field.name, found) :: (← values fields cells.tail)

end ResultField

namespace Row

/-- Of the values under one name the last one counts. -/
def ofValues (values : Row) : Row :=
  values.foldl (fun row (name, value) => Json.setField row name value) []

def read (fields : List ResultField) (raw : Json) : Except Fault Row := do
  let cells ← Fault.items (← Fault.field raw "f")
  return ofValues (← ResultField.values fields cells)

/-- Reads a page of rows. -/
def readAll (fields raw : List Json) : Except Fault (List Row) := do
  let fields ← fields.mapM ResultField.read
  raw.mapM (read fields)

end Row

end SemanticLayer
