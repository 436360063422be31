import SemanticLayer.Decimal.Shortest
import SemanticLayer.Text.Quoted

/-!
Values of data: what requests carry, what cells of a table hold, what answers are made of. Objects
keep their fields in order and hold each key once. Whole numbers have any size and are not the same
as numbers with a fraction.
-/

namespace SemanticLayer

inductive Json where
  | null
  | bool (value : Bool)
  | int (value : Int)
  | float (value : Float)
  | text (value : String)
  | list (items : List Json)
  | object (fields : List (String × Json))

namespace Json

instance : Inhabited Json := ⟨.null⟩

/-- The field list with one key set. A key that is there keeps its place. -/
def setField (fields : List (String × Json)) (key : String) (value : Json) :
    List (String × Json) :=
  match fields with
  | [] => [(key, value)]
  | (k, v) :: rest => if k == key then (k, value) :: rest else (k, v) :: setField rest key value

/-- The object of a list of fields, where the last value of a key counts. -/
def ofFields (fields : List (String × Json)) : Json :=
  .object (fields.foldl (fun done (key, value) => setField done key value) [])

/-- The value of a field, if the value is an object that has it. -/
def field? : Json → String → Option Json
  | .object fields, key => (fields.find? (·.1 == key)).map Prod.snd
  | _, _ => none

/-- The value of a field, null where there is none. -/
def field (value : Json) (key : String) : Json :=
  (value.field? key).getD .null

/-- Null, false, zero and empty values count as absent. -/
def isTruthy : Json → Bool
  | .null => false
  | .bool b => b
  | .int n => n != 0
  | .float x => !(x == 0.0)
  | .text s => !s.isEmpty
  | .list items => !items.isEmpty
  | .object fields => !fields.isEmpty

def isNull : Json → Bool
  | .null => true
  | _ => false

mutual

/-- The value as it is shown inside a list or an object. -/
def quoted : Json → String
  | .null => "None"
  | .bool true => "True"
  | .bool false => "False"
  | .int n => toString n
  | .float x => Decimal.write x
  | .text s => Text.quoted s
  | .list items => "[" ++ String.intercalate ", " (quotedItems items) ++ "]"
  | .object fields => "\x7b" ++ String.intercalate ", " (quotedFields fields) ++ "\x7d"

def quotedItems : List Json → List String
  | [] => []
  | item :: rest => item.quoted :: quotedItems rest

def quotedFields : List (String × Json) → List String
  | [] => []
  | (key, value) :: rest => (Text.quoted key ++ ": " ++ value.quoted) :: quotedFields rest

end

/-- The value as text: a text as it is, anything else as it is shown. -/
def plain : Json → String
  | .text s => s
  | value => value.quoted

/-- The kinds of values. -/
inductive Shape where
  | null
  | bool
  | int
  | float
  | text
  | list
  | object
  deriving Repr, DecidableEq

def shape : Json → Shape
  | .null => .null
  | .bool _ => .bool
  | .int _ => .int
  | .float _ => .float
  | .text _ => .text
  | .list _ => .list
  | .object _ => .object

/-- The first value if it counts, the second one otherwise. -/
def orElse (first second : Json) : Json :=
  if first.isTruthy then first else second

/-- The value, or an empty object for a value that counts as absent. -/
def orEmpty (value : Json) : Json :=
  if value.isTruthy then value else .object []

/-- The text, where the value is one. -/
def text? : Json → Option String
  | .text s => some s
  | _ => none

/-- A text, or null for none. -/
def ofText? : Option String → Json
  | some s => .text s
  | none => .null

def ofTexts (items : List String) : Json :=
  .list (items.map .text)

end Json

end SemanticLayer
