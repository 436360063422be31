import SemanticLayer.Decimal.Exact
import SemanticLayer.Decimal.Reading
import SemanticLayer.Json.Value

/-!
Reading the fields of a request. All faults of a request are collected, in the order in which its
fields are declared, and each says where in the request it lies. A field is looked up under two
names, of which the first one counts.
-/

namespace SemanticLayer

open Text

/-- Why a value does not fit its field. -/
inductive FieldFault where
  | missing
  | notText
  | tooShort
  | notList
  | notObject (model : String)
  | notInteger
  | notFinite
  | fractional
  | unreadableInteger
  | hugeInteger
  | rejected (message : String)
  deriving Repr, DecidableEq

namespace FieldFault

def code : FieldFault → String
  | .missing => "missing"
  | .notText => "string_type"
  | .tooShort => "string_too_short"
  | .notList => "list_type"
  | .notObject _ => "model_type"
  | .notInteger => "int_type"
  | .notFinite => "finite_number"
  | .fractional => "int_from_float"
  | .unreadableInteger => "int_parsing"
  | .hugeInteger => "int_parsing_size"
  | .rejected _ => "value_error"

def message : FieldFault → String
  | .missing => "Field required"
  | .notText => "Input should be a valid string"
  | .tooShort => "String should have at least 1 character"
  | .notList => "Input should be a valid list"
  | .notObject model => "Input should be a valid dictionary or instance of " ++ model
  | .notInteger => "Input should be a valid integer"
  | .notFinite => "Input should be a finite number"
  | .fractional => "Input should be a valid integer, got a number with a fractional part"
  | .unreadableInteger => "Input should be a valid integer, unable to parse string as an integer"
  | .hugeInteger => "Unable to parse input string as an integer, exceeded maximum size"
  | .rejected message => "Value error, " ++ message

end FieldFault

/-- A fault with its place: the names and indices that lead to it. -/
structure Issue where
  path : List String
  fault : FieldFault
  deriving Repr, DecidableEq

/-- A message with the place that it is about, unless that is the whole request. -/
def placed (path : List String) (message : String) : String :=
  if path.isEmpty then message else ".".intercalate path ++ ": " ++ message

/-- A value, or all the faults that were found instead. -/
abbrev Checked (α : Type) := Except (List Issue) α

namespace Checked

/-- A single fault at the place under examination. -/
def fail (fault : FieldFault) : Checked α :=
  .error [⟨[], fault⟩]

/-- Applies a function to an argument; if both have faults, all of them are kept. -/
def app (f : Checked (α → β)) (x : Unit → Checked α) : Checked β :=
  match f, x () with
  | .ok f, .ok x => .ok (f x)
  | .ok _, .error issues => .error issues
  | .error issues, .ok _ => .error issues
  | .error first, .error second => .error (first ++ second)

instance : Seq Checked where
  seq := app

/-- Says that the faults lie inside a named place. -/
def within (name : String) (x : Checked α) : Checked α :=
  x.mapError fun issues => issues.map fun issue => { issue with path := name :: issue.path }

/-- Reads each item of a list, `index` being the place of the first. -/
def each (read : Json → Checked α) (index : Nat) : List Json → Checked (List α)
  | [] => .ok []
  | item :: rest =>
    List.cons <$> within (toString index) (read item) <*> each read (index + 1) rest

end Checked

/-- The two names of a field: the one that requests use and the one that programs use. -/
structure FieldName where
  outer : String
  name : String

namespace FieldName

def plain (name : String) : FieldName := ⟨name, name⟩

/-- The field's value with the name under which it was found. -/
def find? (field : FieldName) (value : Json) : Option (String × Json) :=
  ((value.field? field.outer).map (field.outer, ·)).or
    ((value.field? field.name).map (field.name, ·))

def required (field : FieldName) (read : Json → Checked α) (value : Json) : Checked α :=
  match field.find? value with
  | some (name, found) => Checked.within name (read found)
  | none => Checked.within field.outer (Checked.fail .missing)

def withDefault (field : FieldName) (default : α) (read : Json → Checked α) (value : Json) :
    Checked α :=
  match field.find? value with
  | some (name, found) => Checked.within name (read found)
  | none => .ok default

end FieldName

namespace Checked

/-- Reads a text. -/
def text : Json → Checked String
  | .text s => .ok s
  | _ => fail .notText

/-- Reads a text that is not empty. -/
def someText : Json → Checked String
  | .text s => if s.isEmpty then fail .tooShort else .ok s
  | _ => fail .notText

def nullable (read : Json → Checked α) : Json → Checked (Option α)
  | .null => .ok none
  | value => some <$> read value

def list (read : Json → Checked α) : Json → Checked (List α)
  | .list items => each read 0 items
  | _ => fail .notList

def object (model : String) (read : Json → Checked α) : Json → Checked α
  | .object fields => read (.object fields)
  | _ => fail (.notObject model)

/-- Whether a character is dropped from the ends of a number; the information separators are not. -/
def isNumberBlank (c : Char) : Bool :=
  isBlank c && !(28 ≤ c.toNat && c.toNat ≤ 31)

/-- The digits of a whole number in which single underscores may stand between digits. -/
def plainDigits? : List Char → Option (List Nat)
  | [] => none
  | [c] => if c.isDigit then some [c.toNat - 48] else none
  | c :: '_' :: d :: rest =>
    if c.isDigit then (plainDigits? (d :: rest)).map ((c.toNat - 48) :: ·) else none
  | c :: d :: rest =>
    if c.isDigit then (plainDigits? (d :: rest)).map ((c.toNat - 48) :: ·) else none

/-- Reads a whole number from text; a point with nothing but zeros after it is allowed. -/
def integerOfText (s : String) : Checked Int :=
  let chars := dropRight isNumberBlank (s.toList.dropWhile isNumberBlank)
  if Decimal.digitLimit < (String.ofList chars).utf8ByteSize then fail .hugeInteger
  else
    let (negative, body) := Decimal.readSign chars
    let whole := body.takeWhile (· != '.')
    let fraction := (body.drop whole.length).drop 1
    match plainDigits? whole with
    | some values =>
      if fraction.all (· == '0') then
        let size : Int := Decimal.ofDigits values
        .ok (if negative then -size else size)
      else
        fail .unreadableInteger
    | none => fail .unreadableInteger

/-- Reads a whole number. Truth values count as one and zero, and a number with a fraction counts if
that is zero and the number fits into 64 bits. -/
def integer : Json → Checked Int
  | .int n => .ok n
  | .bool b => .ok (if b then 1 else 0)
  | .float x =>
    if !Decimal.isFinite x then fail .notFinite
    else
      match Decimal.whole? x with
      | none => fail .fractional
      | some n => if n.natAbs < Decimal.twoTo 63 then .ok n else fail .hugeInteger
  | .text s => integerOfText s
  | _ => fail .notInteger

end Checked

end SemanticLayer
