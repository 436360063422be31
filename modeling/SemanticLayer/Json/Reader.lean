import SemanticLayer.Decimal.Reading
import SemanticLayer.Json.Value

/-!
Reading a value from its text. Besides the standard forms the words for infinite numbers and for
"not a number" are read. A fault carries the position, in characters, at which it is seen.
-/

namespace SemanticLayer.Json

/-- Why a text is no value. -/
inductive ReadFault where
  /-- The text breaks the rules at a position. -/
  | malformed (position : Nat)
  /-- A whole number has too many digits. -/
  | tooManyDigits (digits : Nat)
  deriving Repr, DecidableEq

/-- What a step of reading leaves: a result, the characters after it, and their position. -/
structure Rest (α : Type) where
  value : α
  chars : List Char
  position : Nat

/-- Characters that may stand around values. -/
def isSpacing (c : Char) : Bool :=
  c == ' ' || c == '\t' || c == '\n' || c == '\r'

def skipSpacing (chars : List Char) (position : Nat) : List Char × Nat :=
  let spacing := chars.takeWhile isSpacing
  (chars.drop spacing.length, position + spacing.length)

def hexValue? (c : Char) : Option Nat :=
  let code := c.toNat
  if 48 ≤ code && code ≤ 57 then some (code - 48)
  else if 97 ≤ code && code ≤ 102 then some (code - 87)
  else if 65 ≤ code && code ≤ 70 then some (code - 55)
  else none

/-- The number that four characters write in base sixteen. -/
def hexQuad? (chars : List Char) : Option Nat :=
  if chars.length == 4 then
    chars.foldl (fun n c => do some (16 * (← n) + (← hexValue? c))) (some 0)
  else
    none

def simpleEscape? : Char → Option Char
  | '"' => some '"'
  | '\\' => some '\\'
  | '/' => some '/'
  | 'b' => some (Char.ofNat 8)
  | 'f' => some (Char.ofNat 12)
  | 'n' => some '\n'
  | 'r' => some '\r'
  | 't' => some '\t'
  | _ => none

/-- The character of a code point; half of a pair stands for no character and is replaced. -/
def charOfCode (code : Nat) : Char :=
  if 0xd800 ≤ code && code < 0xe000 then Char.ofNat 0xfffd else Char.ofNat code

/-- A second half of a surrogate pair at the head of the characters. -/
def lowHalf? (chars : List Char) : Option Nat :=
  match chars with
  | '\\' :: 'u' :: rest =>
    match hexQuad? (rest.take 4) with
    | some low => if 0xdc00 ≤ low && low < 0xe000 && 4 < rest.length then some low else none
    | none => none
  | _ => none

/-- Whether a half pair is followed by a malformed escape of four digits. -/
def badHalf (chars : List Char) : Bool :=
  match chars with
  | '\\' :: 'u' :: rest => 4 < rest.length && (hexQuad? (rest.take 4)).isNone
  | _ => false

/-- Reads the inside of a text up to its closing quote; `start` is the place of the opening one. -/
def readText (start : Nat) : Nat → List Char → Nat → List Char →
    Except ReadFault (Rest String)
  | 0, _, _, _ => .error (.malformed start)
  | _ + 1, [], _, _ => .error (.malformed start)
  | fuel + 1, c :: rest, position, done =>
    if c == '"' then .ok ⟨String.ofList done.reverse, rest, position + 1⟩
    else if c == '\\' then
      match rest with
      | [] => .error (.malformed start)
      | 'u' :: digits =>
        if digits.length ≤ 4 then .error (.malformed (position + 1))
        else
          match hexQuad? (digits.take 4) with
          | none => .error (.malformed (position + 1))
          | some code =>
            let after := digits.drop 4
            if 0xd800 ≤ code && code < 0xdc00 then
              match lowHalf? after with
              | some low =>
                let whole := 0x10000 + (code - 0xd800) * 0x400 + (low - 0xdc00)
                readText start fuel (after.drop 6) (position + 12) (Char.ofNat whole :: done)
              | none =>
                if badHalf after then .error (.malformed (position + 7))
                else readText start fuel after (position + 6) (charOfCode code :: done)
            else
              readText start fuel after (position + 6) (charOfCode code :: done)
      | e :: after =>
        match simpleEscape? e with
        | some d => readText start fuel after (position + 2) (d :: done)
        | none => .error (.malformed position)
    else if c.toNat < 32 then .error (.malformed position)
    else readText start fuel rest (position + 1) (c :: done)

def isPlainDigit (c : Char) : Bool :=
  '0' ≤ c && c ≤ '9'

/-- The digits at the head of the characters, and what follows. -/
def spanDigits (chars : List Char) : List Char × List Char :=
  chars.span isPlainDigit

/-- The whole part of a number: a zero, or digits that do not start with one. -/
def wholeDigits? : List Char → Option (List Char × List Char)
  | '0' :: rest => some (['0'], rest)
  | c :: rest => if isPlainDigit c then some (spanDigits (c :: rest)) else none
  | [] => none

/-- The digits after a point, if a point and a digit stand first. -/
def fractionDigits (chars : List Char) : List Char × List Char :=
  match chars with
  | '.' :: rest =>
    match spanDigits rest with
    | ([], _) => ([], chars)
    | found => found
  | _ => ([], chars)

/-- An exponent with its length in characters, if one stands first. -/
def exponentPart? (chars : List Char) : Option (Int × List Char) :=
  match chars with
  | c :: rest =>
    if c == 'e' || c == 'E' then
      let (negative, digits) := Decimal.readSign rest
      match spanDigits digits with
      | ([], _) => none
      | (found, left) =>
        let size : Int := Decimal.ofDigits (found.map fun d => d.toNat - 48)
        some (if negative then -size else size, left)
    else
      none
  | [] => none

def readNumber (chars : List Char) (position : Nat) : Except ReadFault (Rest Json) :=
  let (negative, body) :=
    match chars with
    | '-' :: rest => (true, rest)
    | _ => (false, chars)
  match wholeDigits? body with
  | none => .error (.malformed position)
  | some (whole, rest) =>
    let (fraction, rest) := fractionDigits rest
    let values (digits : List Char) : List Nat := digits.map fun d => d.toNat - 48
    match fraction, exponentPart? rest with
    | [], none =>
      if Decimal.digitLimit < whole.length then .error (.tooManyDigits whole.length)
      else
        let size : Int := Decimal.ofDigits (values whole)
        .ok ⟨.int (if negative then -size else size), rest,
          position + (chars.length - rest.length)⟩
    | _, found =>
      let (exponent, left) := found.getD (0, rest)
      .ok ⟨.float (Decimal.ofScientific negative (values (whole ++ fraction))
          (exponent - fraction.length)), left, position + (chars.length - left.length)⟩

def wordValues : List (String × Json) :=
  [("null", .null), ("true", .bool true), ("false", .bool false),
    ("NaN", .float Decimal.notANumber), ("Infinity", .float (Decimal.infinite false)),
    ("-Infinity", .float (Decimal.infinite true))]

/-- A word that stands for a value, if one stands first. -/
def readWord? (chars : List Char) (position : Nat) : Option (Rest Json) :=
  wordValues.findSome? fun (word, value) =>
    let letters := word.toList
    if letters.isPrefixOf chars then
      some ⟨value, chars.drop letters.length, position + letters.length⟩
    else
      none

mutual

def readValue : Nat → List Char → Nat → Except ReadFault (Rest Json)
  | 0, _, position => .error (.malformed position)
  | fuel + 1, chars, position =>
    match chars with
    | '"' :: rest => do
      let found ← readText position rest.length.succ rest (position + 1) []
      .ok ⟨.text found.value, found.chars, found.position⟩
    | '[' :: rest =>
      let (rest, next) := skipSpacing rest (position + 1)
      match rest with
      | ']' :: rest => .ok ⟨.list [], rest, next + 1⟩
      | _ => readItems fuel rest next []
    | '\x7b' :: rest =>
      let (rest, next) := skipSpacing rest (position + 1)
      match rest with
      | '\x7d' :: rest => .ok ⟨.object [], rest, next + 1⟩
      | _ => readFields fuel rest next []
    | _ =>
      match readWord? chars position with
      | some found => .ok found
      | none => readNumber chars position

/-- Reads the items of a list up to its end, `done` being those before, last first. -/
def readItems : Nat → List Char → Nat → List Json → Except ReadFault (Rest Json)
  | 0, _, position, _ => .error (.malformed position)
  | fuel + 1, chars, position, done => do
    let item ← readValue fuel chars position
    let (rest, next) := skipSpacing item.chars item.position
    match rest with
    | ']' :: rest => .ok ⟨.list (item.value :: done).reverse, rest, next + 1⟩
    | ',' :: rest =>
      let (rest, after) := skipSpacing rest (next + 1)
      readItems fuel rest after (item.value :: done)
    | _ => .error (.malformed next)

/-- Reads the fields of an object up to its end, `done` being those before, last first. -/
def readFields : Nat → List Char → Nat → List (String × Json) → Except ReadFault (Rest Json)
  | 0, _, position, _ => .error (.malformed position)
  | fuel + 1, chars, position, done =>
    match chars with
    | '"' :: rest => do
      let key ← readText position rest.length.succ rest (position + 1) []
      let (rest, next) := skipSpacing key.chars key.position
      match rest with
      | ':' :: rest =>
        let (rest, next) := skipSpacing rest (next + 1)
        let value ← readValue fuel rest next
        let done := (key.value, value.value) :: done
        let (rest, next) := skipSpacing value.chars value.position
        match rest with
        | '\x7d' :: rest => .ok ⟨ofFields done.reverse, rest, next + 1⟩
        | ',' :: rest =>
          let (rest, after) := skipSpacing rest (next + 1)
          readFields fuel rest after done
        | _ => .error (.malformed next)
      | _ => .error (.malformed next)
    | _ => .error (.malformed position)

end

/-- Reads a value that fills the whole text, spacing apart. -/
def readChars (chars : List Char) : Except ReadFault Json := do
  let (rest, position) := skipSpacing chars 0
  let found ← readValue (2 * chars.length + 2) rest position
  let (rest, position) := skipSpacing found.chars found.position
  if rest.isEmpty then .ok found.value else .error (.malformed position)

/-- Reads a text; a byte order mark at its start is a fault. -/
def read (s : String) : Except ReadFault Json :=
  match s.toList with
  | c :: rest => if c.toNat == 0xfeff then .error (.malformed 0) else readChars (c :: rest)
  | [] => readChars []

end SemanticLayer.Json
