import SemanticLayer.Decimal.Rounding
import SemanticLayer.Text.Blank
import SemanticLayer.Text.Digit
import SemanticLayer.Text.Quoted

/-!
Numbers read from text. Blanks at the ends and a sign are allowed, digits may be of any script, and
single underscores may stand between digits. The written form of a number is always read back.
-/

namespace SemanticLayer.Decimal

open Text

/-- Further digits of a run, each of which may follow an underscore: the digit values and what
follows. -/
def readMoreDigits : List Char → List Nat × List Char
  | [] => ([], [])
  | [c] =>
    match digitValue? c with
    | some value => ([value], [])
    | none => ([], [c])
  | c :: d :: rest =>
    match digitValue? c with
    | some value =>
      let (values, left) := readMoreDigits (d :: rest)
      (value :: values, left)
    | none =>
      match digitValue? d with
      | some value =>
        if c == '_' then
          let (values, left) := readMoreDigits rest
          (value :: values, left)
        else
          ([], c :: d :: rest)
      | none => ([], c :: d :: rest)

/-- A run of digits with single underscores between them: the digit values and what follows. -/
def readDigitRun (chars : List Char) : List Nat × List Char :=
  if chars.head?.any isDecimalDigit then readMoreDigits chars else ([], chars)

/-- The number that a list of decimal digits stands for. -/
def ofDigits (values : List Nat) : Nat :=
  values.foldl (fun n value => 10 * n + value) 0

/-- A sign, if one stands first, and what follows. -/
def readSign : List Char → Bool × List Char
  | '-' :: rest => (true, rest)
  | '+' :: rest => (false, rest)
  | rest => (false, rest)

/-- Why a text is no whole number. -/
inductive IntFault where
  | malformed
  | tooLong (digits : Nat)
  deriving Repr, DecidableEq

/-- The largest number of digits that is read as a whole number. -/
def digitLimit : Nat := 4300

/-- The sentence that says why a text is no whole number. -/
def IntFault.message (fault : IntFault) (text : String) : String :=
  match fault with
  | .malformed => "invalid literal for int() with base 10: " ++ quoted text
  | .tooLong digits =>
    s!"Exceeds the limit ({digitLimit} digits) for integer string conversion: value has " ++
      s!"{digits} digits; use sys.set_int_max_str_digits() to increase the limit"

/-- Reads a whole number. -/
def readInt (s : String) : Except IntFault Int :=
  let (negative, digits) := readSign (trimChars s.toList)
  match readDigitRun digits with
  | ([], _) => .error .malformed
  | (values, []) =>
    if digitLimit < values.length then .error (.tooLong values.length)
    else .ok (if negative then -(ofDigits values : Int) else ofDigits values)
  | (_, _ :: _) => .error .malformed

/-- The part of a number after its whole digits: the fraction's digits and what follows. -/
def readFraction : List Char → List Nat × List Char
  | '.' :: rest => readDigitRun rest
  | rest => ([], rest)

/-- An exponent, zero where none stands, and what follows. -/
def readExponent : List Char → Option (Int × List Char)
  | c :: rest =>
    if c == 'e' || c == 'E' then
      let (negative, digits) := readSign rest
      match readDigitRun digits with
      | ([], _) => none
      | (values, left) =>
        let size : Int := ofDigits values
        some (if negative then -size else size, left)
    else
      some (0, c :: rest)
  | [] => some (0, [])

/-- The number with the given digits times ten to a power. -/
def ofScientific (negative : Bool) (digits : List Nat) (exponent : Int) : Float :=
  let n := ofDigits digits
  let first : Int := exponent + (Nat.toDigits 10 n).length
  if n = 0 then nearest negative 0 1
  else if 400 < first then nearest negative (tenTo 400) 1
  else if first < -400 then nearest negative 0 1
  else nearest negative (n * tenTo exponent.toNat) (tenTo (-exponent).toNat)

/-- Not a number. -/
def notANumber : Float := Float.ofBits 0x7ff8000000000000

/-- The infinite numbers. -/
def infinite (negative : Bool) : Float :=
  Float.ofBits (if negative then 0xfff0000000000000 else 0x7ff0000000000000)

/-- Whether the number is neither infinite nor not a number. -/
def isFinite (x : Float) : Bool :=
  x.toBits.toNat % twoTo 63 < 0x7ff0000000000000

/-- Reads a number that may have a fraction and an exponent, or is infinite or not a number. -/
def readFloat? (s : String) : Option Float :=
  let (negative, body) := readSign (trimChars s.toList)
  let word := String.ofList (body.map Char.toLower)
  if word == "inf" || word == "infinity" then some (infinite negative)
  else if word == "nan" then some notANumber
  else
    let (whole, rest) := readDigitRun body
    let (fraction, rest) := readFraction rest
    if whole.isEmpty && fraction.isEmpty then none
    else
      match readExponent rest with
      | some (exponent, []) =>
        some (ofScientific negative (whole ++ fraction) (exponent - fraction.length))
      | _ => none

end SemanticLayer.Decimal
