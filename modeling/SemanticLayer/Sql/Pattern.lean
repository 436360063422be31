import SemanticLayer.Text.Blank
import SemanticLayer.Text.Digit
import SemanticLayer.Text.Word

/-!
Patterns of characters with alternatives tried in order. A pattern is read at a place in a text that
knows the character to its left; where a later part fails, an earlier part gives characters back.
Letters are read without regard to case.
-/

namespace SemanticLayer.Sql

open Text

/-- A place in a text: the character to the left, the characters to the right, and how many
characters the pattern has read so far. -/
structure Place where
  left : Option Char
  right : List Char
  taken : Nat
  deriving Repr, BEq

/-- The place after one more character. -/
def Place.step (c : Char) (right : List Char) (place : Place) : Place :=
  ⟨some c, right, place.taken + 1⟩

/-- Whether exactly one of the two neighbours is a word character. -/
def Place.isWordBoundary (place : Place) : Bool :=
  place.left.any isWord != place.right.head?.any isWord

inductive Pattern where
  /-- One character of a class. -/
  | one (accepts : Char → Bool)
  /-- As many characters of a class as possible, giving back from the right. -/
  | run (accepts : Char → Bool)
  /-- What follows an opening quote: a doubled quote, with `escapes` also a quote after a backslash,
  or any other character, up to a closing quote. -/
  | quoted (quote : Char) (escapes : Bool)
  | seq (first second : Pattern)
  | either (first second : Pattern)
  | optional (body : Pattern)
  /-- Succeeds where the body would, and reads nothing. -/
  | ahead (body : Pattern)
  /-- Succeeds where the body would not, and reads nothing. -/
  | notAhead (body : Pattern)
  /-- The character to the left is of the class. -/
  | behind (accepts : Char → Bool)
  /-- The character to the left, if any, is not of the class. -/
  | notBehind (accepts : Char → Bool)
  | wordBoundary
  | finish

/-- The places after zero, one, two, … characters of a class, the farthest first. -/
def Place.runs (accepts : Char → Bool) (place : Place) : List Place :=
  go place.right place [place]
where
  go : List Char → Place → List Place → List Place
    | [], _, found => found
    | c :: rest, place, found =>
      if accepts c then
        let next := place.step c rest
        go rest next (next :: found)
      else
        found

/-- Reads up to a closing quote; a doubled quote is taken for a closing one only where the text
cannot be closed later, and so is a quote after a backslash. -/
def readQuoted (quote : Char) (escapes : Bool) (next : Place → Option Place) :
    List Char → Nat → Option Place
  | [], _ => none
  | [c], taken => if c == quote then next ⟨some c, [], taken + 1⟩ else none
  | c :: d :: rest, taken =>
    if c == quote then
      if d == quote then
        (readQuoted quote escapes next rest (taken + 2)).or (next ⟨some c, d :: rest, taken + 1⟩)
      else
        next ⟨some c, d :: rest, taken + 1⟩
    else if escapes && c == '\\' && d == quote then
      (readQuoted quote escapes next rest (taken + 2)).or
        (readQuoted quote escapes next (d :: rest) (taken + 1))
    else
      readQuoted quote escapes next (d :: rest) (taken + 1)

/-- Reads the pattern and then `next`, at the first reading of the pattern that lets `next`
succeed. -/
def Pattern.read : Pattern → (Place → Option Place) → Place → Option Place
  | .one accepts, next, place =>
    match place.right with
    | c :: rest => if accepts c then next (place.step c rest) else none
    | [] => none
  | .run accepts, next, place => (place.runs accepts).findSome? next
  | .quoted quote escapes, next, place => readQuoted quote escapes next place.right place.taken
  | .seq first second, next, place => first.read (second.read next) place
  | .either first second, next, place => (first.read next place).or (second.read next place)
  | .optional body, next, place => (body.read next place).or (next place)
  | .ahead body, next, place => if (body.read some place).isSome then next place else none
  | .notAhead body, next, place => if (body.read some place).isSome then none else next place
  | .behind accepts, next, place => if place.left.any accepts then next place else none
  | .notBehind accepts, next, place => if place.left.any accepts then none else next place
  | .wordBoundary, next, place => if place.isWordBoundary then next place else none
  | .finish, next, place => if place.right.isEmpty then next place else none

/-- The number of characters that the pattern reads at a place. -/
def Pattern.length? (pattern : Pattern) (left : Option Char) (right : List Char) : Option Nat :=
  (pattern.read some ⟨left, right, 0⟩).map (·.taken)

namespace Pattern

/-- The letters of both cases that count as one letter. Three letters have partners outside the
first 128 code points: the dotted and dotless i, the long s and the Kelvin sign. -/
def sameLetter (letter c : Char) : Bool :=
  let lower := letter.toLower
  c.toLower == lower ||
    (lower == 'i' && (c.toNat == 304 || c.toNat == 305)) ||
    (lower == 's' && c.toNat == 383) ||
    (lower == 'k' && c.toNat == 8490)

/-- The letters that a name starts with: the basic and the Western European alphabet, and the
letters that share a case with one of them. -/
def isNameStart (c : Char) : Bool :=
  let code := c.toNat
  (65 ≤ code && code ≤ 90) || (97 ≤ code && code ≤ 122) || (192 ≤ code && code ≤ 220) ||
    (224 ≤ code && code ≤ 252 && code != 247) || code == 304 || code == 305 || code == 383 ||
    code == 8490 || code == 8491

/-- A fixed text, read without regard to case. -/
def text (s : String) : Pattern :=
  match s.toList with
  | [] => .run fun _ => false
  | c :: rest => rest.foldl (fun read d => .seq read (.one (sameLetter d))) (.one (sameLetter c))

/-- The patterns one after the other. -/
def all : List Pattern → Pattern
  | [] => .run fun _ => false
  | [p] => p
  | p :: rest => .seq p (all rest)

/-- The first of the patterns that lets the rest succeed. -/
def any : List Pattern → Pattern
  | [] => .one fun _ => false
  | [p] => p
  | p :: rest => .either p (any rest)

def oneOrMore (accepts : Char → Bool) : Pattern :=
  .seq (.one accepts) (.run accepts)

def anyText (texts : List String) : Pattern :=
  any (texts.map text)

/-- Blanks, at least one. -/
def blanks : Pattern :=
  oneOrMore isBlank

/-- Words with blanks between them, ending at the end of a word. -/
def phrase (words : List String) : Pattern :=
  .seq (all ((words.map text).intersperse blanks)) .wordBoundary

/-- A character that a name or a number cannot run into. -/
def isNameStartOrLine (c : Char) : Bool :=
  c == '_' || isNameStart c

end Pattern

end SemanticLayer.Sql
