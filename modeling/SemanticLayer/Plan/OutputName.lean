import SemanticLayer.Text.Blank
import SemanticLayer.Text.Case

/-!
Names of output columns: letters, digits and underscores only, and no name twice, letter case
aside.
-/

namespace SemanticLayer

open Text

/-- Whether a character may stand in the name of an output column. -/
def isNameChar (c : Char) : Bool :=
  c.isAlphanum || c == '_'

/-- The longest name of an output column. -/
def outputNameLength : Nat := 60

/-- The wanted name with underscores for all other characters, none of them at the ends before the
name is cut. -/
def outputName (wanted : String) : String :=
  let chars := wanted.toList.map fun c => if isNameChar c then c else '_'
  let inner := dropRight (· == '_') (chars.dropWhile (· == '_'))
  match inner.take outputNameLength with
  | [] => "col"
  | name => String.ofList name

/-- The name itself, and then the name with the numbers from two on. -/
def numberedName (name : String) : Nat → String
  | 0 => name
  | n + 1 => name ++ "_" ++ toString (n + 2)

/-- The first numbered form of a name whose lower case is not taken; with `n` names taken, one of
the first `n + 1` forms is free. -/
def freeName (taken : List String) (name : String) : String :=
  (((List.range (taken.length + 1)).map (numberedName name)).find? fun candidate =>
    !taken.contains (lower candidate)).getD name

end SemanticLayer
