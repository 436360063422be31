import SemanticLayer.Text.Word

/-!
Named parameters in statements. A parameter is a colon with a word after it; a colon that follows
another colon, a word or a backslash is no parameter, and a word that a colon follows does not count
to its last character.
-/

namespace SemanticLayer.Sql

open Text

/-- Whether a colon after this character is no parameter. -/
def hidesColon (c : Char) : Bool :=
  c == ':' || c == '\\' || isWord c

/-- The parameter that a colon before the characters makes. -/
def parameterAt (rest : List Char) : Option String :=
  let word := rest.takeWhile isWord
  let name := if (rest.drop word.length).head? == some ':' then word.dropLast else word
  if name.isEmpty then none else some (String.ofList name)

/-- The parameters of a text, `before` being the character to the left of it. -/
def parametersFrom (before : Option Char) : List Char → List String
  | [] => []
  | c :: rest =>
    let here := if c == ':' && !(before.any hidesColon) then (parameterAt rest).toList else []
    here ++ parametersFrom (some c) rest

/-- The parameters of a statement, in order. -/
def parameters (sql : String) : List String :=
  parametersFrom none sql.toList

/-- The statement with a backslash before each colon, so that none of them makes a parameter. -/
def escapeColons (sql : String) : String :=
  String.ofList (sql.toList.flatMap fun c => if c == ':' then ['\\', ':'] else [c])

end SemanticLayer.Sql
