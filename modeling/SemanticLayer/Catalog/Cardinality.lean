/-!
How many rows of one table belong to a row of another. A stored relationship may carry a code that
stands for none of the four cases; it is kept as it is and decides nothing.
-/

namespace SemanticLayer

inductive Cardinality where
  | oneToOne
  | oneToMany
  | manyToOne
  | manyToMany
  | other (code : String)
  deriving Repr, DecidableEq

namespace Cardinality

/-- The code under which the cardinality is stored. -/
def code : Cardinality → String
  | .oneToOne => "1-1"
  | .oneToMany => "1-n"
  | .manyToOne => "n-1"
  | .manyToMany => "n-n"
  | .other code => code

def ofCode (code : String) : Cardinality :=
  if code == "1-1" then .oneToOne
  else if code == "1-n" then .oneToMany
  else if code == "n-1" then .manyToOne
  else if code == "n-n" then .manyToMany
  else .other code

/-- The codes of the four cases. -/
def codes : List String := ["1-1", "1-n", "n-1", "n-n"]

/-- The same fact seen from the other table. -/
def reverse : Cardinality → Cardinality
  | .oneToMany => .manyToOne
  | .manyToOne => .oneToMany
  | cardinality => cardinality

theorem reverse_reverse (cardinality : Cardinality) :
    cardinality.reverse.reverse = cardinality := by
  cases cardinality <;> rfl

end Cardinality

end SemanticLayer
