import SemanticLayer.Catalog.Cardinality
import SemanticLayer.Inference.Name

/-!
What the names of two columns say about a relationship between them. A column named after the
identifier of the other table is strong evidence; the same name in both tables alone is none.
-/

namespace SemanticLayer

/-- How much names say. -/
inductive Strength where
  | strong
  | weak
  | none
  deriving Repr, DecidableEq

namespace Strength

def code : Strength → String
  | .strong => "strong"
  | .weak => "weak"
  | .none => "none"

/-- The strengths in order, the greatest being two. -/
def rank : Strength → Nat
  | .strong => 2
  | .weak => 1
  | .none => 0

end Strength

/-- What speaks for or against a relationship. -/
inductive Reason where
  | sameName
  | foreignKey
  | primaryKey
  | tableReference
  | sharedForeignKey
  | sameType
  | profileConflict
  | profiled (cardinality : Cardinality)
  /-- The share of values that find a match, in percent. -/
  | overlap (percent : Int)
  | sharedKeyName
  | forced
  | other (code : String)
  deriving Repr, DecidableEq

namespace Reason

def code : Reason → String
  | .sameName => "same_column_name"
  | .foreignKey => "foreign_key_pattern"
  | .primaryKey => "primary_key_pattern"
  | .tableReference => "table_reference_pattern"
  | .sharedForeignKey => "shared_foreign_key"
  | .sameType => "same_datatype"
  | .profileConflict => "profile_conflict"
  | .profiled cardinality => "profile_" ++ cardinality.code
  | .overlap percent => "overlap_" ++ toString percent ++ "pct"
  | .sharedKeyName => "generic_column_name"
  | .forced => "forced_n-n"
  | .other code => code

end Reason

/-- What names say about two columns in their order. -/
structure NamingEvidence where
  /-- None where the names leave it open. -/
  cardinality : Option Cardinality
  strength : Strength
  reasons : List Reason
  deriving Repr, DecidableEq

/-- No evidence at all. -/
def NamingEvidence.nothing : NamingEvidence := ⟨none, .none, []⟩

structure NamedColumn where
  table : String
  column : String
  deriving Repr, DecidableEq

namespace NamedColumn

/-- Whether the column is named after the identifier of another column's table. -/
def refersTo (one other : NamedColumn) : Bool :=
  SemanticLayer.refersTo (normalizeName one.column) other.table

def isPrimaryKey (column : NamedColumn) : Bool :=
  isPrimaryKeyLike (normalizeName column.column) column.table

def isForeignKey (column : NamedColumn) : Bool :=
  isForeignKeyLike (normalizeName column.column) column.table

def isId (column : NamedColumn) : Bool :=
  isIdShaped (normalizeName column.column)

end NamedColumn

/-- What the names of two columns say; none where they give no reason to consider the pair. The
cardinality holds from the first column to the second. -/
def NamingEvidence.ofNames (one two : NamedColumn) : Option NamingEvidence :=
  let sameName := normalizeName one.column == normalizeName two.column
  let base : List Reason := if sameName then [.sameName] else []
  if one.refersTo two && two.isPrimaryKey then
    some ⟨some .manyToOne, .strong, base ++ [.foreignKey, .tableReference, .primaryKey]⟩
  else if two.refersTo one && one.isPrimaryKey then
    some ⟨some .oneToMany, .strong, base ++ [.foreignKey, .tableReference, .primaryKey]⟩
  else if one.isPrimaryKey && two.isPrimaryKey then
    if !sameName then none
    else if surrogateNames.contains (normalizeName one.column) then
      some ⟨some .oneToOne, .weak, [.primaryKey]⟩
    else some ⟨some .oneToOne, .strong, base ++ [.primaryKey]⟩
  else if one.refersTo two && two.isId then
    some ⟨some .manyToOne, .weak, base ++ [.foreignKey, .tableReference]⟩
  else if two.refersTo one && one.isId then
    some ⟨some .oneToMany, .weak, base ++ [.foreignKey, .tableReference]⟩
  else if !sameName then none
  else if one.isForeignKey && two.isForeignKey then
    some ⟨some .manyToMany, .weak, base ++ [.foreignKey, .sharedForeignKey]⟩
  else some ⟨none, .none, base⟩

end SemanticLayer
