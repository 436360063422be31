import SemanticLayer.Catalog.Cardinality
import SemanticLayer.Catalog.Table
import SemanticLayer.Decimal.Exact

/-!
Profiles of columns: how many rows there are, how many have a value, how many values there are, and
how many of these two columns have in common.
-/

namespace SemanticLayer

structure ColumnProfile where
  rows : Nat
  filled : Nat
  distinct : Nat
  deriving Repr, DecidableEq

/-- Whether no value occurs twice, and one occurs. -/
def ColumnProfile.isUnique (profile : ColumnProfile) : Bool :=
  0 < profile.filled && profile.filled == profile.distinct

/-- The values of two columns, and those that both have. -/
structure OverlapProfile where
  left : Nat
  right : Nat
  shared : Nat
  deriving Repr, DecidableEq

namespace OverlapProfile

/-- The same columns in the other order. -/
def reverse (overlap : OverlapProfile) : OverlapProfile :=
  ⟨overlap.right, overlap.left, overlap.shared⟩

theorem reverse_reverse (overlap : OverlapProfile) : overlap.reverse.reverse = overlap := rfl

/-- The part that one number is of another, zero where there is nothing. -/
def share (part whole : Nat) : Float :=
  if whole = 0 then 0 else Decimal.ratio part whole

/-- The share of the left values that the right column has. -/
def leftCoverage (overlap : OverlapProfile) : Float :=
  share overlap.shared overlap.left

/-- The share of the right values that the left column has. -/
def rightCoverage (overlap : OverlapProfile) : Float :=
  share overlap.shared overlap.right

/-- The coverage that counts: the one on the side of many rows, where every value should find a
match; of two equal sides the smaller one, and where nothing is known the greater one. -/
def coverage (overlap : OverlapProfile) (cardinality : Option Cardinality) : Float :=
  let left := overlap.leftCoverage
  let right := overlap.rightCoverage
  let leftLess := Decimal.orderKey left < Decimal.orderKey right
  match cardinality with
  | some .manyToOne => left
  | some .oneToMany => right
  | some .oneToOne => if leftLess then left else right
  | _ => if leftLess then right else left

end OverlapProfile

/-- The cardinality of a relationship between columns of which it is known whether their values are
unique. -/
def Cardinality.ofUnique : Bool → Bool → Cardinality
  | true, true => .oneToOne
  | true, false => .oneToMany
  | false, true => .manyToOne
  | false, false => .manyToMany

/-- Why a profile cannot be had. -/
inductive ProfileFault where
  /-- The data have no such table or column. -/
  | absent
  /-- A name would be read as a parameter that has no value. -/
  | unbound
  deriving Repr, DecidableEq

/-- A source of profiles. -/
structure Profiler where
  column : Table → String → Except ProfileFault ColumnProfile
  overlap : Table → String → Table → String → Except ProfileFault OverlapProfile

end SemanticLayer
