/-!
Sets of code points, kept as the increasing sequence of places where membership changes. A code
point belongs to the set when an odd number of changes lie at or below it.
-/

namespace SemanticLayer.Text

/-- Searches between `low` and `high` for the number of indices whose value is at most `bound`. The
values have to increase with the index. -/
def rankBetween (value : Nat → Nat) (bound : Nat) : Nat → Nat → Nat → Nat
  | 0, low, _ => low
  | steps + 1, low, high =>
    if high ≤ low then low
    else
      let middle := (low + high) / 2
      if value middle ≤ bound then rankBetween value bound steps (middle + 1) high
      else rankBetween value bound steps low middle

/-- The number of indices below `size` whose value is at most `bound`. -/
def rankOf (value : Nat → Nat) (bound size : Nat) : Nat :=
  rankBetween value bound (size.log2 + 2) 0 size

/-- A set of code points. -/
structure Ranges where
  edges : Array Nat

/-- Whether a code point belongs to the set. -/
def Ranges.contains (set : Ranges) (code : Nat) : Bool :=
  rankOf (fun i => set.edges[i]?.getD code.succ) code set.edges.size % 2 == 1

/-- The empty set has no member. -/
theorem Ranges.contains_empty (code : Nat) : Ranges.contains ⟨#[]⟩ code = false := by
  simp [Ranges.contains, rankOf, rankBetween]

end SemanticLayer.Text
