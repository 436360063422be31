import SemanticLayer.Decimal.Rounding

/-!
Lengths of time. The rules of waiting need no more of them than this, so the rules hold for every
measure of time, exact or rounded.
-/

namespace SemanticLayer

class Duration (δ : Type) where
  zero : δ
  add : δ → δ → δ
  double : δ → δ
  /-- Half as much again. -/
  halfMore : δ → δ
  exceeds : δ → δ → Bool
  /-- More rounds than fit into a span, if none of them is shorter than a step. -/
  rounds (span step : δ) : Nat

namespace Duration

/-- The first of two lengths, unless it exceeds the second. -/
def least [Duration δ] (one two : δ) : δ :=
  if exceeds one two then two else one

end Duration

/-- Sums are rounded and may come to a standstill, so no small number of rounds is enough. -/
instance : Duration Float where
  zero := 0.0
  add one two := one + two
  double x := x * 2.0
  halfMore x := x * 1.5
  exceeds one two := two < one
  rounds _ _ := Decimal.twoTo 62

instance : Duration Rat where
  zero := 0
  add one two := one + two
  double x := x * 2
  halfMore x := x * (3 / 2)
  exceeds one two := two < one
  rounds span step := (span / step).floor.toNat + 1

end SemanticLayer
