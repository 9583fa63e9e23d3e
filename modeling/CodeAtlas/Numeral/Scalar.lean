/-!
# Scalars

Scores, weights and thresholds are written in some type of numbers.  A graph is built with doubles;
the exact rationals are the other instance, in which the laws of the scores hold without rounding.
Every definition that computes a score is written once, for any `Scalar`.

`lt` and `le` are both given, because a double may be no number at all, and then neither holds.
-/

namespace CodeAtlas

/-- The numbers that scores and weights are written in. -/
class Scalar (α : Type) extends Add α, Sub α, Mul α, Div α where
  ofInt : Int → α
  lt : α → α → Bool
  le : α → α → Bool

namespace Scalar

instance : Scalar Float where
  ofInt := Float.ofInt
  lt a b := a < b
  le a b := a ≤ b

instance : Scalar Rat where
  ofInt n := n
  lt a b := a < b
  le a b := a ≤ b

variable {α : Type} [Scalar α]

/-- A count as a number. -/
def ofNat (n : Nat) : α := ofInt n

/-- The quotient of two integers. -/
def ratio (m n : Int) : α := ofInt m / ofInt n

/-- The nearest number between zero and one. -/
def clamp (x : α) : α :=
  let low := if lt x (ofNat 0) then ofNat 0 else x
  if lt (ofNat 1) low then ofNat 1 else low

end Scalar

end CodeAtlas
