import CodeAtlas.Numeral.Scalar
import Mathlib.Algebra.Order.Ring.Rat
import Mathlib.Data.Prod.Lex

/-!
# Scalars in order

A weight is compared with the least one that passes.  For a filter to let the more pass the lower it is, the two
comparisons of a type of scalars have to go together (`Scalar.Ordered`).

Exact numbers are ordered, and so are doubles.  A double that is a number has a place in a linear order, by its sign
and kind, then its exponent, then its mantissa (`Numeral.place`), and doubles are compared by their places.  One that
is no number has none, and compares with nothing.
-/

namespace CodeAtlas

/-- What is below a number is below all that are not below that number. -/
class Scalar.Ordered (α : Type) [Scalar α] : Prop where
  lt_of_lt_of_le {x y z : α} : Scalar.lt x y = true → Scalar.le y z = true → Scalar.lt x z = true

instance : Scalar.Ordered Rat where
  lt_of_lt_of_le below above :=
    decide_eq_true (lt_of_lt_of_le (of_decide_eq_true below) (of_decide_eq_true above))

namespace Numeral

open Float.Model (UnpackedFloat)

/-- The place of a double in order, if it is a number. -/
def place : UnpackedFloat → Option (Int ×ₗ Int ×ₗ Int)
  | .notANumber => none
  | .infinity .negative => some (toLex (-2, toLex (0, 0)))
  | .finite .negative mantissa exponent _ => some (toLex (-1, toLex (-exponent, -mantissa)))
  | .zero _ => some (toLex (0, toLex (0, 0)))
  | .finite .positive mantissa exponent _ => some (toLex (1, toLex (exponent, mantissa)))
  | .infinity .positive => some (toLex (2, toLex (0, 0)))

/-- Pairs are compared by their first members, and then by the second ones. -/
theorem compare_toLex {β γ : Type} [LinearOrder β] [LinearOrder γ] (a b : β) (x y : γ) :
    compare (toLex (a, x)) (toLex (b, y)) = (compare a b).then (compare x y) := by
  simp [Prod.Lex.compare_def, compareLex, compareOn]

/-- Natural numbers are compared alike as integers, -/
theorem compare_natCast (m n : Nat) : compare (m : Int) n = compare m n := by
  have mono : StrictMono fun m : Nat => (m : Int) := fun m n lt => Int.ofNat_lt.mpr lt
  rw [← cmp_eq_compare, ← cmp_eq_compare]
  exact mono.cmp_map_eq m n

/-- and the other way round below zero. -/
theorem compare_neg (a b : Int) : compare (-a) (-b) = (compare a b).swap := by
  have anti : StrictAnti fun a : Int => -a := fun a b lt => Int.neg_lt_neg lt
  rw [Int.compare_swap, ← cmp_eq_compare, ← cmp_eq_compare]
  exact anti.cmp_map_eq a b

/-- **Doubles are compared by their places.**  The comparison of doubles goes by cases on their signs and kinds; each
of them is one in which the places differ in the first member, or agree in it. -/
theorem compare_eq (a b : UnpackedFloat) :
    a.compare b = (place a).bind fun x => (place b).map (compare x) := by
  rcases a with ⟨_ | _⟩ | _ | _ | ⟨_ | _, m, e⟩ <;> rcases b with ⟨_ | _⟩ | _ | _ | ⟨_ | _, n, f⟩
  all_goals dsimp only [UnpackedFloat.compare, place, Option.bind_some, Option.map_some]
  -- Two finite numbers of one sign are the only ones that sign and kind do not tell apart.
  case finite.negative.finite.negative =>
    simp [compare_toLex, compare_neg, compare_natCast, Ordering.swap_then]
  case finite.positive.finite.positive =>
    simp [compare_toLex, compare_natCast]
  all_goals simp [compare_toLex] <;> rfl

/-- One double is less than another where both have places, and its own comes first, -/
theorem lt_iff {a b : UnpackedFloat} :
    a.lt b = true ↔ ∃ x y, place a = some x ∧ place b = some y ∧ x < y := by
  rw [UnpackedFloat.lt, compare_eq]
  cases place a with
  | none => simp
  | some x => cases place b <;> simp [compare_lt_iff_lt]

/-- and at most as great where it does not come later. -/
theorem le_iff {a b : UnpackedFloat} :
    a.le b = true ↔ ∃ x y, place a = some x ∧ place b = some y ∧ x ≤ y := by
  rw [UnpackedFloat.le, compare_eq]
  cases place a with
  | none => simp
  | some x => cases place b <;> simp [Ordering.isLE_iff_ne_gt, compare_le_iff_le]

end Numeral

instance : Scalar.Ordered Float where
  lt_of_lt_of_le {a b c} below above := by
    have first : a.toModel.unpack.lt b.toModel.unpack = true :=
      of_decide_eq_true (of_decide_eq_true below)
    have second : b.toModel.unpack.le c.toModel.unpack = true :=
      of_decide_eq_true (of_decide_eq_true above)
    obtain ⟨x, y, left, middle, lt⟩ := Numeral.lt_iff.mp first
    obtain ⟨y', z, middle', right, le⟩ := Numeral.le_iff.mp second
    obtain rfl : y = y' := Option.some.inj (middle.symm.trans middle')
    have whole : a.toModel.unpack.lt c.toModel.unpack = true :=
      Numeral.lt_iff.mpr ⟨x, z, left, right, lt.trans_le le⟩
    exact decide_eq_true (decide_eq_true whole)

end CodeAtlas
