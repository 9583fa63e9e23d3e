import Mathlib.Algebra.GroupWithZero.Nat
import Mathlib.Algebra.Order.BigOperators.Group.List
import Mathlib.Algebra.Order.Group.Nat
import Mathlib.Data.List.Pairwise

/-!
# Counting twice

What is counted for each of some parts is counted for all of them together.  The pairs of a part and a member of it
are counted by the parts or by the members (`sum_countP_comm`), so that it is enough to know in how many parts a
member is: in one each where the parts make up everything, and in one at most where they have nothing in common
(`sum_countP_le_length`).
-/

namespace CodeAtlas

/-- Pairs are counted by their first members or by their second ones. -/
theorem sum_countP_comm {β γ : Type} (p : β → γ → Bool) (xs : List β) (ys : List γ) :
    (xs.map fun x => ys.countP (p x)).sum = (ys.map fun y => xs.countP fun x => p x y).sum := by
  induction xs with
  | nil => simp
  | cons x xs ih =>
      rw [List.map_cons, List.sum_cons, ih]
      clear ih
      induction ys with
      | nil => rfl
      | cons y ys ih =>
          simp only [List.map_cons, List.sum_cons, List.countP_cons] at ih ⊢
          omega

/-- Where every member is in one part, the parts have as many members as there are. -/
theorem sum_countP_eq_length {β γ : Type} {p : β → γ → Bool} {xs : List β} {ys : List γ}
    (one : ∀ y ∈ ys, xs.countP (fun x => p x y) = 1) : (xs.map fun x => ys.countP (p x)).sum = ys.length := by
  rw [sum_countP_comm, List.map_congr_left one]
  simp

/-- Of lists without a common member one holds an id at most. -/
theorem countP_contains_le_one {lists : List (List String)} (disjoint : lists.Pairwise List.Disjoint)
    (x : String) : lists.countP (·.contains x) ≤ 1 := by
  induction lists with
  | nil => exact Nat.zero_le _
  | cons ids rest ih =>
      obtain ⟨apart, disjoint⟩ := List.pairwise_cons.mp disjoint
      by_cases here : x ∈ ids
      · -- What the first list holds is in none of the others.
        have none : rest.countP (·.contains x) = 0 := by
          rw [List.countP_eq_zero]
          intro ids' mem there
          exact apart ids' mem here (by simpa using there)
        rw [List.countP_cons, none]
        split <;> omega
      · rw [List.countP_cons_of_neg (by simpa using here)]
        exact ih disjoint

/-- **Lists without a common member hold no id of a list twice.** -/
theorem sum_countP_le_length {lists : List (List String)} (disjoint : lists.Pairwise List.Disjoint)
    (xs : List String) : (lists.map fun ids => xs.countP ids.contains).sum ≤ xs.length := by
  rw [sum_countP_comm]
  have bound := List.sum_le_card_nsmul (xs.map fun x => lists.countP (·.contains x)) 1
    (by simpa using fun x _ => countP_contains_le_one disjoint x)
  simpa using bound

end CodeAtlas
