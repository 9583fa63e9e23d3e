import CodeAtlas.Proofs.Likeness
import Mathlib.Order.Bounds.Defs
import Mathlib.Order.MinMax

/-!
# The distance of two names is the least number of edits

An edit of a text puts in a character, takes one out, or writes another one in its place, anywhere in the text.
The distance of two texts is the length of a shortest sequence of edits that leads from the one to the other
(`editDistance_isLeast`).

This has two halves.  A sequence of that length is there (`edits_distance`): of the three shorter distances that a
distance is the least of, each leaves one edit at the front to be made.  And no sequence is shorter
(`distance_le_of_edits`): a single edit changes the distances to all texts by one at most
(`distance_le_of_edit`).  For an edit at the front this is seen from the recursion, and characters before the edit
do not change it (`distance_cons_le_of_le`).

The table has the distances of reversed texts, which have the same edits.
-/

namespace CodeAtlas.Similarity

/-! ## Edits -/

/-- One text is made of another one by a single edit. -/
inductive Edit : List Char → List Char → Prop where
  | insertion (front back : List Char) (c : Char) : Edit (front ++ back) (front ++ c :: back)
  | deletion (front back : List Char) (c : Char) : Edit (front ++ c :: back) (front ++ back)
  | substitution (front back : List Char) (c d : Char) : Edit (front ++ c :: back) (front ++ d :: back)

/-- One text is made of another one by so many edits, one after the other.  Nothing is said about where they are, so
that a sequence may undo what it has done; the least number is over all of them. -/
inductive Edits : Nat → List Char → List Char → Prop where
  | done (xs : List Char) : Edits 0 xs xs
  | next {n : Nat} {xs ys zs : List Char} (first : Edit xs ys) (others : Edits n ys zs) : Edits (n + 1) xs zs

/-- An edit can be made behind a further character. -/
theorem Edit.cons {xs ys : List Char} (c : Char) (edit : Edit xs ys) : Edit (c :: xs) (c :: ys) := by
  cases edit with
  | insertion front back d => exact .insertion (c :: front) back d
  | deletion front back d => exact .deletion (c :: front) back d
  | substitution front back d e => exact .substitution (c :: front) back d e

/-- An edit of a reversed text is one of the text. -/
theorem Edit.reverse {xs ys : List Char} (edit : Edit xs ys) : Edit xs.reverse ys.reverse := by
  cases edit with
  | insertion front back c =>
      simpa using insertion back.reverse front.reverse c
  | deletion front back c =>
      simpa using deletion back.reverse front.reverse c
  | substitution front back c d =>
      simpa using substitution back.reverse front.reverse c d

/-- Both hold for sequences as well: behind a further character, -/
theorem Edits.cons {n : Nat} {xs ys : List Char} (c : Char) (edits : Edits n xs ys) :
    Edits n (c :: xs) (c :: ys) := by
  induction edits with
  | done xs => exact .done _
  | next first _ ih => exact .next (first.cons c) ih

/-- and in reversed texts. -/
theorem Edits.reverse {n : Nat} {xs ys : List Char} (edits : Edits n xs ys) :
    Edits n xs.reverse ys.reverse := by
  induction edits with
  | done xs => exact .done _
  | next first _ ih => exact .next first.reverse ih

/-! ## As many edits as the distance says are enough -/

/-- A text is made of nothing by putting in its characters. -/
theorem edits_insert_all (ys : List Char) : Edits ys.length [] ys := by
  induction ys with
  | nil => exact .done []
  | cons y ys ih => exact .next (.insertion [] [] y) (ih.cons y)

/-- Nothing is left of it after taking them out. -/
theorem edits_delete_all (xs : List Char) : Edits xs.length xs [] := by
  induction xs with
  | nil => exact .done []
  | cons x xs ih => exact .next (.deletion [] xs x) ih

/-- **There is a sequence of edits as long as the distance.**  By the recursion of the distance: whichever of the
three shorter distances is the least, the edit at the front goes with it, and equal characters at the front need none.
-/
theorem edits_distance (xs ys : List Char) : Edits (distance xs ys) xs ys := by
  induction xs, ys using distance.induct with
  | case1 ys =>
      rw [distance_nil_left]
      exact edits_insert_all ys
  | case2 x xs =>
      rw [distance_nil_right]
      exact edits_delete_all (x :: xs)
  | case3 x xs y ys inserted deleted substituted =>
      have insertion : Edits (distance (x :: xs) ys + 1) (x :: xs) (y :: ys) :=
        .next (.insertion [] (x :: xs) y) (inserted.cons y)
      have deletion : Edits (distance xs (y :: ys) + 1) (x :: xs) (y :: ys) :=
        .next (.deletion [] xs x) deleted
      have substitution : Edits (distance xs ys + if x = y then 0 else 1) (x :: xs) (y :: ys) := by
        split
        next same =>
          rw [same]
          exact substituted.cons y
        next => exact .next (.substitution [] xs x y) (substituted.cons y)
      rw [distance_cons_cons]
      exact min_rec' (Edits · _ _) (min_rec' (Edits · _ _) insertion deletion) substitution

/-! ## Fewer edits are not -/

/-- Nothing has to be done to leave a text as it is. -/
theorem distance_self (xs : List Char) : distance xs xs = 0 := by
  induction xs with
  | nil => exact distance_nil_left []
  | cons x xs ih =>
      rw [distance_cons_cons, ih, if_pos rfl]
      exact Nat.min_zero _

/-- One character more at the front of a text takes it farther from another one by one at most. -/
theorem distance_cons_le (c : Char) (xs zs : List Char) : distance (c :: xs) zs ≤ distance xs zs + 1 := by
  cases zs with
  | nil => rw [distance_nil_right, distance_nil_right, List.length_cons]
  | cons z zs =>
      rw [distance_cons_cons]
      omega

/-- It does not bring it nearer by more than one either, -/
theorem distance_le_cons (c : Char) (xs zs : List Char) : distance xs zs ≤ distance (c :: xs) zs + 1 := by
  induction zs with
  | nil =>
      rw [distance_nil_right, distance_nil_right, List.length_cons]
      omega
  | cons z zs ih =>
      have longer : distance xs (z :: zs) ≤ distance xs zs + 1 := by
        rw [distance_comm, distance_comm xs]
        exact distance_cons_le z zs xs
      rw [distance_cons_cons]
      omega

/-- and another character in its place changes the distance by one at most. -/
theorem distance_cons_le_cons (c d : Char) (xs zs : List Char) :
    distance (c :: xs) zs ≤ distance (d :: xs) zs + 1 := by
  induction zs with
  | nil =>
      rw [distance_nil_right, distance_nil_right, List.length_cons, List.length_cons]
      omega
  | cons z zs ih =>
      have replaced : (if c = z then 0 else 1) ≤ 1 := by split <;> omega
      rw [distance_cons_cons, distance_cons_cons d]
      omega

/-- **What stands before an edit is of no matter** to how far the edit can take a text from others. -/
theorem distance_cons_le_of_le (c : Char) {xs ys : List Char}
    (near : ∀ zs, distance xs zs ≤ distance ys zs + 1) (zs : List Char) :
    distance (c :: xs) zs ≤ distance (c :: ys) zs + 1 := by
  induction zs with
  | nil =>
      have := near []
      rw [distance_nil_right, distance_nil_right] at this ⊢
      exact Nat.succ_le_succ this
  | cons z zs ih =>
      have here := near zs
      have below := near (z :: zs)
      rw [distance_cons_cons, distance_cons_cons]
      omega

/-- The same for any number of characters, by induction over them. -/
theorem distance_append_le_of_le (front : List Char) {xs ys : List Char}
    (near : ∀ zs, distance xs zs ≤ distance ys zs + 1) (zs : List Char) :
    distance (front ++ xs) zs ≤ distance (front ++ ys) zs + 1 := by
  induction front generalizing zs with
  | nil => exact near zs
  | cons c front ih => exact distance_cons_le_of_le c ih zs

/-- **An edit changes a distance by one at most.**  At the front of a text this is in the three lemmas above, one for
each kind of edit, and what stands before the edit does not matter. -/
theorem distance_le_of_edit {xs ys : List Char} (edit : Edit xs ys) (zs : List Char) :
    distance xs zs ≤ distance ys zs + 1 := by
  cases edit with
  | insertion front back c => exact distance_append_le_of_le front (distance_le_cons c back) zs
  | deletion front back c => exact distance_append_le_of_le front (distance_cons_le c back) zs
  | substitution front back c d => exact distance_append_le_of_le front (distance_cons_le_cons c d back) zs

/-- No sequence of edits is shorter than the distance: each edit brings the text nearer to the end by one at most, and
there the distance is zero. -/
theorem distance_le_of_edits {n : Nat} {xs ys : List Char} (edits : Edits n xs ys) : distance xs ys ≤ n := by
  induction edits with
  | done xs => rw [distance_self]
  | next first _ ih => exact Nat.le_trans (distance_le_of_edit first _) (Nat.succ_le_succ ih)

/-! ## The distance of two texts -/

/-- **The distance of two texts is the least number of edits** that turn the one into the other.  The program keeps
one row of the table, with the longer text down the side; that neither matters for the distance is in
`editDistance_eq_distance`. -/
theorem editDistance_isLeast (a b : String) : IsLeast {n | Edits n a.toList b.toList} (editDistance a b) := by
  rw [editDistance_eq_distance]
  constructor
  · have edits := (edits_distance a.toList.reverse b.toList.reverse).reverse
    rwa [List.reverse_reverse, List.reverse_reverse] at edits
  · intro n edits
    exact distance_le_of_edits edits.reverse

example : editDistance "kitten" "sitting" = 3 := by decide

end CodeAtlas.Similarity
