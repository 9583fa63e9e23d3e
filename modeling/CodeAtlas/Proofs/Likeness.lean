import CodeAtlas.Similarity
import Mathlib.Data.List.Nodup

/-!
# Likeness is mutual

Two elements are as like each other one way round as the other way round.  For their tags and places this is a
matter of sets.  For their names it is not to be seen from the table of distances, which is filled row by row, one
character of the longer name after the other, and of the first one where both are equally long.  So the entries of
the table are told first: the last row has the distances of the one text to the front parts of the other one
(`lastRow_eq_row`), where a distance is the least of three that are shorter by a character (`distance`), and it is of
no matter there which text is the first.
-/

namespace CodeAtlas.Similarity

/-! ## Distances of names -/

/-- The least number of single-character insertions, deletions and substitutions that turn one list of characters into
the other, from one end on.  It is what the table is compared with; that it is the least number indeed is another
matter. -/
def distance : List Char → List Char → Nat
  | [], ys => ys.length
  | x :: xs, [] => (x :: xs).length
  | x :: xs, y :: ys =>
    min (min (distance (x :: xs) ys + 1) (distance xs (y :: ys) + 1))
      (distance xs ys + if x = y then 0 else 1)
termination_by xs ys => xs.length + ys.length

/-- A text is put in character by character, -/
theorem distance_nil_left (ys : List Char) : distance [] ys = ys.length := by rw [distance]

/-- and taken out so, -/
theorem distance_nil_right (xs : List Char) : distance xs [] = xs.length := by
  cases xs <;> rw [distance]

/-- or something is done to one of the characters in front. -/
theorem distance_cons_cons (x y : Char) (xs ys : List Char) :
    distance (x :: xs) (y :: ys) =
      min (min (distance (x :: xs) ys + 1) (distance xs (y :: ys) + 1))
        (distance xs ys + if x = y then 0 else 1) := by
  rw [distance]

/-- **It is of no matter which text is the first**: by the recursion, where insertions and deletions change places. -/
theorem distance_comm (xs ys : List Char) : distance xs ys = distance ys xs := by
  induction xs, ys using distance.induct with
  | case1 ys => rw [distance_nil_left, distance_nil_right]
  | case2 x xs => rw [distance_nil_left, distance_nil_right]
  | case3 x xs y ys inserted deleted substituted =>
      rw [distance_cons_cons, distance_cons_cons, inserted, deleted, substituted,
        Nat.min_comm (distance ys (x :: xs) + 1)]
      simp only [eq_comm]

/-- The distances of one text to another one that is read to its end.  Of both, what has been read stands in
reverse. -/
def row (p : List Char) : List Char → List Char → List Nat
  | front, [] => [distance p front]
  | front, x :: xs => distance p front :: row p (x :: front) xs

/-- A row begins with the distance to the front that has been read. -/
theorem row_eq_cons (p front xs : List Char) :
    row p front xs = distance p front :: (row p front xs).tail := by
  cases xs <;> rfl

/-- **A row is made of the one above it.** -/
theorem rowTail_row (c : Char) (p front xs : List Char) :
    rowTail c (distance (c :: p) front) xs (row p front xs) = (row (c :: p) front xs).tail := by
  induction xs generalizing front with
  | nil => rfl
  | cons x xs ih =>
      rw [row, row, List.tail_cons, row_eq_cons p, rowTail, ← distance_cons_cons, ← row_eq_cons p, ih,
        ← row_eq_cons]

/-- So the rows of the program follow each other, each with one more character of the first text. -/
theorem nextRow_row (c : Char) (p xs : List Char) : nextRow xs (row p [] xs) c = row (c :: p) [] xs := by
  have first : (row p [] xs).headD 0 + 1 = distance (c :: p) [] := by
    rw [row_eq_cons, List.headD_cons, distance_nil_right, distance_nil_right, List.length_cons]
  rw [nextRow, first, rowTail_row, ← row_eq_cons]

/-- The first row has the lengths of the front parts. -/
theorem row_nil (front xs : List Char) : row [] front xs = List.range' front.length (xs.length + 1) := by
  induction xs generalizing front with
  | nil => simp [row, distance_nil_left]
  | cons x xs ih =>
      rw [row, ih, distance_nil_left, List.length_cons, List.length_cons]
      exact List.range'_succ.symm

/-- **The last row of the table** has the distances of the first text to the front parts of the second one.  By
induction over the first text, from whatever row its characters so far have led to. -/
theorem lastRow_eq_row (a b : List Char) : lastRow a b = row a.reverse [] b := by
  have run : ∀ p : List Char, a.foldl (nextRow b) (row p [] b) = row (a.reverse ++ p) [] b := by
    induction a with
    | nil => exact fun p => rfl
    | cons c a ih =>
        intro p
        rw [List.foldl_cons, nextRow_row, ih, List.reverse_cons, List.append_assoc]
        rfl
  have start : List.range (b.length + 1) = row [] [] b := by
    rw [row_nil, List.range_eq_range']
    rfl
  rw [lastRow, start, run, List.append_nil]

/-- The last entry of a row is the distance to all of the second text, -/
theorem getLast?_row (p front xs : List Char) :
    (row p front xs).getLast? = some (distance p (xs.reverse ++ front)) := by
  induction xs generalizing front with
  | nil => rfl
  | cons x xs ih =>
      have more : row p (x :: front) xs ≠ [] := by
        rw [row_eq_cons]
        exact List.cons_ne_nil _ _
      rw [row, List.getLast?_cons_of_ne_nil more, ih, List.reverse_cons, List.append_assoc]
      rfl

/-- and that of the last row the distance of both texts, read from their ends. -/
theorem getLast?_lastRow (a b : List Char) :
    (lastRow a b).getLast? = some (distance a.reverse b.reverse) := by
  rw [lastRow_eq_row, getLast?_row, List.append_nil]

/-- **What the program computes is the distance**, whichever of the two texts it takes for the rows. -/
theorem editDistance_eq_distance (a b : String) :
    editDistance a b = distance a.toList.reverse b.toList.reverse := by
  unfold editDistance
  -- the rows may run along either text, since a distance is the same both ways
  dsimp only
  split
  · rw [getLast?_lastRow, Option.getD_some, distance_comm]
  · rw [getLast?_lastRow, Option.getD_some]

/-- So the distance of two names is mutual. -/
theorem editDistance_comm (a b : String) : editDistance a b = editDistance b a := by
  rw [editDistance_eq_distance, editDistance_eq_distance, distance_comm]

/-! ## Shares of members -/

variable {α : Type} [Scalar α] {β : Type} [BEq β] [LawfulBEq β]

/-- Two lists have as many members in common one way round as the other, -/
theorem sharedCount_comm (xs ys : List β) : sharedCount xs ys = sharedCount ys xs := by
  refine List.Perm.length_eq ?_
  rw [List.perm_ext_iff_of_nodup ((nodup_distinct xs).filter _) ((nodup_distinct ys).filter _)]
  intro b
  simp only [List.mem_filter, mem_distinct, List.contains_iff_mem]
  exact and_comm

/-- and as many together, -/
theorem unionCount_comm (xs ys : List β) : unionCount xs ys = unionCount ys xs := by
  refine List.Perm.length_eq ?_
  rw [List.perm_ext_iff_of_nodup (nodup_distinct _) (nodup_distinct _)]
  intro b
  simp only [mem_distinct, List.mem_append]
  exact or_comm

/-- so that the share is the same, -/
theorem overlap?_comm (xs ys : List β) : (overlap? xs ys : Option α) = overlap? ys xs := by
  rw [overlap?, overlap?, sharedCount_comm, unionCount_comm]

/-- and so is the likeness of two names. -/
theorem nameSimilarity_comm (a b : String) : (nameSimilarity a b : α) = nameSimilarity b a := by
  simp only [nameSimilarity, editDistance_comm a b, Nat.max_comm a.length]

/-- **Two elements are alike to the same degree** whichever is asked for first. -/
theorem Traits.similarity_comm (a b : Traits) : (a.similarity b : α) = b.similarity a := by
  rw [similarity, similarity, tagSimilarity, tagSimilarity, pathSimilarity, pathSimilarity,
    overlap?_comm a.tags, overlap?_comm a.directory, nameSimilarity_comm]

end CodeAtlas.Similarity
