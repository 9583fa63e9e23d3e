import CodeAtlas.Build.Relations
import CodeAtlas.Proofs.Likeness
import Mathlib.Algebra.Order.Field.Basic
import Mathlib.Data.List.Perm.Subperm
import Mathlib.Tactic.Linarith

/-!
# Exact scores lie between zero and one

A score is a mean of three parts with weights that add up to one, and so it lies where its parts lie.  Two of the
parts are shares, of the members that two lists have in common among all of them; the third one is what a distance
leaves of the longer name, and no distance is greater than that (`editDistance_le_max`).  Where a share has no
members to be taken of, the part is given as zero or as one.

It follows that the weight of an edge between similar elements is the score itself: there is nothing to cut off
(`score_symm_and_bounded`).
-/

namespace CodeAtlas

namespace Scalar

/-- A part of a whole lies between zero and one, -/
theorem ratio_bounds {m n : Int} (nonneg : 0 ≤ m) (le : m ≤ n) :
    0 ≤ (ratio m n : Rat) ∧ (ratio m n : Rat) ≤ 1 := by
  have above : (0 : Rat) ≤ m := by exact_mod_cast nonneg
  have below : (m : Rat) ≤ n := by exact_mod_cast le
  exact ⟨div_nonneg above (above.trans below), div_le_one_of_le₀ below (above.trans below)⟩

/-- and so do zero and one. -/
theorem ofNat_bounds {n : Nat} (le : n ≤ 1) : 0 ≤ (ofNat n : Rat) ∧ (ofNat n : Rat) ≤ 1 := by
  have below : (n : Rat) ≤ 1 := by exact_mod_cast le
  exact ⟨Nat.cast_nonneg n, below⟩

/-- **A number between zero and one is the nearest one to itself.** -/
theorem clamp_eq_self {x : Rat} (bounds : 0 ≤ x ∧ x ≤ 1) : clamp x = x := by
  have low : lt x (ofNat 0) = false := decide_eq_false (not_lt.mpr bounds.1)
  have high : lt (ofNat 1) x = false := decide_eq_false (not_lt.mpr bounds.2)
  simp only [clamp, low, high, Bool.false_eq_true, if_false]

end Scalar

namespace Similarity

/-! ## The parts of a score -/

/-- No distance is greater than the length of the longer text: by the recursion of the distance, where each edit takes
a character from one of the texts at least. -/
theorem distance_le_max (xs ys : List Char) : distance xs ys ≤ max xs.length ys.length := by
  induction xs, ys using distance.induct with
  | case1 ys =>
      rw [distance_nil_left]
      exact Nat.le_max_right _ _
  | case2 x xs =>
      rw [distance_nil_right]
      exact Nat.le_max_left _ _
  | case3 x xs y ys _ _ both =>
      have replaced : (if x = y then 0 else 1) ≤ 1 := by split <;> omega
      rw [distance_cons_cons, List.length_cons, List.length_cons]
      omega

/-- No distance is greater than the length of the longer name. -/
theorem editDistance_le_max (a b : String) : editDistance a b ≤ max a.length b.length := by
  have reversed := distance_le_max a.toList.reverse b.toList.reverse
  rwa [List.length_reverse, List.length_reverse, String.length_toList, String.length_toList,
    ← editDistance_eq_distance] at reversed

variable {β : Type} [BEq β] [LawfulBEq β]

/-- What two lists have in common is part of what they have together. -/
theorem sharedCount_le_unionCount (xs ys : List β) : sharedCount xs ys ≤ unionCount xs ys := by
  refine List.Subperm.length_le (List.Nodup.subperm ((nodup_distinct xs).filter _) ?_)
  intro b shared
  exact mem_distinct.mpr (List.mem_append_left ys (mem_distinct.mp (List.mem_of_mem_filter shared)))

/-- So the share is one of the numbers in between, -/
theorem overlap?_bounds {xs ys : List β} {share : Rat} (h : overlap? xs ys = some share) :
    0 ≤ share ∧ share ≤ 1 := by
  rw [overlap?] at h
  split at h
  next => exact absurd h (Option.some_ne_none share).symm
  next =>
    obtain rfl := Option.some.inj h
    exact Scalar.ratio_bounds (Int.natCast_nonneg _) (Int.ofNat_le.mpr (sharedCount_le_unionCount xs ys))

/-- whatever of these numbers stands in for it where there is none. -/
theorem overlap?_getD_bounds (xs ys : List β) {otherwise : Rat} (bounds : 0 ≤ otherwise ∧ otherwise ≤ 1) :
    0 ≤ (overlap? xs ys).getD otherwise ∧ (overlap? xs ys).getD otherwise ≤ 1 := by
  cases h : (overlap? xs ys : Option Rat) with
  | none => exact bounds
  | some share => exact overlap?_bounds h

/-- Tags have such a share, -/
theorem tagSimilarity_bounds (xs ys : List β) :
    0 ≤ (tagSimilarity xs ys : Rat) ∧ (tagSimilarity xs ys : Rat) ≤ 1 :=
  overlap?_getD_bounds xs ys (Scalar.ofNat_bounds zero_le_one)

/-- and paths have. -/
theorem pathSimilarity_bounds (xs ys : List β) :
    0 ≤ (pathSimilarity xs ys : Rat) ∧ (pathSimilarity xs ys : Rat) ≤ 1 :=
  overlap?_getD_bounds xs ys (Scalar.ofNat_bounds le_rfl)

/-- What the distance of two names leaves of the longer one is part of it. -/
theorem nameSimilarity_bounds (a b : String) :
    0 ≤ (nameSimilarity a b : Rat) ∧ (nameSimilarity a b : Rat) ≤ 1 := by
  rw [nameSimilarity]
  split
  next => exact Scalar.ofNat_bounds le_rfl
  next =>
    have fits := editDistance_le_max a b
    exact Scalar.ratio_bounds (by omega) (by omega)

/-! ## Scores -/

/-- **A score lies between zero and one**, since the weights of its parts add up to one. -/
theorem Traits.similarity_bounds (a b : Traits) :
    0 ≤ (a.similarity b : Rat) ∧ (a.similarity b : Rat) ≤ 1 := by
  have mean : (a.similarity b : Rat) = 1 / 2 * tagSimilarity a.tags b.tags
      + 3 / 10 * pathSimilarity a.directory b.directory + 1 / 5 * nameSimilarity a.name b.name := rfl
  obtain ⟨_, _⟩ := tagSimilarity_bounds a.tags b.tags
  obtain ⟨_, _⟩ := pathSimilarity_bounds a.directory b.directory
  obtain ⟨_, _⟩ := nameSimilarity_bounds a.name b.name
  rw [mean]
  constructor <;> linarith

end Similarity

namespace BuildState

/-- The scores of a build do. -/
theorem score_bounds (around : Surroundings Rat) (s : BuildState Rat) (a b : Placed) :
    0 ≤ s.score around a b ∧ s.score around a b ≤ 1 :=
  Similarity.Traits.similarity_bounds _ _

/-- The weight of an edge between similar elements is their score, with nothing cut off. -/
theorem weight_similarEdge (around : Surroundings Rat) (s : BuildState Rat) (a b : Placed) (crossFile : Bool) :
    (similarEdge a b (s.score around a b) crossFile).weight = s.score around a b :=
  Scalar.clamp_eq_self (score_bounds around s a b)

/-- **Two elements have one exact score**, whichever stands first, and it lies between zero and one.  So it is the
weight of an edge between them. -/
theorem score_symm_and_bounded (around : Surroundings Rat) (s : BuildState Rat) (a b : Placed) :
    s.score around a b = s.score around b a ∧
      0 ≤ s.score around a b ∧ s.score around a b ≤ 1 ∧
      ∀ crossFile, (similarEdge a b (s.score around a b) crossFile).weight = s.score around a b := by
  obtain ⟨low, high⟩ := score_bounds around s a b
  exact ⟨Similarity.Traits.similarity_comm _ _, low, high, weight_similarEdge around s a b⟩

end BuildState

end CodeAtlas
