/-!
# Counting in first-seen order

Lists of names are reduced to their distinct members, and counted, in the order in which each member
was first seen.  What counts as the same member is a parameter.

## Main definitions

* `distinctBy`: the first of each group of equal members.
* `tally`: each distinct member with the number of times it occurs.
* `mostCommon`: the members that occur most often, the first seen first among equals.
-/

namespace CodeAtlas

variable {α : Type}

/-- Keeps the first of several members that are the same. -/
def distinctBy (same : α → α → Bool) : List α → List α
  | [] => []
  | a :: rest => a :: (distinctBy same rest).filter fun b => !same a b

/-- The distinct members of a list, in first-seen order. -/
def distinct [BEq α] (xs : List α) : List α := distinctBy (· == ·) xs

/-- Each distinct member with its number of occurrences. -/
def tally (same : α → α → Bool) (xs : List α) : List (α × Nat) :=
  (distinctBy same xs).map fun a => (a, xs.countP (same a))

/-- The at most `limit` members that occur most often, the most frequent first. -/
def mostCommon (same : α → α → Bool) (limit : Nat) (xs : List α) : List (α × Nat) :=
  ((tally same xs).mergeSort fun p q => q.2 ≤ p.2).take limit

@[simp] theorem distinctBy_nil (same : α → α → Bool) : distinctBy same [] = [] := rfl

theorem mem_of_mem_distinctBy {same : α → α → Bool} {xs : List α} {a : α}
    (h : a ∈ distinctBy same xs) : a ∈ xs := by
  induction xs with
  | nil => exact h
  | cons x xs ih =>
    rw [distinctBy, List.mem_cons] at h
    rcases h with rfl | h
    · exact List.mem_cons_self
    · exact List.mem_cons_of_mem _ (ih (List.mem_filter.mp h).1)

/-- One member more is kept if none in front of it is the same. -/
theorem distinctBy_concat (same : α → α → Bool) (xs : List α) (a : α) :
    distinctBy same (xs ++ [a])
      = distinctBy same xs ++ if xs.any (same · a) then [] else [a] := by
  induction xs with
  | nil => rfl
  | cons x xs ih =>
    rw [List.cons_append, distinctBy, ih, List.filter_append, distinctBy, List.cons_append,
      List.any_cons]
    by_cases rest : xs.any (same · a) = true
    · simp [rest]
    · by_cases eq : same x a = true <;> simp [rest, eq]

/-- What is kept of the front of a list is the front of what is kept. -/
theorem distinctBy_prefix (same : α → α → Bool) (xs more : List α) :
    distinctBy same xs <+: distinctBy same (xs ++ more) := by
  induction xs with
  | nil => exact List.nil_prefix
  | cons x xs ih =>
    rw [List.cons_append, distinctBy, distinctBy, List.prefix_cons_inj]
    exact ih.filter _

/-- A list of which no two members are the same is kept as it is. -/
theorem distinctBy_eq_self {same : α → α → Bool} {xs : List α}
    (apart : xs.Pairwise fun a b => same a b = false) : distinctBy same xs = xs := by
  induction xs with
  | nil => rfl
  | cons x xs ih =>
    obtain ⟨first, rest⟩ := List.pairwise_cons.mp apart
    rw [distinctBy, ih rest, List.filter_eq_self.mpr]
    intro b mem
    rw [first b mem]
    rfl

theorem mem_distinct [BEq α] [LawfulBEq α] {xs : List α} {a : α} : a ∈ distinct xs ↔ a ∈ xs := by
  constructor
  · exact mem_of_mem_distinctBy
  · intro h
    induction xs with
    | nil => exact h
    | cons x xs ih =>
      rw [distinct, distinctBy, List.mem_cons]
      by_cases eq : x = a
      · exact Or.inl eq.symm
      · refine Or.inr (List.mem_filter.mpr ⟨ih ?_, by simpa using eq⟩)
        exact (List.mem_cons.mp h).resolve_left fun eq' => eq eq'.symm

/-- No two distinct members are the same. -/
theorem pairwise_distinctBy (same : α → α → Bool) (xs : List α) :
    (distinctBy same xs).Pairwise fun a b => same a b = false := by
  induction xs with
  | nil => exact List.Pairwise.nil
  | cons x xs ih =>
    rw [distinctBy, List.pairwise_cons]
    refine ⟨?_, ih.filter _⟩
    intro b hb
    simpa using (List.mem_filter.mp hb).2

theorem nodup_distinct [BEq α] [LawfulBEq α] (xs : List α) : (distinct xs).Nodup := by
  refine (pairwise_distinctBy _ xs).imp ?_
  intro a b h
  simpa using h

/-- What is the same may be asked in other words. -/
theorem distinctBy_congr {same other : α → α → Bool} {xs : List α}
    (h : ∀ a ∈ xs, ∀ b ∈ xs, same a b = other a b) : distinctBy same xs = distinctBy other xs := by
  induction xs with
  | nil => rfl
  | cons x xs ih =>
    have rest := ih fun a ha b hb => h a (List.mem_cons_of_mem x ha) b (List.mem_cons_of_mem x hb)
    rw [distinctBy, distinctBy, rest]
    refine congrArg (x :: ·) (List.filter_congr fun b hb => ?_)
    rw [h x List.mem_cons_self b (List.mem_cons_of_mem x (mem_of_mem_distinctBy hb))]

theorem distinctBy_map {β : Type} (same : β → β → Bool) (f : α → β) (xs : List α) :
    distinctBy same (xs.map f) = (distinctBy (fun a b => same (f a) (f b)) xs).map f := by
  induction xs with
  | nil => rfl
  | cons x xs ih =>
    rw [List.map_cons, distinctBy, ih, List.filter_map, distinctBy, List.map_cons]
    rfl

end CodeAtlas
