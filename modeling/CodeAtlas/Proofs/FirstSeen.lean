import CodeAtlas.Tally
import Mathlib.Data.List.Basic

/-!
# What is seen first

A pair of members of a list, in order, is a sublist of length two.  Keeping the distinct members of a list keeps the
pairs whose first member is seen in some front of the list in which the second one is not (`SeenBefore`).

Members may also be put into classes by a key.  The first members of the classes, taken in the order of their keys, are
in the order of the list (`find?_distinct_sublist`).
-/

namespace CodeAtlas

variable {β γ : Type}

/-- In the order of a list, `a` is seen when `b` has not yet been seen. -/
def SeenBefore (xs : List β) (a b : β) : Prop := ∃ front, front <+: xs ∧ a ∈ front ∧ b ∉ front

/-- Every member is the same as one that is kept, where being the same is reflexive and transitive.  It is kept
itself, or was left out for one that is kept. -/
theorem exists_same_of_mem (same : β → β → Bool) {xs : List β} (self : ∀ a ∈ xs, same a a = true)
    (trans : ∀ {a b c}, same a b = true → same b c = true → same a c = true) {a : β} (mem : a ∈ xs) :
    ∃ b ∈ distinctBy same xs, same b a = true := by
  induction xs with
  | nil => cases mem
  | cons x xs ih =>
      rw [distinctBy]
      rcases List.mem_cons.mp mem with rfl | later
      · exact ⟨a, List.mem_cons_self, self a List.mem_cons_self⟩
      · obtain ⟨b, kept, ba⟩ := ih (fun c mem => self c (List.mem_cons_of_mem x mem)) later
        -- The member that is kept of the rest is left out if it is the same as the first one.
        by_cases first : same x b = true
        · exact ⟨x, List.mem_cons_self, trans first ba⟩
        · exact ⟨b, List.mem_cons_of_mem x (List.mem_filter.mpr ⟨kept, by simp [first]⟩), ba⟩

/-- What is kept stands in its order. -/
theorem distinctBy_sublist (same : β → β → Bool) (xs : List β) : (distinctBy same xs).Sublist xs := by
  induction xs with
  | nil => exact List.Sublist.refl _
  | cons x xs ih =>
      rw [distinctBy]
      exact (List.filter_sublist.trans ih).cons_cons x

/-- What is seen before stays so when more comes behind. -/
theorem SeenBefore.mono {xs ys : List β} {a b : β} (h : SeenBefore xs a b) (front : xs <+: ys) :
    SeenBefore ys a b := by
  obtain ⟨seen, isFront, mem, new⟩ := h
  exact ⟨seen, isFront.trans front, mem, new⟩

/-- A pair of a part of a list is a pair of the list whose members are in the part. -/
theorem pair_sublist_filter_iff {p : β → Bool} {xs : List β} {a b : β} :
    [a, b].Sublist (xs.filter p) ↔ [a, b].Sublist xs ∧ p a = true ∧ p b = true := by
  constructor
  · intro sub
    have kept := fun y (mem : y ∈ [a, b]) => (List.mem_filter.mp (sub.subset mem)).2
    exact ⟨sub.trans List.filter_sublist, kept a (by simp), kept b (by simp)⟩
  · rintro ⟨sub, ha, hb⟩
    have both : [a, b].filter p = [a, b] := by simp [ha, hb]
    exact both ▸ sub.filter p

/-- Behind a further member in front, the later one of a pair must be another one, and the earlier one may be this. -/
theorem seenBefore_cons {x a b : β} {xs : List β} :
    SeenBefore (x :: xs) a b ↔ b ≠ x ∧ (a = x ∨ SeenBefore xs a b) := by
  constructor
  · rintro ⟨front, isFront, mem, new⟩
    rcases List.prefix_cons_iff.mp isFront with rfl | ⟨rest, rfl, isRest⟩
    · cases mem
    · rw [List.mem_cons, not_or] at new
      refine ⟨new.1, (List.mem_cons.mp mem).imp_right fun later => ?_⟩
      exact ⟨rest, isRest, later, new.2⟩
  · rintro ⟨ne, rfl | ⟨front, isFront, mem, new⟩⟩
    · exact ⟨[a], by simp, by simp, by simpa using ne⟩
    · exact ⟨x :: front, by simpa using isFront, List.mem_cons_of_mem _ mem, by simp [ne, new]⟩

/-- **Of two distinct members the one that was seen first stands first.**  By induction over the list from the front,
where a member is kept and all that are the same as it are left out behind it. -/
theorem pair_sublist_distinct_iff [BEq β] [LawfulBEq β] {xs : List β} {a b : β} :
    [a, b].Sublist (distinct xs) ↔ SeenBefore xs a b ∧ b ∈ xs := by
  induction xs with
  | nil => simp [distinct]
  | cons x xs ih =>
      have here : distinct (x :: xs) = x :: (distinct xs).filter fun y => !x == y := rfl
      have mem_rest : b ∈ (distinct xs).filter (fun y => !x == y) ↔ b ∈ xs ∧ b ≠ x := by
        rw [List.mem_filter, mem_distinct, Bool.not_eq_true', beq_eq_false_iff_ne, ne_comm]
      rw [here, List.sublist_cons_iff, pair_sublist_filter_iff, ih, seenBefore_cons, List.mem_cons]
      simp only [Bool.not_eq_true', beq_eq_false_iff_ne]
      constructor
      · rintro (⟨⟨seen, mem⟩, -, ne⟩ | ⟨rest, eq, sub⟩)
        · exact ⟨⟨ne.symm, Or.inr seen⟩, Or.inr mem⟩
        · obtain ⟨rfl, rfl⟩ := List.cons.inj eq
          obtain ⟨mem, ne⟩ := mem_rest.mp (List.singleton_sublist.mp sub)
          exact ⟨⟨ne, Or.inl rfl⟩, Or.inr mem⟩
      · rintro ⟨⟨ne, seen⟩, mem⟩
        have later : b ∈ xs := mem.resolve_left ne
        by_cases first : a = x
        · exact Or.inr ⟨[b], by rw [first], List.singleton_sublist.mpr (mem_rest.mpr ⟨later, ne⟩)⟩
        · exact Or.inl ⟨⟨seen.resolve_left first, later⟩, Ne.symm first, ne.symm⟩

/-- **The first elements of the distinct classes stand in the order of the elements.**  The first element of the list
opens the first class, and the other classes are those of the elements behind it that are not of its class. -/
theorem find?_distinct_sublist [BEq γ] [LawfulBEq γ] (key? : β → Option γ) (xs : List β) :
    ((distinct (xs.filterMap key?)).filterMap fun k => xs.find? (key? · == some k)).Sublist xs := by
  induction xs with
  | nil => exact List.Sublist.refl _
  | cons x rest ih =>
      cases found : key? x with
      | none =>
          rw [List.filterMap_cons_none found]
          simp only [List.find?_cons, found]
          exact ih.cons x
      | some k =>
          -- The class of `x` comes first; the first elements of the others are found behind it.
          have later : ∀ k' ∈ (distinct (rest.filterMap key?)).filter (fun k' => !k == k'),
              (x :: rest).find? (key? · == some k') = rest.find? (key? · == some k') := by
            intro k' mem
            have ne : k ≠ k' := by simpa using (List.mem_filter.mp mem).2
            exact List.find?_cons_of_neg (by simpa [found] using ne)
          have first : (x :: rest).find? (key? · == some k) = some x :=
            List.find?_cons_of_pos (by simp [found])
          have split : distinct ((x :: rest).filterMap key?)
              = k :: (distinct (rest.filterMap key?)).filter fun k' => !k == k' := by
            rw [List.filterMap_cons_some found]
            rfl
          rw [split, List.filterMap_cons, first, List.filterMap_congr later]
          exact ((List.filter_sublist.filterMap _).trans ih).cons_cons x

/-- A pair of images is the image of a pair. -/
theorem pair_sublist_map_iff {f : β → γ} {xs : List β} {p q : γ} :
    [p, q].Sublist (xs.map f) ↔ ∃ a b, [a, b].Sublist xs ∧ f a = p ∧ f b = q := by
  rw [List.sublist_map_iff]
  constructor
  · rintro ⟨part, sub, eq⟩
    obtain ⟨a, rest, rfl, rfl, later⟩ := List.map_eq_cons_iff.mp eq.symm
    obtain ⟨b, rfl, rfl⟩ := List.map_eq_singleton_iff.mp later
    exact ⟨a, b, sub, rfl, rfl⟩
  · rintro ⟨a, b, sub, rfl, rfl⟩
    exact ⟨[a, b], sub, rfl⟩

end CodeAtlas
