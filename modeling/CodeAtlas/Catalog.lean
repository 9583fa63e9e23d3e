/-!
# Catalogs

A catalog holds items in the order in which they came, each under its own key, no two under one key.
Nodes and edges of a graph are kept in catalogs.

* `Catalog.insertNew` adds an item unless its key is taken.
* `Catalog.insert` adds an item, or puts it in the place of the one with its key.
* `Catalog.find?` and `Catalog.contains` look a key up.
-/

namespace CodeAtlas

/-- Items in order, no two with one key. -/
structure Catalog (α : Type) (key : α → String) where
  toList : List α
  nodup : (toList.map key).Nodup

namespace Catalog

variable {α : Type} {key : α → String}

/-- The catalog without items. -/
def empty : Catalog α key := ⟨[], List.nodup_nil⟩

/-- Whether a key is taken. -/
def contains (c : Catalog α key) (k : String) : Bool := c.toList.any fun a => key a == k

/-- The item under a key. -/
def find? (c : Catalog α key) (k : String) : Option α := c.toList.find? fun a => key a == k

/-- The number of items. -/
def size (c : Catalog α key) : Nat := c.toList.length

theorem contains_eq_true_iff {c : Catalog α key} {k : String} :
    c.contains k = true ↔ k ∈ c.toList.map key := by
  simp [contains]

/-- Adds an item unless its key is taken. -/
def insertNew (c : Catalog α key) (a : α) : Catalog α key :=
  if h : c.contains (key a) = true then c
  else
    { toList := c.toList ++ [a]
      nodup := by
        rw [contains_eq_true_iff] at h
        rw [List.map_append, List.nodup_append]
        refine ⟨c.nodup, by simp, ?_⟩
        intro x hx y hy hxy
        simp only [List.map_cons, List.map_nil, List.mem_singleton] at hy
        exact h (hy ▸ hxy ▸ hx) }

theorem toList_insertNew (c : Catalog α key) (a : α) :
    (c.insertNew a).toList = if c.contains (key a) then c.toList else c.toList ++ [a] := by
  unfold insertNew
  split <;> simp_all

theorem mem_insertNew {c : Catalog α key} {a b : α} :
    b ∈ (c.insertNew a).toList ↔ b ∈ c.toList ∨ b = a ∧ c.contains (key a) = false := by
  rw [toList_insertNew]
  split <;> simp_all

theorem contains_insertNew {c : Catalog α key} {a : α} {k : String} :
    (c.insertNew a).contains k = true ↔ c.contains k = true ∨ key a = k := by
  simp only [contains_eq_true_iff, List.mem_map, mem_insertNew]
  constructor
  · rintro ⟨b, old | ⟨rfl, -⟩, rfl⟩
    · exact Or.inl ⟨b, old, rfl⟩
    · exact Or.inr rfl
  · rintro (⟨b, old, rfl⟩ | rfl)
    · exact ⟨b, Or.inl old, rfl⟩
    · by_cases taken : c.contains (key a) = true
      · obtain ⟨b, hb, eq⟩ := List.mem_map.mp (contains_eq_true_iff.mp taken)
        exact ⟨b, Or.inl hb, eq⟩
      · exact ⟨a, Or.inr ⟨rfl, by simpa using taken⟩, rfl⟩

theorem eq_of_key_eq {c : Catalog α key} {a b : α} (ha : a ∈ c.toList) (hb : b ∈ c.toList)
    (h : key a = key b) : a = b := by
  obtain ⟨items, nodup⟩ := c
  induction items with
  | nil => cases ha
  | cons x rest ih =>
      rw [List.map_cons, List.nodup_cons] at nodup
      rcases List.mem_cons.mp ha with rfl | ha' <;> rcases List.mem_cons.mp hb with rfl | hb'
      · rfl
      · exact absurd (h ▸ List.mem_map_of_mem hb') nodup.1
      · exact absurd (h ▸ List.mem_map_of_mem ha') nodup.1
      · exact ih nodup.2 ha' hb'

theorem find?_eq_some_iff {c : Catalog α key} {k : String} {a : α} :
    c.find? k = some a ↔ a ∈ c.toList ∧ key a = k := by
  constructor
  · intro h
    exact ⟨List.mem_of_find?_eq_some h, by simpa using List.find?_some h⟩
  · rintro ⟨ha, rfl⟩
    cases found : c.find? (key a) with
    | none => simpa using List.find?_eq_none.mp found a ha
    | some b =>
        have eq : key b = key a := by simpa using List.find?_some found
        rw [eq_of_key_eq (List.mem_of_find?_eq_some found) ha eq]

/-- An item that is there stays where it is. -/
theorem find?_insertNew_of_eq_some {c : Catalog α key} {a b : α} {k : String}
    (found : c.find? k = some b) : (c.insertNew a).find? k = some b := by
  obtain ⟨mem, id⟩ := find?_eq_some_iff.mp found
  exact find?_eq_some_iff.mpr ⟨mem_insertNew.mpr (Or.inl mem), id⟩

/-- A new item is found under its key. -/
theorem find?_insertNew_self {c : Catalog α key} {a : α} (new : c.contains (key a) = false) :
    (c.insertNew a).find? (key a) = some a :=
  find?_eq_some_iff.mpr ⟨mem_insertNew.mpr (Or.inr ⟨rfl, new⟩), rfl⟩

/-- Adds an item, or puts it in the place of the one with its key. -/
def insert (c : Catalog α key) (a : α) : Catalog α key :=
  if c.contains (key a) then
    { toList := c.toList.map fun b => if key b = key a then a else b
      nodup := by
        have h : (c.toList.map fun b => if key b = key a then a else b).map key
            = c.toList.map key := by
          rw [List.map_map]
          refine List.map_congr_left fun b _ => ?_
          simp only [Function.comp_apply]
          split
          · next h => exact h.symm
          · rfl
        rw [h]
        exact c.nodup }
  else c.insertNew a

/-- The catalog of a list; of several items with one key the last one wins, at the first one's
place. -/
def ofList (items : List α) : Catalog α key := items.foldl insert empty

theorem ext_toList {c d : Catalog α key} (h : c.toList = d.toList) : c = d := by
  cases c
  cases d
  cases h
  rfl

/-- Items under new keys come behind those that are there. -/
theorem toList_foldl_insert (items : List α) :
    ∀ c : Catalog α key, ((c.toList ++ items).map key).Nodup →
      (items.foldl insert c).toList = c.toList ++ items := by
  induction items with
  | nil => simp
  | cons a rest ih =>
      intro c nodup
      have split : c.toList ++ a :: rest = c.toList ++ [a] ++ rest := by simp
      rw [split] at nodup ⊢
      have new : ¬ c.contains (key a) = true := by
        rw [contains_eq_true_iff]
        intro taken
        rw [List.map_append, List.map_append, List.nodup_append, List.nodup_append] at nodup
        exact nodup.1.2.2 _ taken _ (by simp) rfl
      have step : (c.insert a).toList = c.toList ++ [a] := by
        rw [insert, if_neg new, toList_insertNew, if_neg new]
      rw [List.foldl_cons, ih (c.insert a) (by rwa [step]), step]

/-- A catalog is the catalog of its items. -/
theorem ofList_toList (c : Catalog α key) : ofList c.toList = c := by
  refine ext_toList ?_
  exact toList_foldl_insert c.toList empty c.nodup

end Catalog

end CodeAtlas
