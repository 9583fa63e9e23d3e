import CodeAtlas.Graph.Edge

/-!
# Ids run together

Ids are texts that are put together from other texts, with a separator in between.  They can be taken apart
again where it is known which occurrence of the separator is the one: the first arrow when there is none in
front (`cut_arrow`), the last mark when there is none behind (`cut_last`), or the mark that has a given number
of marks in front of it (`cut_count`).

The id of an edge ends in a colon and the word for its relation, which has no colon in it.  So edges of two
relations never share an id (`Edge.relation_eq_of_id_eq`), whatever their ends are.
-/

namespace CodeAtlas

/-- **Two texts with an arrow between them** can be taken for two others exactly when one of them reaches over
the arrow, so that what comes behind its end, an arrow and a rest, is shared out differently. -/
theorem append_arrow_eq_iff {a b x y : List Char} :
    a ++ '-' :: '>' :: x = b ++ '-' :: '>' :: y ↔
      (a = b ∧ x = y) ∨ (∃ w, b = a ++ '-' :: '>' :: w ∧ x = w ++ '-' :: '>' :: y) ∨
        ∃ w, a = b ++ '-' :: '>' :: w ∧ y = w ++ '-' :: '>' :: x := by
  -- What one text has more than the other one is nothing, or begins with an arrow.
  have reaches : ∀ {a b x y between : List Char}, b = a ++ between →
      '-' :: '>' :: x = between ++ '-' :: '>' :: y →
        (a = b ∧ x = y) ∨ ∃ w, b = a ++ '-' :: '>' :: w ∧ x = w ++ '-' :: '>' :: y := by
    intro a b x y between split rest
    match between with
    | [] => exact Or.inl (by simpa [split] using rest)
    | [c] => simp at rest
    | c :: d :: w =>
        simp only [List.cons_append, List.cons.injEq] at rest
        obtain ⟨rfl, rfl, rfl⟩ := rest
        exact Or.inr ⟨w, split, rfl⟩
  constructor
  · intro h
    rcases List.append_eq_append_iff.mp h with ⟨between, split, rest⟩ | ⟨between, split, rest⟩
    · exact (reaches split rest).imp_right Or.inl
    · rcases reaches split rest with ⟨rfl, rfl⟩ | further
      · exact Or.inl ⟨rfl, rfl⟩
      · exact Or.inr (Or.inr further)
  · rintro (⟨rfl, rfl⟩ | ⟨w, rfl, rfl⟩ | ⟨w, rfl, rfl⟩) <;> simp

/-- Two texts with an arrow between them are told apart at the first arrow. -/
theorem cut_arrow {a b x y : List Char} (ha : ¬ ['-', '>'] <:+: a) (hb : ¬ ['-', '>'] <:+: b)
    (h : a ++ '-' :: '>' :: x = b ++ '-' :: '>' :: y) : a = b ∧ x = y := by
  rcases append_arrow_eq_iff.mp h with same | ⟨w, eq, -⟩ | ⟨w, eq, -⟩
  · exact same
  · exact absurd ⟨a, w, by simp [eq]⟩ hb
  · exact absurd ⟨b, w, by simp [eq]⟩ ha

/-- Two texts are told apart at a mark that has equally many marks in front of it. -/
theorem cut_count {mark : Char} {a b x y : List Char} (marks : a.count mark = b.count mark)
    (h : a ++ mark :: x = b ++ mark :: y) : a = b ∧ x = y := by
  have half : ∀ {a b x y : List Char}, a.count mark = b.count mark → ∀ between, b = a ++ between →
      mark :: x = between ++ mark :: y → between = [] := by
    intro a b x y marks between split rest
    match between with
    | [] => rfl
    | c :: more =>
        obtain ⟨rfl, -⟩ := List.cons_eq_cons.mp rest
        simp [split] at marks
  rcases List.append_eq_append_iff.mp h with ⟨between, split, rest⟩ | ⟨between, split, rest⟩
  · obtain rfl := half marks between split rest
    simpa [split] using rest
  · obtain rfl := half marks.symm between split rest
    simpa [split, eq_comm] using rest

/-- Two texts are told apart at the last mark of a kind. -/
theorem cut_last {mark : Char} {a b x y : List Char} (hx : mark ∉ x) (hy : mark ∉ y)
    (h : a ++ mark :: x = b ++ mark :: y) : a = b ∧ x = y := by
  have marks := congrArg (List.count mark) h
  simp only [List.count_append, List.count_cons_self, List.count_eq_zero_of_not_mem hx,
    List.count_eq_zero_of_not_mem hy] at marks
  exact cut_count (Nat.succ.inj marks) h

/-- Relations are told apart by their words, -/
theorem Relation.text_inj {r r' : Relation} (h : r.text = r'.text) : r = r' := by
  revert h
  cases r <;> cases r' <;> decide

/-- none of which has a colon in it. -/
theorem Relation.colon_not_mem_text (r : Relation) : ':' ∉ r.text.toList := by
  cases r <;> decide

namespace Edge

variable {source target source' target' : String} {r r' : Relation}

/-- The id of an edge by its characters: the word for the relation stands behind the last colon. -/
theorem toList_idOf (source target : String) (r : Relation) : (idOf source target r).toList =
    (source.toList ++ '-' :: '>' :: target.toList) ++ ':' :: r.text.toList := by
  simp only [idOf, String.toList_append, List.append_assoc]
  rfl

/-- **The id of an edge tells its relation**, whatever its ends are, as the colon in front of the relation is the last
one. -/
theorem relation_eq_of_id_eq (h : idOf source target r = idOf source' target' r') : r = r' := by
  have texts := congrArg String.toList h
  rw [toList_idOf, toList_idOf] at texts
  have words := (cut_last r.colon_not_mem_text r'.colon_not_mem_text texts).2
  exact Relation.text_inj (String.toList_inj.mp words)

/-- Of two edges with other ends, the source of one reaches over the arrow of the other one, and what it has behind
this arrow is missing from its target. -/
def Overreach (source target source' target' : String) : Prop :=
  ∃ between, source' = source ++ "->" ++ between ∧ target = between ++ "->" ++ target'

/-- The same by characters. -/
theorem overreach_iff : Overreach source target source' target' ↔
    ∃ w, source'.toList = source.toList ++ '-' :: '>' :: w ∧
      target.toList = w ++ '-' :: '>' :: target'.toList := by
  constructor
  · rintro ⟨between, rfl, rfl⟩
    exact ⟨between.toList, by simp, by simp⟩
  · rintro ⟨w, longer, rest⟩
    exact ⟨String.ofList w, String.toList_inj.mp (by simp [longer]),
      String.toList_inj.mp (by simp [rest])⟩

/-- **When two edges share an id**: they have one relation, and the ends of one are those of the other, unless a
source reaches over an arrow. -/
theorem idOf_eq_iff : idOf source target r = idOf source' target' r' ↔ r = r' ∧
    (source = source' ∧ target = target' ∨ Overreach source target source' target' ∨
      Overreach source' target' source target) := by
  simp only [overreach_iff, ← @String.toList_inj source, ← @String.toList_inj target,
    ← append_arrow_eq_iff]
  constructor
  · intro h
    obtain rfl := relation_eq_of_id_eq h
    have texts := congrArg String.toList h
    rw [toList_idOf, toList_idOf] at texts
    exact ⟨rfl, List.append_cancel_right texts⟩
  · rintro ⟨rfl, ends⟩
    rw [← String.toList_inj, toList_idOf, toList_idOf, ends]

end Edge

end CodeAtlas
