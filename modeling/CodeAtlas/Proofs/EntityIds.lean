import Mathlib
import CodeAtlas.Proofs.Ids
import CodeAtlas.Proofs.Outcome

/-!
# Which entities share a node

The id of an entity is made of its path in the workspace, the parser's word for its kind, its name and its
first line, with colons in between.  A line has no colon in it, so that it can be read off behind the last
one (`Builder.idOf_eq_iff`).  The three texts in front of it may have colons of their own.

So two entities share a node exactly when their lines are the same and their three texts are the same once
they are run together.  Where two of the texts have equally many colons in both entities, the colons in
between can be found again, and then all three are the same (`Entity.Aligned.label_eq_iff`).  Otherwise they need
not be: two entities of different kinds and names may share a node, and then one of them is dropped.
-/

namespace CodeAtlas

/-! ## Lines as texts -/

namespace Json

/-- A number is written with digits and perhaps a sign. -/
theorem mem_repr {n : Int} {c : Char} (mem : c ∈ n.repr.toList) : c.isDigit = true ∨ c = '-' := by
  have digits : ∀ {m : Nat}, c ∈ m.repr.toList → c.isDigit = true := by
    intro m mem
    rw [Nat.toList_repr] at mem
    exact Nat.isDigit_of_mem_toDigits (by decide) (by decide) mem
  rw [Int.repr_eq_if] at mem
  split at mem
  · exact Or.inl (digits mem)
  · rw [String.toList_append, List.mem_append] at mem
    rcases mem with sign | mem
    · exact Or.inr (by simpa using sign)
    · exact Or.inl (digits mem)

/-- The word for a truth value begins with a letter that no number has in it. -/
theorem display_bool_ne_int (b : Bool) (n : Int) : (bool b).display ≠ (int n).display := by
  intro eq
  have letter : ∃ c ∈ (bool b).display.toList, ¬ (c.isDigit = true ∨ c = '-') := by
    cases b
    · exact ⟨'F', by decide, by decide⟩
    · exact ⟨'T', by decide, by decide⟩
  obtain ⟨c, mem, other⟩ := letter
  rw [eq] at mem
  exact other (mem_repr mem)

/-- Whole numbers and truth values are told apart by their texts. -/
theorem display_inj {i j : Json} (hi : i.whole?.isSome = true) (hj : j.whole?.isSome = true)
    (h : i.display = j.display) : i = j := by
  cases i <;> cases j <;> simp only [whole?, Option.isSome_none, reduceCtorEq] at hi hj
  case bool.bool b c => cases b <;> cases c <;> first | rfl | simp [display, shown] at h
  case bool.int b n => exact absurd h (display_bool_ne_int b n)
  case int.bool n b => exact absurd h.symm (display_bool_ne_int b n)
  case int.int m n => exact congrArg int (Int.repr_inj.mp h)

/-- A line has no colon in it. -/
theorem colon_not_mem_display {j : Json} (whole : j.whole?.isSome = true) :
    ':' ∉ j.display.toList := by
  cases j <;> simp only [whole?, Option.isSome_none, reduceCtorEq] at whole
  case bool b => cases b <;> decide
  case int n => exact fun mem => absurd (mem_repr mem) (by decide)

end Json

/-! ## The parts of an id -/

namespace Entity

variable {workspace : Path} {c d : Entity}

/-- The path of an entity's file in a workspace. -/
def pathIn (workspace : Path) (e : Entity) : String :=
  ((workspace.absolute e.filePath).relativeTo workspace).text

/-- The three texts of an entity, run together. -/
def label (workspace : Path) (e : Entity) : String :=
  e.pathIn workspace ++ ":" ++ e.elementType ++ ":" ++ e.name

/-- Two entities that agree in all that their ids are made of. -/
structure Same (workspace : Path) (c d : Entity) : Prop where
  /-- They stand in one file, as far as its path in the workspace tells. -/
  path : c.pathIn workspace = d.pathIn workspace
  elementType : c.elementType = d.elementType
  name : c.name = d.name
  startLine : c.startLine = d.startLine

/-- Two texts with equally many colons. -/
def SameColons (s t : String) : Prop := s.toList.count ':' = t.toList.count ':'

/-- At least two of the three texts have equally many colons in both entities.  If the labels are the same, so have
the third texts then, as the colons of a label are counted together. -/
def Aligned (workspace : Path) (c d : Entity) : Prop :=
  SameColons (c.pathIn workspace) (d.pathIn workspace) ∧ SameColons c.elementType d.elementType ∨
    SameColons (c.pathIn workspace) (d.pathIn workspace) ∧ SameColons c.name d.name ∨
      SameColons c.elementType d.elementType ∧ SameColons c.name d.name

/-- The label of an entity by its characters. -/
theorem toList_label (workspace : Path) (e : Entity) : (e.label workspace).toList =
    (e.pathIn workspace).toList ++ ':' :: (e.elementType.toList ++ ':' :: e.name.toList) := by
  simp only [label, String.toList_append, List.append_assoc]
  rfl

/-- **Aligned texts can be told apart** once they are run together. -/
theorem Aligned.label_eq_iff (aligned : Aligned workspace c d) : c.label workspace = d.label workspace ↔
    c.pathIn workspace = d.pathIn workspace ∧ c.elementType = d.elementType ∧ c.name = d.name := by
  constructor
  · intro eq
    have texts := congrArg String.toList eq
    rw [toList_label, toList_label] at texts
    -- The whole has equally many colons, so that the third text has when the two others do.
    have total := congrArg (List.count ':') texts
    simp only [List.count_append, List.count_cons_self] at total
    have both : SameColons (c.pathIn workspace) (d.pathIn workspace) ∧
        SameColons c.elementType d.elementType := by
      unfold Aligned SameColons at aligned
      unfold SameColons
      omega
    obtain ⟨path, rest⟩ := cut_count both.1 texts
    obtain ⟨elementType, name⟩ := cut_count both.2 rest
    exact ⟨String.toList_inj.mp path, String.toList_inj.mp elementType, String.toList_inj.mp name⟩
  · rintro ⟨path, elementType, name⟩
    rw [label, label, path, elementType, name]

end Entity

namespace Builder

variable {α : Type} {b : Builder α} {workspace : Path} {c d : Entity}

/-- The id of an entity by its characters: the line stands behind the last colon. -/
theorem toList_idOf (workspace : Path) (e : Entity) : (idOf workspace e).toList =
    ("entity:".toList ++ (e.label workspace).toList) ++ ':' :: e.startLine.display.toList := by
  simp only [idOf, entityId, Entity.label, Entity.pathIn, String.toList_append, List.append_assoc]
  rfl

/-- An id tells the line and the three texts run together.  The line is cut off at the last colon, as it has none
itself, and lines of the two kinds are told apart by their texts. -/
theorem idOf_eq_iff (hc : c.startLine.whole?.isSome = true) (hd : d.startLine.whole?.isSome = true) :
    idOf workspace c = idOf workspace d ↔
      c.label workspace = d.label workspace ∧ c.startLine = d.startLine := by
  rw [← String.toList_inj, toList_idOf, toList_idOf]
  constructor
  · intro eq
    obtain ⟨front, line⟩ :=
      cut_last (Json.colon_not_mem_display hc) (Json.colon_not_mem_display hd) eq
    exact ⟨String.toList_inj.mp (List.append_cancel_left front),
      Json.display_inj hc hd (String.toList_inj.mp line)⟩
  · rintro ⟨label, line⟩
    rw [label, line]

/-- The line of a placed entity is a whole number or a truth value: entities with other lines are refused when a
record is read, and left out when they are given ready-made. -/
theorem line_of_mem_placedEntities {sources : List Source} {e : Entity}
    (mem : e ∈ placedEntities workspace sources) : e.startLine.whole?.isSome = true := by
  obtain ⟨source, -, placed⟩ := List.mem_filterMap.mp mem
  unfold Source.placed? at placed
  split at placed
  · next e? run =>
      obtain ⟨given, -, rfl⟩ := map_eq_ok_iff.mp run
      obtain ⟨entity, -, located⟩ := Option.bind_eq_some_iff.mp placed
      obtain ⟨valid, moved⟩ := Option.ite_none_right_eq_some.mp located
      obtain rfl := Option.some.inj moved
      simp only [Entity.isValid, Entity.Draft.isValid, Bool.and_eq_true] at valid
      exact valid.1.1.2
  · cases placed

section Whole

variable [Scalar α] {fs : FileSystem} {now : String} {input : BuildInput} {imports exports : FileMap}
  {s u : BuildState α} {g : Graph α}

/-- Every placed entity has a code element under its id. -/
theorem Built.exists_element (built : Built b fs now input imports exports s u g) {e : Entity}
    (mem : e ∈ placedEntities b.workspace input.sources) :
    ∃ n ∈ g.nodes, n.kind = .codeElement ∧ n.id = idOf b.workspace e := by
  have registered := built.grown.registered e mem
  rw [id_entityNode, Catalog.contains_eq_true_iff] at registered
  obtain ⟨n, hn, id⟩ := List.mem_map.mp registered
  have element : Origin fs (b.initialState imports exports) [] _ (entityNode _ e) := .element mem
  have kind : n.kind = .codeElement := (built.grown.origin n hn).kind_eq element id
  exact ⟨n, built.nodes_made ▸ hn, kind, id⟩

/-- **Which entities share a node.**  Every placed entity has a code element of its own id.  Two of them have
the same one exactly when their lines are the same and their three texts are the same once they are run
together; and if the texts are aligned, exactly when the entities agree in the path, the kind, the name and
the line. -/
theorem entities_share_node_iff (h : b.build fs now input = .ok g)
    (hc : c ∈ placedEntities b.workspace input.sources)
    (hd : d ∈ placedEntities b.workspace input.sources) :
    ∃ m ∈ g.nodes, ∃ n ∈ g.nodes,
      (m.kind = .codeElement ∧ m.id = idOf b.workspace c) ∧
        (n.kind = .codeElement ∧ n.id = idOf b.workspace d) ∧
        (m = n ↔ c.label b.workspace = d.label b.workspace ∧ c.startLine = d.startLine) ∧
        (c.Aligned b.workspace d → (m = n ↔ c.Same b.workspace d)) := by
  obtain ⟨_, _, s, u, built⟩ := build_eq_ok_iff.mp h
  obtain ⟨m, hm, elementC⟩ := built.exists_element hc
  obtain ⟨n, hn, elementD⟩ := built.exists_element hd
  have shared : m = n ↔ c.label b.workspace = d.label b.workspace ∧ c.startLine = d.startLine := by
    rw [← idOf_eq_iff (line_of_mem_placedEntities hc) (line_of_mem_placedEntities hd),
      ← elementC.2, ← elementD.2]
    rw [built.nodes] at hm hn
    exact ⟨congrArg Node.id, Catalog.eq_of_key_eq hm hn⟩
  refine ⟨m, hm, n, hn, elementC, elementD, shared, fun aligned => ?_⟩
  rw [shared, aligned.label_eq_iff]
  constructor
  · rintro ⟨⟨path, elementType, name⟩, startLine⟩
    exact ⟨path, elementType, name, startLine⟩
  · rintro ⟨path, elementType, name, startLine⟩
    exact ⟨⟨path, elementType, name⟩, startLine⟩

end Whole

/-- Two functions of one file, one of them with colons in its name. -/
def colonNames : List Json :=
  [sampleElement "a.ts" "function" "f", sampleElement "a.ts" "function" "g::f"]

/-- Names with colons in them do not clash as long as the other two texts are aligned. -/
theorem entities_share_node_iff_of_colon_names : ∃ g, sampleBuild Rat .connectivity colonNames = .ok g ∧
    ∃ m ∈ g.nodes, ∃ n ∈ g.nodes, m.kind = .codeElement ∧ n.kind = .codeElement ∧ m ≠ n := by
  have finishes : (sampleBuild Rat .connectivity colonNames).toOption.any (fun _ => true) = true := by
    decide +kernel
  obtain ⟨g, h, -⟩ := exists_ok_of_any_toOption finishes
  obtain ⟨m, hm, n, hn, ⟨elementC, -⟩, ⟨elementD, -⟩, -, apart⟩ :=
    entities_share_node_iff h (List.mem_cons_self) (List.mem_cons_of_mem _ List.mem_cons_self)
  refine ⟨g, h, m, hm, n, hn, elementC, elementD, fun same => ?_⟩
  exact absurd ((apart (Or.inl ⟨rfl, rfl⟩)).mp same).name (by decide)

/-- Two elements of one line whose texts are the same once they are run together. -/
def clashingElements : List Json :=
  [sampleElement "a.ts" "a:b" "c", sampleElement "a.ts" "a" "b:c"]

/-- A kind with a colon and a name with a colon can have the same id, and then the second one has no node. -/
theorem two_entities_share_a_node :
    (∃ c d, placedEntities (sample Rat .connectivity).workspace (clashingElements.map .record) = [c, d] ∧
      ¬ c.Same (sample Rat .connectivity).workspace d) ∧
    ∃ g, sampleBuild Rat .connectivity clashingElements = .ok g ∧
      (g.nodes.filter (·.kind == .codeElement)).length = 1 := by
  constructor
  · exact ⟨_, _, rfl, fun same => absurd same.name (by decide)⟩
  · have one : (sampleBuild Rat .connectivity clashingElements).toOption.any
        (fun g => (g.nodes.filter (·.kind == .codeElement)).length == 1) = true := by
      decide +kernel
    obtain ⟨g, h, count⟩ := exists_ok_of_any_toOption one
    exact ⟨g, h, by simpa using count⟩

end Builder

end CodeAtlas
