import CodeAtlas.Proofs.Communities
import CodeAtlas.Proofs.Counting
import CodeAtlas.Proofs.FirstSeen
import Mathlib.Data.List.Nodup
import Mathlib.Data.List.Pairwise

/-!
# Directories part the code elements

The communities of directories are told by the nodes alone: a code element stands in the directory of its path
(`Node.directory?`), and each directory with at least three of them is a community (`Community.PartedBy`).

Since no element stands in two directories, no end of an edge is in two communities.  An edge inside a community has
both of its ends there, and one that crosses its border has one.  So twice the edges inside and the edges across are
the ends that a community holds (`Community.two_mul_internal_add_external`), and all communities together hold no more
than the two ends of each edge (`sum_countP_le_length`).
-/

namespace CodeAtlas

/-- The directory that a code element stands in, if it has a path. -/
def Node.directory? (n : Node) : Option String :=
  if n.kind = .codeElement then
    n.relativePath.bind fun path => if path = "" then none else some (Path.directoryOf path)
  else none

namespace Community

variable {α : Type}

/-! ## The elements of a directory -/

/-- The code elements of a directory, in the order of the nodes. -/
def elementsIn (nodes : Nodes) (directory : String) : List Node :=
  nodes.toList.filter fun n => n.directory? == some directory

/-- The elements of a directory are the nodes that stand in it. -/
theorem mem_elementsIn {nodes : Nodes} {directory : String} {n : Node} :
    n ∈ elementsIn nodes directory ↔ n ∈ nodes.toList ∧ n.directory? = some directory := by
  simp [elementsIn]

/-- What the program places are the nodes with a directory, each with its own. -/
theorem placedElements_eq (nodes : Nodes) :
    placedElements nodes = nodes.toList.filterMap fun n => n.directory?.map (·, n) := by
  refine List.filterMap_congr fun n _ => ?_
  unfold Node.directory?
  cases n.kind <;> try rfl
  cases n.relativePath with
  | none => rfl
  | some path => by_cases empty : path = "" <;> simp [empty]

/-- The groups of the program are the directories in first-seen order, each with its elements. -/
theorem byDirectory_eq (nodes : Nodes) :
    byDirectory nodes = (distinct (nodes.toList.filterMap Node.directory?)).map fun directory =>
      (directory, elementsIn nodes directory) := by
  have directories : (placedElements nodes).map Prod.fst = nodes.toList.filterMap Node.directory? := by
    rw [placedElements_eq, List.map_filterMap]
    simp [Function.comp_def]
  have elements : ∀ directory, ((placedElements nodes).filter (·.1 == directory)).map Prod.snd
      = elementsIn nodes directory := by
    intro directory
    rw [placedElements_eq, List.filter_filterMap, List.map_filterMap, elementsIn,
      ← List.filterMap_eq_filter]
    refine List.filterMap_congr fun n _ => ?_
    cases found : n.directory? with
    | none => simp [Option.guard, found]
    | some here => by_cases same : here = directory <;> simp [Option.filter, Option.guard, found, same]
  simp only [byDirectory, directories, elements]

/-- The directories with at least three code elements, in first-seen order. -/
def crowded (nodes : Nodes) : List String :=
  (distinct (nodes.toList.filterMap Node.directory?)).filter fun directory =>
    2 < (elementsIn nodes directory).length

/-- Those of them that become communities are the crowded directories. -/
theorem filter_byDirectory (nodes : Nodes) :
    (byDirectory nodes).filter (fun g => 2 < g.2.length)
      = (crowded nodes).map fun directory => (directory, elementsIn nodes directory) := by
  rw [byDirectory_eq, List.filter_map]
  rfl

/-- A directory is crowded if it has three elements or more; that it has been seen at all follows. -/
theorem mem_crowded {nodes : Nodes} {directory : String} :
    directory ∈ crowded nodes ↔ 3 ≤ (elementsIn nodes directory).length := by
  rw [crowded, List.mem_filter, mem_distinct, decide_eq_true_iff]
  refine and_iff_right_of_imp fun many => ?_
  obtain ⟨n, mem⟩ := List.exists_mem_of_length_pos (Nat.zero_lt_of_lt many)
  obtain ⟨node, stands⟩ := mem_elementsIn.mp mem
  exact List.mem_filterMap.mpr ⟨n, node, stands⟩

/-- No directory is listed twice. -/
theorem nodup_crowded (nodes : Nodes) : (crowded nodes).Nodup := (nodup_distinct _).filter _

/-- No code element stands in two directories: its directory is read off its path, and nodes are told apart by their
ids. -/
theorem disjoint_elementsIn {nodes : Nodes} {d d' : String} (ne : d ≠ d') :
    ((elementsIn nodes d).map Node.id).Disjoint ((elementsIn nodes d').map Node.id) := by
  intro id mem mem'
  obtain ⟨n, element, rfl⟩ := List.mem_map.mp mem
  obtain ⟨n', element', same⟩ := List.mem_map.mp mem'
  obtain ⟨node, stands⟩ := mem_elementsIn.mp element
  obtain ⟨node', stands'⟩ := mem_elementsIn.mp element'
  obtain rfl := Catalog.eq_of_key_eq node' node same
  exact ne (Option.some.inj (stands.symm.trans stands'))

/-! ## The ends of edges -/

/-- Whether both ends of an edge are members of a community. -/
def encloses (c : Community α) (e : Edge α) : Bool :=
  c.members.contains e.source && c.members.contains e.target

/-- Whether one end of an edge is a member of a community. -/
def isCrossedBy (c : Community α) (e : Edge α) : Bool :=
  c.members.contains e.source != c.members.contains e.target

/-- **An edge inside a set of ids has two ends there**, and one that leaves it has one.  This is the law that the
counts of all communities are put together by; it holds of every set of ids. -/
theorem two_mul_internal_add_external (ids : List String) (edges : List (Edge α)) :
    2 * (edgeCounts ids edges).internal + (edgeCounts ids edges).external
      = (edges.flatMap fun e => [e.source, e.target]).countP ids.contains := by
  induction edges with
  | nil => rfl
  | cons e rest ih =>
      simp only [edgeCounts] at ih
      simp only [edgeCounts, List.countP_cons, List.flatMap_cons, List.countP_append, List.countP_nil]
      cases ids.contains e.source <;> cases ids.contains e.target <;>
        simp only [Bool.and_true, Bool.and_false, bne_self_eq_false, Bool.true_bne, Bool.false_bne,
          Bool.not_false, reduceIte, Bool.false_eq_true] <;> omega

/-- The same for one edge and all communities: counting borders and insides counts the ends in each. -/
theorem two_mul_countP_add_countP (cs : List (Community α)) (e : Edge α) :
    2 * cs.countP (·.encloses e) + cs.countP (·.isCrossedBy e)
      = (cs.map fun c => [e.source, e.target].countP c.members.contains).sum := by
  induction cs with
  | nil => rfl
  | cons c rest ih =>
      have here : 2 * (if c.encloses e then 1 else 0) + (if c.isCrossedBy e then 1 else 0)
          = [e.source, e.target].countP c.members.contains := by
        have ends := two_mul_internal_add_external c.members [e]
        simp only [edgeCounts, List.countP_singleton, List.flatMap_singleton] at ends
        exact ends
      rw [List.countP_cons, List.countP_cons, List.map_cons, List.sum_cons, ← here, ← ih]
      omega

/-! ## The communities of a graph -/

variable [Scalar α] {nodes : Nodes} {edges : List (Edge α)} {cs : List (Community α)}

/-- Communities that are the directories with at least three code elements.  The clauses about single communities say
which they are and what they show; the last three say how they share the edges among them. -/
structure PartedBy (nodes : Nodes) (edges : List (Edge α)) (cs : List (Community α)) : Prop where
  /-- The members are the elements of the directories, in the order of the nodes. -/
  members : ∃ ds : List String, ds.Nodup ∧ (∀ d, d ∈ ds ↔ 3 ≤ (elementsIn nodes d).length) ∧
    cs.map (·.members) = ds.map fun d => (elementsIn nodes d).map Node.id
  /-- The communities stand in the order of their first members. -/
  ordered : (cs.filterMap (·.members.head?)).Sublist (nodes.toList.map Node.id)
  /-- They are numbered from one on, in this order. -/
  ids : cs.map (·.id) = (List.range cs.length).map fun k => "community_" ++ toString (k + 1)
  /-- No element is in two communities. -/
  disjoint : cs.Pairwise fun c d => c.members.Disjoint d.members
  /-- What a community shows is computed from the edges inside it and across its border. -/
  measures : ∀ c ∈ cs, c.score = (edgeCounts c.members edges).score ∧
    c.cohesion = (edgeCounts c.members edges).cohesion ∧
    c.coupling = (edgeCounts c.members edges).coupling
  /-- An edge is inside one community at most, -/
  inside : ∀ e ∈ edges, cs.countP (·.encloses e) ≤ 1
  /-- and crosses the borders of two of them at most. -/
  across : ∀ e ∈ edges, cs.countP (·.isCrossedBy e) ≤ 2
  /-- All that is counted are ends of edges, none of them twice. -/
  total : (cs.map fun c => 2 * (edgeCounts c.members edges).internal
    + (edgeCounts c.members edges).external).sum ≤ 2 * edges.length

/-- What a community says of its directory, its tags and language apart. -/
theorem ofDirectory_fields {found : Nat} {group : String × List Node} {c : Community α}
    (h : ofDirectory edges found group = .ok c) :
    c.id = numbered found ∧ c.members = group.2.map Node.id ∧
      c.score = (edgeCounts c.members edges).score ∧
      c.cohesion = (edgeCounts c.members edges).cohesion ∧
      c.coupling = (edgeCounts c.members edges).coupling := by
  simp only [ofDirectory, bind_eq_ok_iff] at h
  obtain ⟨tags, -, language, -, made⟩ := h
  obtain rfl := Except.ok.inj made
  exact ⟨rfl, rfl, rfl, rfl, rfl⟩

/-- The members of the communities are the elements of the crowded directories, in order. -/
theorem map_members_of_directories (h : directories nodes edges = .ok cs) :
    cs.map (·.members) = (crowded nodes).map fun d => (elementsIn nodes d).map Node.id := by
  rw [directories, filter_byDirectory] at h
  have members := map_of_ofGroups h (·.members) (fun pair => pair.1.2.map Node.id)
    fun _ _ _ made => (ofDirectory_fields made).2.1
  have groups := congrArg (List.map fun group : String × List Node => group.2.map Node.id)
    (List.zipIdx_map_fst 0 ((crowded nodes).map fun d => (d, elementsIn nodes d)))
  rw [List.map_map, List.map_map] at groups
  exact members.trans groups

/-- No member is in two of them. -/
theorem pairwise_disjoint_of_directories (h : directories nodes edges = .ok cs) :
    (cs.map (·.members)).Pairwise List.Disjoint := by
  rw [map_members_of_directories h, List.pairwise_map]
  exact (nodup_crowded nodes).imp disjoint_elementsIn

/-- The first members are the first elements of the directories, and these are seen in the order of the nodes. -/
theorem firsts_sublist (h : directories nodes edges = .ok cs) :
    (cs.filterMap (·.members.head?)).Sublist (nodes.toList.map Node.id) := by
  have firsts : cs.filterMap (·.members.head?)
      = ((crowded nodes).filterMap fun d => nodes.toList.find? (·.directory? == some d)).map Node.id := by
    have members := congrArg (List.filterMap List.head?) (map_members_of_directories h)
    rw [List.filterMap_map, List.filterMap_map] at members
    rw [List.map_filterMap]
    refine members.trans (List.filterMap_congr fun d _ => ?_)
    rw [Function.comp_apply, List.head?_map, elementsIn, List.head?_filter]
  rw [firsts]
  refine List.Sublist.map _ (List.Sublist.trans ?_ (find?_distinct_sublist Node.directory? nodes.toList))
  exact List.filter_sublist.filterMap _

/-- **The communities of directories part the code elements and account for the edges.**  That no member is in two of
the communities carries the counts: each end of an edge is in one of them at most. -/
theorem directories_part_elements (h : directories nodes edges = .ok cs) : PartedBy nodes edges cs := by
  have disjoint := pairwise_disjoint_of_directories h
  have edgewise : ∀ e : Edge α, 2 * cs.countP (·.encloses e) + cs.countP (·.isCrossedBy e) ≤ 2 := by
    intro e
    rw [two_mul_countP_add_countP]
    simpa [Function.comp_def] using sum_countP_le_length disjoint [e.source, e.target]
  refine
    { members := ⟨crowded nodes, nodup_crowded nodes, fun d => mem_crowded, map_members_of_directories h⟩
      ordered := firsts_sublist h
      ids := map_id_of_ofGroups h fun _ _ _ made => (ofDirectory_fields made).1
      disjoint := List.pairwise_map.mp disjoint
      measures := ?_
      inside := fun e _ => by have := edgewise e; omega
      across := fun e _ => by have := edgewise e; omega
      total := ?_ }
  · intro c mem
    obtain ⟨group, found, made⟩ := exists_group_of_mem h mem
    exact (ofDirectory_fields made).2.2
  · have bound := sum_countP_le_length disjoint (edges.flatMap fun e => [e.source, e.target])
    have ends : (edges.flatMap fun e => [e.source, e.target]).length = 2 * edges.length := by
      simp [List.length_flatMap, Nat.mul_comm]
    rw [List.map_map, ends] at bound
    simpa only [two_mul_internal_add_external, Function.comp_def] using bound

/-- Three elements of one directory and three right in the workspace, with two of a third directory, a file and an
element without a path in between. -/
def scatteredElements : Nodes :=
  Catalog.ofList ([("a", "src/x.ts"), ("b", "main.ts"), ("c", "src/y.ts"), ("d", "lib/z.ts"), ("e", ""),
    ("f", "main.ts"), ("g", "src/x.ts"), ("h", "lib/z.ts"), ("i", "app.ts")].map fun (name, path) =>
      { id := name, kind := .codeElement, name := .str name, absolutePath := none, relativePath := some path })

/-- An edge inside the first directory, one that leaves it, one to an id that is no node, and a loop. -/
def scatteredEdges : List (Edge Rat) :=
  [("a", "c"), ("g", "b"), ("i", "?"), ("f", "f"), ("d", "h")].map fun (source, target) =>
    { source, target, relation := .calls, weight := 1, properties := .written [] }

/-- The two directories with three elements, in the order in which they are first seen. -/
theorem directories_part_elements_of_scattered :
    ∃ cs, directories scatteredElements scatteredEdges = .ok cs ∧
      cs.map (·.members) = [["a", "c", "g"], ["b", "f", "i"]] ∧
      PartedBy scatteredElements scatteredEdges cs := by
  have finishes : (directories scatteredElements scatteredEdges).toOption.any
      (fun cs => cs.map (·.members) == [["a", "c", "g"], ["b", "f", "i"]]) = true := by
    decide +kernel
  obtain ⟨cs, h, members⟩ := exists_ok_of_any_toOption finishes
  exact ⟨cs, h, by simpa using members, directories_part_elements h⟩

end Community

end CodeAtlas
