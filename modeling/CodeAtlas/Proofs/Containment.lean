import CodeAtlas.Proofs.Containers
import CodeAtlas.Proofs.Ids
import Mathlib.Logic.Relation

/-!
# Containment is a forest

The containment edges of a graph are a forest whose trees hang under the project.

## What could go wrong

An edge is dropped when its id is taken, and the id of an edge is its two ends run together, so that two edges
might have one id.  They do not as long as directories and files are hung up: the last slash cuts the name
off, what is left names the directory twice, and the parity of its length tells a directory from a file
(`cut_below`).  For code elements the arrow between the ends has to be the first one (`cut_arrow`), which fails
for a file whose path has an arrow in it; its elements may lose their edge, and never get a wrong one.

That there is no cycle, and that every way up ends at the project, both come from the length of ids, which
grows from a container to what it contains (`rank_containerOf_lt`).
-/

namespace CodeAtlas

/-! ## Cutting ids apart -/

/-- Two texts that name a directory twice, around a mark of six or seven characters, and then an entry of it, are told
apart.  The last slash cuts the entry off; of what is left the length is even or odd by the mark, and tells which half
is the directory. -/
theorem cut_below {d d' m m' x x' : List Char} (hm : m.length = 6 ∨ m.length = 7)
    (hm' : m'.length = 6 ∨ m'.length = 7) (hx : '/' ∉ x) (hx' : '/' ∉ x')
    (h : d ++ (m ++ d) ++ '/' :: x = d' ++ (m' ++ d') ++ '/' :: x') :
    d = d' ∧ m = m' ∧ x = x' := by
  obtain ⟨front, rfl⟩ := cut_last hx hx' h
  have total := congrArg List.length front
  simp only [List.length_append] at total
  -- The two marks differ by one at most, so that twice the length of a directory settles both.
  have length : d.length = d'.length := by omega
  obtain ⟨rfl, rest⟩ := List.append_inj front length
  exact ⟨rfl, List.append_cancel_right rest, rfl⟩

namespace Shape

variable {n n' : Node}

/-! ## Ids of containers and of what they contain -/

/-- At the top of the workspace a directory or file is contained in the project, -/
theorem containerOf_top {mark name : String} (kind : PlaceMark n.kind mark)
    (path : n.relativePath = some name) (slash : '/' ∉ name.toList) : containerOf n = projectId := by
  rw [containerOf, if_neg kind.ne_codeElement, path, Option.getD_some, containerId, if_neg slash]

/-- further down in its directory, -/
theorem containerOf_below {mark directory name : String} (kind : PlaceMark n.kind mark)
    (path : n.relativePath = some (directory ++ "/" ++ name))
    (above : Path.directoryOf (directory ++ "/" ++ name) = directory) :
    containerOf n = "dir:" ++ directory := by
  rw [containerOf, if_neg kind.ne_codeElement, path, Option.getD_some, containerId, if_pos (by simp), above]

/-- and a code element is contained in its file. -/
theorem containerOf_element {file : String} (kind : n.kind = .codeElement)
    (path : n.relativePath = some file) : containerOf n = "file:" ++ file := by
  rw [containerOf, if_pos kind, path, Option.getD_some]

/-- The place of an id in the forest grows from a container to what it contains. -/
def rank (id : String) : Nat := if id = projectId then 0 else id.length + 1

/-- The ids of all nodes but the project start with another letter, and have their length for their rank. -/
theorem rank_of_head {id : String} (h : id.toList.head? ≠ some 'p') : rank id = id.length + 1 := by
  have ne : id ≠ projectId := by
    rintro rfl
    exact h (by decide)
  rw [rank, if_neg ne]

/-- **The rank grows from a container to what it contains.**  The path of the container is a proper front of that of
the node, or the path of the node itself behind a shorter mark. -/
theorem rank_containerOf_lt (h : Shape n) (ne : n.kind ≠ .project) :
    rank (containerOf n) < rank n.id := by
  have mark_head : ∀ {mark rest : String}, PlaceMark n.kind mark →
      (mark ++ rest).toList.head? ≠ some 'p' := by
    intro mark rest kind
    generalize n.kind = k at kind
    cases kind <;> simp
  cases h with
  | project kind => exact absurd kind ne
  | top kind path id slash =>
      rw [containerOf_top kind path slash, id, rank_of_head (mark_head kind), rank, if_pos rfl]
      omega
  | @below mark directory name kind path id slash above =>
      rw [containerOf_below kind path above, id, rank_of_head (mark_head kind),
        rank_of_head (by simp)]
      have longer : 4 ≤ mark.length := by
        generalize n.kind = k at kind
        cases kind <;> decide
      simp only [String.length_append]
      have mark_length : "dir:".length = 4 := by decide
      have slash_length : "/".length = 1 := by decide
      omega
  | element kind path id =>
      rw [containerOf_element kind path, id, rank_of_head (by simp), rank_of_head (by simp)]
      have file_length : "file:".length = 5 := by decide
      have entity_length : "entity:".length = 7 := by decide
      simp only [String.length_append]
      omega

/-- The edges into two nodes in directories name the directory twice. -/
theorem id_eq_of_joined_below {mark mark' directory directory' name name' : String}
    {kind kind' : NodeKind} (hmark : PlaceMark kind mark) (hmark' : PlaceMark kind' mark')
    (slash : '/' ∉ name.toList) (slash' : '/' ∉ name'.toList)
    (joined : ("dir:" ++ directory).toList
        ++ '-' :: '>' :: (mark ++ (directory ++ "/" ++ name)).toList
      = ("dir:" ++ directory').toList
        ++ '-' :: '>' :: (mark' ++ (directory' ++ "/" ++ name')).toList) :
    mark ++ (directory ++ "/" ++ name) = mark' ++ (directory' ++ "/" ++ name') := by
  have length : ∀ {k : NodeKind} {m : String}, PlaceMark k m →
      ('-' :: '>' :: m.toList).length = 6 ∨ ('-' :: '>' :: m.toList).length = 7 := by
    rintro k m (_ | _) <;> decide
  have spread : directory.toList ++ ('-' :: '>' :: mark.toList ++ directory.toList)
        ++ '/' :: name.toList
      = directory'.toList ++ ('-' :: '>' :: mark'.toList ++ directory'.toList)
        ++ '/' :: name'.toList := by
    simpa using joined
  obtain ⟨sameDirectory, sameMark, sameName⟩ :=
    cut_below (length hmark) (length hmark') slash slash' spread
  have marks : mark.toList = mark'.toList := by simpa using sameMark
  refine String.toList_inj.mp ?_
  simp only [String.toList_append, marks, sameDirectory, sameName]

/-- **Edges into different nodes have different ids**, provided that the paths of code elements have no arrow in them.
By the shapes of the two nodes: the marks at the beginning and behind the arrow tell different shapes apart, and
within one shape the text is cut as described above. -/
theorem id_eq_of_edgeId_eq (h : Shape n) (h' : Shape n') (ne : n.kind ≠ .project)
    (ne' : n'.kind ≠ .project)
    (arrow : n.kind = .codeElement → n'.kind = .codeElement → ∀ file,
      n.relativePath = some file ∨ n'.relativePath = some file → ¬ ['-', '>'] <:+: file.toList)
    (ids : Edge.idOf (containerOf n) n.id .contains = Edge.idOf (containerOf n') n'.id .contains) :
    n.id = n'.id := by
  have joined : (containerOf n).toList ++ '-' :: '>' :: n.id.toList
      = (containerOf n').toList ++ '-' :: '>' :: n'.id.toList := by
    have withRelation : (containerOf n).toList ++ '-' :: '>' :: n.id.toList
          ++ (":" ++ Relation.contains.text).toList
        = (containerOf n').toList ++ '-' :: '>' :: n'.id.toList
          ++ (":" ++ Relation.contains.text).toList := by
      simpa [Edge.idOf] using congrArg String.toList ids
    exact List.append_cancel_right withRelation
  -- Containers of two kinds begin with two letters, so that only nodes of one shape are left.
  have projectHead : projectId.toList = 'p' :: "roject_root".toList := by decide
  refine String.toList_inj.mp ?_
  cases h with
  | project kind => exact absurd kind ne
  | top kind path id slash =>
      rw [containerOf_top kind path slash] at joined
      cases h' with
      | project kind' => exact absurd kind' ne'
      | top kind' path' id' slash' =>
          rw [containerOf_top kind' path' slash'] at joined
          simpa using joined
      | below kind' path' id' slash' above' =>
          rw [containerOf_below kind' path' above', projectHead] at joined
          simp at joined
      | element kind' path' id' =>
          rw [containerOf_element kind' path', projectHead] at joined
          simp at joined
  | below kind path id slash above =>
      rw [containerOf_below kind path above] at joined
      cases h' with
      | project kind' => exact absurd kind' ne'
      | top kind' path' id' slash' =>
          rw [containerOf_top kind' path' slash', projectHead] at joined
          simp at joined
      | below kind' path' id' slash' above' =>
          rw [containerOf_below kind' path' above', id, id'] at joined
          rw [id, id', id_eq_of_joined_below kind kind' slash slash' joined]
      | element kind' path' id' =>
          rw [containerOf_element kind' path'] at joined
          simp at joined
  | element kind path id =>
      rw [containerOf_element kind path] at joined
      cases h' with
      | project kind' => exact absurd kind' ne'
      | top kind' path' id' slash' =>
          rw [containerOf_top kind' path' slash', projectHead] at joined
          simp at joined
      | below kind' path' id' slash' above' =>
          rw [containerOf_below kind' path' above'] at joined
          simp at joined
      | element kind' path' id' =>
          rw [containerOf_element kind' path'] at joined
          have free := arrow kind kind'
          refine (cut_arrow (free _ (Or.inl path)) (free _ (Or.inr path')) ?_).2
          simpa using joined

/-- No other node has the id of the project. -/
theorem id_ne_projectId (h : Shape n) (ne : n.kind ≠ .project) : n.id ≠ projectId := by
  intro eq
  have lt := h.rank_containerOf_lt ne
  simp [eq, rank] at lt

/-- No code element has the id of a container: its id has a mark of its own at the beginning. -/
theorem kind_of_container (h : Shape n) (ne : n.kind ≠ .project) (h' : Shape n')
    (id : n'.id = containerOf n) : n'.kind ≠ .codeElement := by
  -- Ids of containers begin with the mark of the project, of a directory or of a file.
  have head : (containerOf n).toList.head? ≠ some 'e' := by
    cases h with
    | project kind => exact absurd kind ne
    | top kind path _ slash => rw [containerOf_top kind path slash]; decide
    | below kind path _ _ above => rw [containerOf_below kind path above]; simp
    | element kind path => rw [containerOf_element kind path]; simp
  intro eq
  cases h' with
  | project kind => simp [kind] at eq
  | top kind => exact absurd eq kind.ne_codeElement
  | below kind => exact absurd eq kind.ne_codeElement
  | element _ _ id' =>
      refine head ?_
      rw [← id, id']
      simp

/-- A code element has a path. -/
theorem path_of_element (h : Shape n) (kind : n.kind = .codeElement) :
    ∃ file, n.relativePath = some file := by
  cases h with
  | project kind' => simp [kind] at kind'
  | top _ path => exact ⟨_, path⟩
  | below _ path => exact ⟨_, path⟩
  | element _ path => exact ⟨_, path⟩

/-- The id of a file says what its path is. -/
theorem file_of_id (h : Shape n) {file : String} (id : n.id = "file:" ++ file) :
    n.kind = .file ∧ n.relativePath = some file := by
  have place : ∀ {mark path : String}, PlaceMark n.kind mark → n.id = mark ++ path →
      n.kind = .file ∧ path = file := by
    intro mark path kind id'
    rw [id] at id'
    generalize n.kind = k at kind
    cases kind with
    | directory => simpa using congrArg String.toList id'
    | file => exact ⟨rfl, by simpa using id'.symm⟩
  cases h with
  | project _ id' => exact absurd (congrArg String.toList (id.symm.trans id')) (by simp [projectId])
  | top kind path id' =>
      obtain ⟨kind, rfl⟩ := place kind id'
      exact ⟨kind, path⟩
  | below kind path id' =>
      obtain ⟨kind, rfl⟩ := place kind id'
      exact ⟨kind, path⟩
  | element _ _ id' => exact absurd (congrArg String.toList (id.symm.trans id')) (by simp)

end Shape

/-! ## The forest -/

namespace Graph

variable {α : Type}

/-- The ids of what contains a node, one for each edge. -/
def containers (g : Graph α) (id : String) : List String :=
  ((g.edgesOf .contains).filter (·.target == id)).map (·.source)

/-- An edge of containment leads from one id to the other. -/
def Contains (g : Graph α) (container content : String) : Prop :=
  ∃ e ∈ g.edgesOf .contains, e.source = container ∧ e.target = content

/-- The containment edges of a graph are a forest whose trees hang under the project.  Containers are listed with
repetitions, so that `[c]` says that there is one edge into a node, and that it comes from `c`. -/
structure ContainmentForest (g : Graph α) : Prop where
  /-- Nothing contains the project. -/
  project : g.containers projectId = []
  /-- A directory or file is contained once, in the project or in the directory that its path names. -/
  place : ∀ n ∈ g.nodes, n.kind = .directory ∨ n.kind = .file →
    ∃ path, n.relativePath = some path ∧ g.containers n.id = [containerId path]
  /-- A code element is contained at most once, in its file. -/
  element : ∀ n ∈ g.nodes, n.kind = .codeElement →
    ∃ path, n.relativePath = some path ∧
      (g.containers n.id = [] ∨ g.containers n.id = ["file:" ++ path])
  /-- It is contained once if no path of a file has an arrow in it. -/
  element_of_no_arrow :
    (∀ f ∈ g.nodes, f.kind = .file → ∀ path, f.relativePath = some path →
      ¬ ['-', '>'] <:+: path.toList) →
    ∀ n ∈ g.nodes, n.kind = .codeElement →
      ∃ path, n.relativePath = some path ∧ g.containers n.id = ["file:" ++ path]
  /-- No node contains itself, be it directly or by way of others. -/
  acyclic : ∀ id, ¬ Relation.TransGen g.Contains id id
  /-- Every way up ends at the project. -/
  rooted : ∀ container content, g.Contains container content →
    Relation.ReflTransGen g.Contains projectId container

end Graph

namespace Hung

variable {α : Type} {nodes : Catalog Node Node.id} {edges : Catalog (Edge α) Edge.id} {g : Graph α}

/-- The edges of a relation are those edges of a graph that are of it. -/
theorem mem_edgesOf {r : Relation} {e : Edge α} :
    e ∈ g.edgesOf r ↔ e ∈ g.edges ∧ e.relation = r := by
  simp [Graph.edgesOf]

/-- An edge into a node comes from its container.  The edge hangs up some node with this id, and there is one such
node. -/
theorem source_eq (h : Hung nodes edges) {e : Edge α} (mem : e ∈ edges.toList)
    (relation : e.relation = .contains) {n : Node} (node : n ∈ nodes.toList)
    (target : e.target = n.id) : n.kind ≠ .project ∧ e.source = containerOf n := by
  obtain ⟨n', node', ne, source, target'⟩ := h.sound e mem relation
  obtain rfl := Catalog.eq_of_key_eq node' node (target'.symm.trans target)
  exact ⟨ne, source⟩

/-- Edges that are all under one id are one edge at most. -/
theorem eq_nil_or_singleton {es : List (Edge α)} (nodup : (es.map Edge.id).Nodup) {id : String}
    (all : ∀ e ∈ es, e.id = id) : es = [] ∨ ∃ e, es = [e] := by
  match es with
  | [] => exact Or.inl rfl
  | [e] => exact Or.inr ⟨e, rfl⟩
  | e :: e' :: rest =>
      have same : e.id = e'.id := (all e (by simp)).trans (all e' (by simp)).symm
      simp [same] at nodup

/-- **A node is contained at most once**, in its container.  All edges into it come from there, so that they all have
one id, and a graph has one edge of each id at most. -/
theorem containers_cases (h : Hung nodes edges) (hedges : g.edges = edges.toList) {n : Node}
    (node : n ∈ nodes.toList) :
    g.containers n.id = [] ∨ n.kind ≠ .project ∧ g.containers n.id = [containerOf n] := by
  set into := (g.edgesOf .contains).filter (·.target == n.id) with hinto
  have spec : ∀ e ∈ into, e ∈ edges.toList ∧ e.relation = .contains ∧ e.target = n.id := by
    intro e mem
    simp only [hinto, List.mem_filter, mem_edgesOf, beq_iff_eq, hedges] at mem
    exact ⟨mem.1.1, mem.1.2, mem.2⟩
  -- Two edges into a node would share their id, which the catalog of edges keeps apart.
  have nodup : (into.map Edge.id).Nodup := by
    refine edges.nodup.sublist ?_
    rw [← hedges]
    exact (List.filter_sublist.trans List.filter_sublist).map _
  have all : ∀ e ∈ into, e.id = Edge.idOf (containerOf n) n.id .contains := by
    intro e mem
    obtain ⟨mem, relation, target⟩ := spec e mem
    rw [Edge.id, (h.source_eq mem relation node target).2, target, relation]
  rcases eq_nil_or_singleton nodup all with nil | ⟨e, single⟩
  · left
    rw [Graph.containers, ← hinto, nil]
    rfl
  · right
    obtain ⟨mem, relation, target⟩ := spec e (by simp [single])
    obtain ⟨ne, source⟩ := h.source_eq mem relation node target
    refine ⟨ne, ?_⟩
    rw [Graph.containers, ← hinto, single, ← source]
    rfl

/-- **A node is contained once** if no other node's edge has the id of its own. -/
theorem containers_eq (h : Hung nodes edges) (hedges : g.edges = edges.toList) {n : Node}
    (node : n ∈ nodes.toList) (ne : n.kind ≠ .project)
    (alone : ∀ n' ∈ nodes.toList, n'.kind ≠ .project →
      Edge.idOf (containerOf n) n.id .contains = Edge.idOf (containerOf n') n'.id .contains →
      n.id = n'.id) :
    g.containers n.id = [containerOf n] := by
  obtain ⟨e, mem, relation, id⟩ := h.complete n node ne
  obtain ⟨n', node', ne', source, target⟩ := h.sound e mem relation
  have same : n.id = n'.id :=
    alone n' node' ne' (by rw [← id, Edge.id, source, target, relation])
  have into : e.source ∈ g.containers n.id := by
    refine List.mem_map_of_mem (List.mem_filter.mpr ⟨mem_edgesOf.mpr ⟨hedges ▸ mem, relation⟩, ?_⟩)
    rw [target, same, beq_self_eq_true]
  rcases h.containers_cases hedges node with nil | ⟨-, single⟩
  · rw [nil] at into
    cases into
  · exact single

/-- What contains a node is one of the nodes. -/
theorem exists_container (h : Hung nodes edges) {n : Node} (node : n ∈ nodes.toList)
    (ne : n.kind ≠ .project) : ∃ n' ∈ nodes.toList, n'.id = containerOf n :=
  List.mem_map.mp (Catalog.contains_eq_true_iff.mp (h.container n node ne))

/-- A directory or file is contained once. -/
theorem containers_of_place (h : Hung nodes edges) (hedges : g.edges = edges.toList) {n : Node}
    (node : n ∈ nodes.toList) (ne : n.kind ≠ .project) (place : n.kind ≠ .codeElement) :
    g.containers n.id = [containerOf n] := by
  refine h.containers_eq hedges node ne fun n' node' ne' ids => ?_
  exact (h.shape n node).id_eq_of_edgeId_eq (h.shape n' node') ne ne'
    (fun kind => absurd kind place) ids

/-- What is listed among the containers of an id contains it. -/
theorem contains_of_mem_containers {p c : String} (mem : p ∈ g.containers c) : g.Contains p c := by
  obtain ⟨e, into, source⟩ := List.mem_map.mp mem
  obtain ⟨edge, target⟩ := List.mem_filter.mp into
  exact ⟨e, edge, source, by simpa using target⟩

/-- **Every node but a code element is reached from the project.**  The induction is on the rank of its id,
which is smaller for its container. -/
theorem reached (h : Hung nodes edges) (hedges : g.edges = edges.toList) (k : Nat) :
    ∀ n ∈ nodes.toList, n.kind ≠ .codeElement → Shape.rank n.id = k →
      Relation.ReflTransGen g.Contains projectId n.id := by
  induction k using Nat.strong_induction_on with
  | _ k ih =>
      intro n node place rank
      by_cases project : n.kind = .project
      · have id : n.id = projectId := by
          cases h.shape n node with
          | project _ id => exact id
          | top kind => exact absurd project kind.ne_project
          | below kind => exact absurd project kind.ne_project
          | element kind => simp [project] at kind
        rw [id]
      · -- The container is a node of smaller rank and not a code element either.
        obtain ⟨n', node', id⟩ := h.exists_container node project
        have place' := (h.shape n node).kind_of_container project (h.shape n' node') id
        have lt := (h.shape n node).rank_containerOf_lt project
        have up : g.Contains (containerOf n) n.id := by
          refine contains_of_mem_containers ?_
          rw [h.containers_of_place hedges node project place]
          exact List.mem_singleton.mpr rfl
        have before := ih _ (by rw [← rank]; exact lt) n' node' place' (by rw [id])
        rw [id] at before
        exact before.tail up

/-- A container and its content are those of a node that hangs. -/
theorem exists_content (h : Hung nodes edges) (hedges : g.edges = edges.toList) {p c : String}
    (contains : g.Contains p c) :
    ∃ n ∈ nodes.toList, n.kind ≠ .project ∧ p = containerOf n ∧ c = n.id := by
  obtain ⟨e, edge, rfl, rfl⟩ := contains
  obtain ⟨mem, relation⟩ := mem_edgesOf.mp edge
  exact h.sound e (hedges ▸ mem) relation

/-- Ranks grow along every way down, so that none leads back to where it began. -/
theorem rank_lt_of_transGen (h : Hung nodes edges) (hedges : g.edges = edges.toList) {p c : String}
    (way : Relation.TransGen g.Contains p c) : Shape.rank p < Shape.rank c := by
  have step : ∀ {p c : String}, g.Contains p c → Shape.rank p < Shape.rank c := by
    intro p c contains
    obtain ⟨n, node, ne, rfl, rfl⟩ := h.exists_content hedges contains
    exact (h.shape n node).rank_containerOf_lt ne
  induction way with
  | single contains => exact step contains
  | tail _ contains before => exact before.trans (step contains)

/-- The file of a code element is one of the nodes, so that its path has no arrow if no file has one. -/
theorem arrow_not_infix (h : Hung nodes edges)
    (free : ∀ f ∈ nodes.toList, f.kind = .file → ∀ path, f.relativePath = some path →
      ¬ ['-', '>'] <:+: path.toList)
    {n : Node} (node : n ∈ nodes.toList) (kind : n.kind = .codeElement) {file : String}
    (path : n.relativePath = some file) : ¬ ['-', '>'] <:+: file.toList := by
  obtain ⟨f, node', id⟩ := h.exists_container node (by simp [kind])
  rw [Shape.containerOf_element kind path] at id
  obtain ⟨kind', path'⟩ := (h.shape f node').file_of_id id
  exact free f node' kind' file path'

/-- **A code element is contained in its file** if no file has an arrow in its path. -/
theorem containers_of_element (h : Hung nodes edges) (hedges : g.edges = edges.toList)
    (free : ∀ f ∈ nodes.toList, f.kind = .file → ∀ path, f.relativePath = some path →
      ¬ ['-', '>'] <:+: path.toList)
    {n : Node} (node : n ∈ nodes.toList) (kind : n.kind = .codeElement) :
    g.containers n.id = [containerOf n] := by
  have ne : n.kind ≠ .project := by simp [kind]
  refine h.containers_eq hedges node ne fun n' node' ne' ids => ?_
  refine (h.shape n node).id_eq_of_edgeId_eq (h.shape n' node') ne ne' ?_ ids
  rintro _ kind' file (path | path)
  · exact h.arrow_not_infix free node kind path
  · exact h.arrow_not_infix free node' kind' path

/-- **Nodes that are hung up are a forest.**  The clauses about single nodes come from the lemmas above; that there is
no cycle and that every way up ends at the project come from the ranks. -/
theorem forest (h : Hung nodes edges) (hnodes : g.nodes = nodes.toList)
    (hedges : g.edges = edges.toList) : g.ContainmentForest := by
  refine ⟨?_, ?_, ?_, ?_, ?_, ?_⟩
  · rw [List.eq_nil_iff_forall_not_mem]
    intro p mem
    obtain ⟨n, node, ne, -, id⟩ := h.exists_content hedges (contains_of_mem_containers mem)
    exact (h.shape n node).id_ne_projectId ne id.symm
  · intro n node kind
    rw [hnodes] at node
    have ne : n.kind ≠ .project := by rcases kind with kind | kind <;> simp [kind]
    have place : n.kind ≠ .codeElement := by rcases kind with kind | kind <;> simp [kind]
    have contained := h.containers_of_place hedges node ne place
    rw [containerOf, if_neg place] at contained
    cases h.shape n node with
    | project kind => exact absurd kind ne
    | top _ path => exact ⟨_, path, by rw [contained, path]; rfl⟩
    | below _ path => exact ⟨_, path, by rw [contained, path]; rfl⟩
    | element kind => exact absurd kind place
  · intro n node kind
    rw [hnodes] at node
    obtain ⟨file, path⟩ := (h.shape n node).path_of_element kind
    refine ⟨file, path, ?_⟩
    rw [← Shape.containerOf_element kind path]
    exact (h.containers_cases hedges node).imp_right And.right
  · intro free n node kind
    rw [hnodes] at node free
    obtain ⟨file, path⟩ := (h.shape n node).path_of_element kind
    refine ⟨file, path, ?_⟩
    rw [← Shape.containerOf_element kind path]
    exact h.containers_of_element hedges free node kind
  · intro id cycle
    exact Nat.lt_irrefl _ (h.rank_lt_of_transGen hedges cycle)
  · intro p c contains
    obtain ⟨n, node, ne, rfl, -⟩ := h.exists_content hedges contains
    obtain ⟨n', node', id⟩ := h.exists_container node ne
    have place' := (h.shape n node).kind_of_container ne (h.shape n' node') id
    rw [← id]
    exact h.reached hedges _ n' node' place' rfl

end Hung

namespace Builder

variable {α : Type} [Scalar α]

/-- **The containment edges of every build are a forest** whose trees hang under the project, as long as containment
is among the relations that the filters enable.  Setting up a builder makes its workspace absolute
(`Path.isAbsolute_absolute`).  The invariant that carries this is `Hung`, which the build has once its nodes are
`Populated`. -/
theorem containment_forest {b : Builder α} {fs : FileSystem} {now : String} {input : BuildInput}
    {g : Graph α} (absolute : b.workspace.isAbsolute = true)
    (enabled : b.filters.enableContains = true) (h : b.build fs now input = .ok g) :
    g.ContainmentForest := by
  obtain ⟨imports, exports, s, u, built⟩ := build_eq_ok_iff.mp h
  have populated := built.populated absolute
  -- The edges hang the nodes up while they are made, and the later stages leave both alone.
  obtain ⟨count, run⟩ := makeEdges_eq_ok_iff.mp built.related
  have hung : Hung s.nodes u.edges :=
    populated.hung (b.fresh_initialState imports exports) (plain_of_mem_placedEntities absolute)
      enabled run
  obtain ⟨new, adds⟩ := built.adds populated.complete
  exact hung.forest (by rw [built.nodes, adds.nodes]) built.edges

/-- A file in a directory, with one function in it. -/
theorem containment_forest_of_nested_file :
    (sample Rat .connectivity).workspace.isAbsolute = true ∧
      (sample Rat .connectivity).filters.enableContains = true ∧
      ∃ g, sampleBuild Rat .connectivity [sampleRecord "src/a.ts" "f" .null] = .ok g ∧
        g.ContainmentForest := by
  refine ⟨by decide, rfl, ?_⟩
  have finishes : (sampleBuild Rat .connectivity
      [sampleRecord "src/a.ts" "f" .null]).toOption.any (fun _ => true) = true := by decide +kernel
  obtain ⟨g, h, -⟩ := exists_ok_of_any_toOption finishes
  exact ⟨g, h, containment_forest (by decide) rfl h⟩

end Builder

end CodeAtlas
