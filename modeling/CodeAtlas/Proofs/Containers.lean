import CodeAtlas.Proofs.Build

/-!
# What contains a node

The project contains directories and files, directories contain directories and files, files contain code
elements.  Every node but the project has one container, whose id depends on its path alone (`containerOf`).

The step for containment looks the container up by path, in tables that another step has filled.
`Populated.draft_hangs` says that it is found for every node, and `Populated.hung` what this means for the
edges of a build: each one hangs a node up under its container, and an edge that is missing has been kept out
by another one with its id.
-/

namespace CodeAtlas

/-! ## What contains a node -/

/-- The id of what contains the file or directory with a path in the workspace: the project when the path is
a single name, and the directory that it names otherwise. -/
def containerId (path : String) : String :=
  if '/' ∈ path.toList then "dir:" ++ Path.directoryOf path else projectId

/-- The id of what contains a node, by its kind and path alone.  A node without a path does not occur in a build, and
is treated as one with an empty path. -/
def containerOf (n : Node) : String :=
  let path := n.relativePath.getD ""
  if n.kind = .codeElement then "file:" ++ path else containerId path

/-- What the ids of directories and of files start with.  The two are dealt with as one case wherever a node is said
to be in a directory, and the marks are told apart by their lengths where they have to be. -/
inductive PlaceMark : NodeKind → String → Prop
  | directory : PlaceMark .directory "dir:"
  | file : PlaceMark .file "file:"

/-- A node with such a mark is no code element, -/
theorem PlaceMark.ne_codeElement {kind : NodeKind} {mark : String} (h : PlaceMark kind mark) :
    kind ≠ .codeElement := by
  cases h <;> decide

/-- nor the project. -/
theorem PlaceMark.ne_project {kind : NodeKind} {mark : String} (h : PlaceMark kind mark) :
    kind ≠ .project := by
  cases h <;> decide

/-- How the id and the path of a node go together.  Every node of a build has one of these four shapes, and what
follows about containers and ids is by cases on them. -/
inductive Shape (n : Node) : Prop
  | project (kind : n.kind = .project) (id : n.id = projectId)
  /-- a file or directory right in the workspace -/
  | top {mark name : String} (kind : PlaceMark n.kind mark) (path : n.relativePath = some name)
      (id : n.id = mark ++ name) (slash : '/' ∉ name.toList)
  /-- a file or directory in a directory -/
  | below {mark directory name : String} (kind : PlaceMark n.kind mark)
      (path : n.relativePath = some (directory ++ "/" ++ name))
      (id : n.id = mark ++ (directory ++ "/" ++ name)) (slash : '/' ∉ name.toList)
      (above : Path.directoryOf (directory ++ "/" ++ name) = directory)
  /-- a code element in a file -/
  | element {file rest : String} (kind : n.kind = .codeElement) (path : n.relativePath = some file)
      (id : n.id = "entity:" ++ file ++ rest)

variable {α : Type} {fs : FileSystem} {s₀ s : BuildState α} {entities : List Entity}

/-- The directories on the way to a file are the fronts of the path of its own directory. -/
theorem mem_directoryChain {file : Path} {segments : List String} :
    segments ∈ BuildState.directoryChain file
      ↔ segments ≠ [] ∧ segments <+: file.segments.dropLast := by
  simp only [BuildState.directoryChain, List.mem_map, List.mem_range]
  constructor
  · rintro ⟨k, lt, rfl⟩
    refine ⟨?_, List.take_prefix _ _⟩
    rw [Ne, List.take_eq_nil_iff]
    rintro (zero | nil)
    · omega
    · simp [nil] at lt
  · rintro ⟨ne, front⟩
    -- A front that is not empty is the one that is taken at its own length.
    have pos := List.length_pos_of_ne_nil ne
    have le := front.length_le
    refine ⟨segments.length - 1, by omega, ?_⟩
    rw [Nat.sub_add_cancel pos]
    exact (List.prefix_iff_eq_take.mp front).symm

/-- The directories on the way to a plain path are plain. -/
theorem plain_of_mem_directoryChain {file : Path} (plain : Path.Plain file.segments)
    {segments : List String} (mem : segments ∈ BuildState.directoryChain file) : Path.Plain segments :=
  plain.sublist ((mem_directoryChain.mp mem).2.sublist.trans (List.dropLast_sublist _))

/-! ## Looking up what contains a node -/

/-- The id of the node of the file with a path. -/
def fileIdOf (workspace path : Path) : String := "file:" ++ (path.relativeTo workspace).text

/-- A node whose id is there is found under it. -/
theorem find?_of_contains {nodes : Catalog Node Node.id} {id : String}
    (h : nodes.contains id = true) : ∃ n, nodes.find? id = some n ∧ n.id = id := by
  obtain ⟨n, mem, rfl⟩ := List.mem_map.mp (Catalog.contains_eq_true_iff.mp h)
  exact ⟨n, Catalog.find?_eq_some_iff.mpr ⟨mem, rfl⟩, rfl⟩

/-- An entry of a table that names a node leads to it; the empty id would count as none. -/
theorem registered?_of_lookup {ids : List (String × String)} {key id : String}
    (found : ids.lookup key = some id) (ne : id ≠ "") (node : s.nodes.contains id = true) :
    ∃ n, s.registered? ids key = some n ∧ n.id = id := by
  obtain ⟨n, hn, eq⟩ := find?_of_contains node
  refine ⟨n, ?_, eq⟩
  simp only [BuildState.registered?, found, Option.bind_some, if_neg ne, hn]

/-- What a table leads to is a node. -/
theorem find?_of_registered? {ids : List (String × String)} {key : String} {n : Node}
    (h : s.registered? ids key = some n) : ∃ id, s.nodes.find? id = some n := by
  obtain ⟨id, -, found⟩ := Option.bind_eq_some_iff.mp h
  split at found
  · cases found
  · exact ⟨id, found⟩

namespace Populated

/-- The paths of files below the workspace are plain where those of the entities are. -/
theorem plain_relativeTo {group : Path × List Entity}
    (plain : ∀ e ∈ entities, Path.Plain (s₀.absolutePath e.filePath).segments)
    (mem : group ∈ s₀.byFile entities) :
    Path.Plain (group.1.relativeTo s₀.workspace).segments := by
  obtain ⟨⟨e, he, eq⟩, -⟩ := mem_byFile.mp mem
  exact (eq ▸ plain e he : Path.Plain group.1.segments).relativeTo _

/-- Every directory on the way to a file of the build is found by its path. -/
theorem directoryNode? (h : Populated fs s₀ entities s) {group : Path × List Entity}
    (mem : group ∈ s₀.byFile entities) {segments : List String}
    (above : segments ∈ BuildState.directoryChain (group.1.relativeTo s₀.workspace)) :
    ∃ n, s.directoryNode? ("/".intercalate segments) = some n ∧
      n.id = "dir:" ++ "/".intercalate segments := by
  have known : segments ∈ directoriesAbove s₀.workspace (s₀.byFile entities) :=
    List.mem_flatMap.mpr ⟨group, mem, above⟩
  obtain ⟨id, found⟩ := Option.isSome_iff_exists.mp (h.indexed.directories segments known)
  obtain ⟨node, rfl⟩ := h.indexed.directory _ _ found
  exact registered?_of_lookup found (by simp) node

/-- An entry for a file leads to the node of a file that an entity stands in, -/
theorem exists_entity_of_lookup (h : Populated fs s₀ entities s) {key id : String}
    (found : s.fileIds.lookup key = some id) :
    ∃ e ∈ entities, (s₀.absolutePath e.filePath).text = key ∧
      id = fileIdOf s₀.workspace (s₀.absolutePath e.filePath) ∧ s.nodes.contains id = true := by
  obtain ⟨node, path, file, text, rfl⟩ := h.indexed.file _ _ found
  obtain ⟨e, mem, rfl⟩ := mem_paths_byFile.mp file
  rw [h.grown.workspace] at node ⊢
  exact ⟨e, mem, text, rfl, node⟩

/-- and every file that an entity stands in has one. -/
theorem lookup_fileIds (h : Populated fs s₀ entities s)
    (plain : ∀ e ∈ entities, Path.Plain (s₀.absolutePath e.filePath).segments)
    {e : Entity} (mem : e ∈ entities) : s.fileIds.lookup (s₀.absolutePath e.filePath).text
      = some (fileIdOf s₀.workspace (s₀.absolutePath e.filePath)) := by
  have known : s₀.absolutePath e.filePath ∈ (s₀.byFile entities).map Prod.fst :=
    mem_paths_byFile.mpr ⟨e, mem, rfl⟩
  obtain ⟨id, found⟩ := Option.isSome_iff_exists.mp (h.indexed.files _ known)
  obtain ⟨e', mem', text, rfl, -⟩ := h.exists_entity_of_lookup found
  -- Two plain paths with one text are one path.
  rw [found, Path.text_inj (plain e' mem') (plain e mem) text]

/-- The file of an entity is found by its path. -/
theorem fileNode? (h : Populated fs s₀ entities s)
    (plain : ∀ e ∈ entities, Path.Plain (s₀.absolutePath e.filePath).segments)
    {e : Entity} (mem : e ∈ entities) :
    ∃ n, s.fileNode? (s₀.absolutePath e.filePath).text = some n ∧
      n.id = fileIdOf s₀.workspace (s₀.absolutePath e.filePath) := by
  have found := h.lookup_fileIds plain mem
  obtain ⟨-, -, -, -, node⟩ := h.exists_entity_of_lookup found
  exact registered?_of_lookup found (by simp [fileIdOf]) node

/-- A node that is found for a path is that of a file that an entity stands in. -/
theorem exists_entity_of_fileNode? (h : Populated fs s₀ entities s) {key : String} {n : Node}
    (found : s.fileNode? key = some n) :
    ∃ e ∈ entities, (s₀.absolutePath e.filePath).text = key ∧
      n.id = fileIdOf s₀.workspace (s₀.absolutePath e.filePath) ∧ s.nodes.contains n.id = true := by
  obtain ⟨id, entry, node⟩ := Option.bind_eq_some_iff.mp found
  obtain ⟨-, there⟩ := Option.ite_none_left_eq_some.mp node
  obtain ⟨-, rfl⟩ := Catalog.find?_eq_some_iff.mp there
  exact h.exists_entity_of_lookup entry

/-- The project is found. -/
theorem project? (h : Populated fs s₀ entities s) :
    ∃ n, s.nodes.find? projectId = some n ∧ n.id = projectId :=
  find?_of_contains h.indexed.project

end Populated

/-! ## Nodes by the segments of their paths -/

/-- A directory or file with given segments is at the top if the last of them is the only one, and below another one
otherwise. -/
theorem Shape.of_segments {n : Node} {mark : String} {front : List String} {last : String}
    (kind : PlaceMark n.kind mark) (plain : Path.Plain (front ++ [last]))
    (path : n.relativePath = some ("/".intercalate (front ++ [last])))
    (id : n.id = mark ++ "/".intercalate (front ++ [last])) : Shape n := by
  have slash := (Path.plain_cons.mp (Path.plain_append.mp plain).2).1.no_slash
  by_cases nil : front = []
  · subst nil
    exact .top kind path id slash
  · have above := Path.directoryOf_intercalate plain
    rw [Path.intercalate_concat nil] at path id above
    exact .below kind path id slash above

/-- What contains it is named by the segments in front of the last one. -/
theorem containerOf_of_segments {n : Node} {mark : String} {front : List String} {last : String}
    (kind : PlaceMark n.kind mark) (plain : Path.Plain (front ++ [last]))
    (path : n.relativePath = some ("/".intercalate (front ++ [last]))) :
    containerOf n = if front = [] then projectId else "dir:" ++ "/".intercalate front := by
  rw [containerOf, if_neg kind.ne_codeElement, path, Option.getD_some, containerId]
  simp only [Path.slash_mem_intercalate_concat_iff plain, Path.directoryOf_intercalate plain,
    ite_not]

/-- An edge hangs a node up under what contains it, which is a node itself.  This is what each of the three kinds of
proposals is shown to do. -/
structure Hangs (s : BuildState α) (n : Node) (e : Edge α) : Prop where
  /-- It comes from the container of the node, -/
  source : e.source = containerOf n
  /-- leads to the node, -/
  target : e.target = n.id
  /-- says that the one contains the other, -/
  relation : e.relation = .contains
  /-- and the container is there. -/
  node : s.nodes.contains e.source = true

variable [Scalar α]

/-- An edge from the node that was found under the id of the container hangs the node up. -/
theorem hangs_structuralEdge {n parent : Node} (found : ∃ id, s.nodes.find? id = some parent)
    (id : parent.id = containerOf n) (description : String) (line : Json) :
    Hangs s n (BuildState.structuralEdge parent.id n.id .contains description line) := by
  refine ⟨id, rfl, rfl, Catalog.contains_eq_true_iff.mpr ?_⟩
  obtain ⟨key, found⟩ := found
  exact List.mem_map_of_mem (Catalog.find?_eq_some_iff.mp found).1

namespace Populated

variable {group : Path × List Entity}

/-- **A directory hangs** under the project or under the directory above it.  That one is found in the table, since it
is on the way to the same file. -/
theorem directoryProposal_hangs (h : Populated fs s₀ entities s)
    (plain : ∀ e ∈ entities, Path.Plain (s₀.absolutePath e.filePath).segments)
    (mem : group ∈ s₀.byFile entities) {segments : List String}
    (above : segments ∈ BuildState.directoryChain (group.1.relativeTo s₀.workspace)) :
    Shape (directoryNode fs s₀.workspace segments) ∧
      ∃ e : Edge α, s.directoryProposal (directoryNode fs s₀.workspace segments) = .ok (some e) ∧
        Hangs s (directoryNode fs s₀.workspace segments) e := by
  obtain ⟨ne, onTheWay⟩ := mem_directoryChain.mp above
  have plainWay := plain_of_mem_directoryChain (plain_relativeTo plain mem) above
  obtain ⟨front, last, rfl⟩ := (List.eq_nil_or_concat' segments).resolve_left ne
  set n := directoryNode fs s₀.workspace (front ++ [last]) with hn
  have kind : PlaceMark n.kind "dir:" := .directory
  have container := containerOf_of_segments kind plainWay rfl
  refine ⟨Shape.of_segments kind plainWay rfl rfl, ?_⟩
  -- Only a directory right in the workspace has the level 1, and the project is asked for it.
  have level : n.level.sameKey (.int 1) = decide (front = []) := by
    show (((front ++ [last]).length : Int) == 1) = _
    cases front <;> simp
    omega
  by_cases nil : front = []
  · obtain ⟨project, found, id⟩ := h.project?
    rw [if_pos nil] at container
    refine ⟨BuildState.structuralEdge project.id n.id .contains
      ("Project contains directory " ++ n.name.display), ?_,
      hangs_structuralEdge ⟨_, found⟩ (id.trans container.symm) _ _⟩
    rw [BuildState.directoryProposal, level, if_pos (by simpa using nil), found]
    rfl
  · -- The chain that leads to a directory goes through the one above it.
    have further : front ∈ BuildState.directoryChain (group.1.relativeTo s₀.workspace) :=
      mem_directoryChain.mpr ⟨nil, (List.prefix_append _ _).trans onTheWay⟩
    obtain ⟨parent, found, id⟩ := h.directoryNode? mem further
    rw [if_neg nil] at container
    refine ⟨BuildState.structuralEdge parent.id n.id .contains
      ("Directory " ++ parent.name.display ++ " contains subdirectory " ++ n.name.display), ?_,
      hangs_structuralEdge (find?_of_registered? found) (id.trans container.symm) _ _⟩
    have path : n.relativePath = some ("/".intercalate (front ++ [last])) := rfl
    rw [BuildState.directoryProposal, level, if_neg (by simpa using nil),
      BuildState.directoryAbove_eq path, Path.directoryOf_intercalate plainWay, Except.map, found]
    rfl

/-- **A file hangs** under the project or under its directory, the last one on the way to it.  By whether its path has
a segment in front of the name. -/
theorem fileProposal_hangs (h : Populated fs s₀ entities s)
    (plain : ∀ e ∈ entities, Path.Plain (s₀.absolutePath e.filePath).segments)
    (mem : group ∈ s₀.byFile entities) {n : Node}
    (made : fileNode fs s₀ group.1 group.2 = .ok n) :
    Shape n ∧ ∃ e : Edge α, s.fileProposal n = .ok (some e) ∧ Hangs s n e := by
  obtain ⟨id, kind, -, path⟩ := fileNode_shape made
  have mark : PlaceMark n.kind "file:" := kind ▸ .file
  have plainWay := plain_relativeTo plain mem
  have inProject : ∀ name, n.relativePath = some name → '/' ∉ name.toList →
      ∃ e : Edge α, s.fileProposal n = .ok (some e) ∧ Hangs s n e := by
    intro name eq slash
    obtain ⟨project, found, id⟩ := h.project?
    have container : containerOf n = projectId := by
      rw [containerOf, if_neg (by simp [kind]), eq, Option.getD_some, containerId, if_neg slash]
    refine ⟨BuildState.structuralEdge project.id n.id .contains
      ("Project root contains file " ++ n.name.display), ?_,
      hangs_structuralEdge ⟨_, found⟩ (id.trans container.symm) _ _⟩
    rw [BuildState.fileProposal, BuildState.directoryAbove_eq eq, Except.map,
      if_pos (Path.directoryOf_of_no_slash slash), found]
    rfl
  rcases List.eq_nil_or_concat' (group.1.relativeTo s₀.workspace).segments with nil | concat
  · -- The workspace itself is taken for a file.
    have text : (group.1.relativeTo s₀.workspace).text = "." := by
      rw [Path.text, if_pos ⟨rfl, nil⟩]
    rw [text] at path id
    exact ⟨.top mark path id (by decide), inProject "." path (by decide)⟩
  · obtain ⟨front, last, eq⟩ := concat
    rw [eq] at plainWay
    have text : (group.1.relativeTo s₀.workspace).text = "/".intercalate (front ++ [last]) := by
      have way : group.1.relativeTo s₀.workspace = ⟨.none, front ++ [last]⟩ := Path.ext rfl eq
      rw [way, Path.text_eq_intercalate (by simp)]
    rw [text] at path id
    refine ⟨Shape.of_segments mark plainWay path id, ?_⟩
    by_cases nil : front = []
    · refine inProject _ path ?_
      rw [Path.slash_mem_intercalate_concat_iff plainWay]
      exact not_not.mpr nil
    · have above : front ∈ BuildState.directoryChain (group.1.relativeTo s₀.workspace) :=
        mem_directoryChain.mpr ⟨nil, by simp [eq]⟩
      obtain ⟨parent, found, id⟩ := h.directoryNode? mem above
      have container := containerOf_of_segments mark plainWay path
      rw [if_neg nil] at container
      refine ⟨BuildState.structuralEdge parent.id n.id .contains
        ("Directory " ++ parent.name.display ++ " contains file " ++ n.name.display), ?_,
        hangs_structuralEdge (find?_of_registered? found) (id.trans container.symm) _ _⟩
      have named : "/".intercalate front ≠ "" :=
        (Path.plain_append.mp plainWay).1.intercalate_ne_empty nil
      rw [BuildState.fileProposal, BuildState.directoryAbove_eq path,
        Path.directoryOf_intercalate plainWay, Except.map, if_neg named, found]
      rfl

/-- **A code element hangs** under its file, which is found by the absolute path that the element was read under. -/
theorem elementContained_hangs (h : Populated fs s₀ entities s)
    (plain : ∀ e ∈ entities, Path.Plain (s₀.absolutePath e.filePath).segments)
    {entity : Entity} (mem : entity ∈ entities) :
    Shape (entityNode s₀ entity) ∧
      ∃ e : Edge α, s.elementContained (entityNode s₀ entity) = .ok (some e) ∧
        Hangs s (entityNode s₀ entity) e := by
  set n := entityNode s₀ entity with hn
  obtain ⟨file, found, id⟩ := h.fileNode? plain mem
  have container : file.id = containerOf n := id
  have spelled : n.id = "entity:" ++ (s₀.relativePath entity.filePath).text ++ (":"
      ++ entity.elementType ++ ":" ++ entity.name ++ ":" ++ entity.startLine.display) := by
    simp only [hn, entityNode, entityId, String.append_assoc]
  refine ⟨.element rfl rfl spelled, BuildState.structuralEdge file.id n.id .contains
    ("File " ++ file.name.display ++ " contains "
      ++ (ElementKind.ofParserWord entity.elementType).text ++ " " ++ n.name.display) n.startLine,
    ?_, hangs_structuralEdge (find?_of_registered? found) container _ _⟩
  have node : n.absolutePath.bind s.fileNode? = some file := found
  rw [BuildState.elementContained, BuildState.elementProposal, node]
  rfl

/-- **Every node but the project hangs** under what contains it.  By the origin of the node: the path of each kind
says where the program looks for the container, and `Populated` that it is there. -/
theorem draft_hangs (h : Populated fs s₀ entities s)
    (plain : ∀ e ∈ entities, Path.Plain (s₀.absolutePath e.filePath).segments) {n : Node}
    (mem : n ∈ s.nodes.toList) :
    Shape n ∧ (n.kind ≠ .project →
      ∃ e : Edge α, s.containmentDraft n = .ok (some e) ∧ Hangs s n e) := by
  cases h.grown.origin n mem with
  | project made =>
      obtain ⟨id, kind, -⟩ := projectNode_shape made
      exact ⟨.project kind id, fun ne => absurd kind ne⟩
  | file group made =>
      obtain ⟨shape, hangs⟩ := h.fileProposal_hangs plain group made
      refine ⟨shape, fun _ => ?_⟩
      simpa only [BuildState.containmentDraft, (fileNode_shape made).2.1] using hangs
  | directory group above =>
      obtain ⟨shape, hangs⟩ := h.directoryProposal_hangs plain group above
      exact ⟨shape, fun _ => hangs⟩
  | element given =>
      obtain ⟨shape, hangs⟩ := h.elementContained_hangs plain given
      exact ⟨shape, fun _ => hangs⟩

end Populated

/-- The containment edges hang the nodes up: each of them hangs a node under what contains it, and none is missing but
for another one with its id.  All that is said about the forest of containment is derived from these four clauses. -/
structure Hung (nodes : Catalog Node Node.id) (edges : Catalog (Edge α) Edge.id) : Prop where
  /-- Every node has one of the four shapes, which ids are taken apart by. -/
  shape : ∀ n ∈ nodes.toList, Shape n
  /-- What contains a node is a node. -/
  container : ∀ n ∈ nodes.toList, n.kind ≠ .project → nodes.contains (containerOf n) = true
  /-- Every edge hangs some node up where it belongs, -/
  sound : ∀ e ∈ edges.toList, e.relation = .contains →
    ∃ n ∈ nodes.toList, n.kind ≠ .project ∧ e.source = containerOf n ∧ e.target = n.id
  /-- and every node but the project is hung up, by its own edge or by one with the same id. -/
  complete : ∀ n ∈ nodes.toList, n.kind ≠ .project → ∃ e ∈ edges.toList,
    e.relation = .contains ∧ e.id = Edge.idOf (containerOf n) n.id .contains

/-- **What relating the nodes brings about for containment.**  The edges are what is left of the proposals at the
stage of the relation, and the proposals are those of `draft_hangs`, one for each node but the project. -/
theorem Populated.hung (fresh : Fresh s₀) (h : Populated fs s₀ entities s)
    (plain : ∀ e ∈ entities, Path.Plain (s₀.absolutePath e.filePath).segments)
    {around : Surroundings α} (enabled : around.filters.enableContains = true) {u : BuildState α}
    {count : Except Fault Nat} (run : s.relateAll around = (u, count)) : Hung s.nodes u.edges := by
  obtain ⟨t, stage⟩ := BuildState.exists_stage (r := .contains) enabled h.complete run
  have start : s.edgesOf .contains = [] := by
    rw [BuildState.edgesOf, h.grown.edges, fresh.edges]
    rfl
  have drafted : ∀ e, .ok e ∈ s.proposed around .contains →
      ∃ n ∈ s.nodes.toList, n.kind ≠ .project ∧ Hangs s n e := by
    intro e mem
    obtain ⟨n, node, ne, draft⟩ :=
      BuildState.mem_containmentDrafts.mp (BuildState.mem_proposals.mp mem)
    obtain ⟨e', draft', hangs⟩ := (h.draft_hangs plain node).2 ne
    obtain rfl : e' = e := Option.some.inj (Except.ok.inj (draft'.symm.trans draft))
    exact ⟨n, node, ne, hangs⟩
  refine ⟨fun n mem => (h.draft_hangs plain mem).1, ?_, ?_, ?_⟩
  · intro n mem ne
    obtain ⟨e, -, hangs⟩ := (h.draft_hangs plain mem).2 ne
    rw [← hangs.source]
    exact hangs.node
  · intro e mem relation
    have there : e ∈ u.edgesOf .contains := BuildState.mem_edgesOf.mpr ⟨mem, relation⟩
    obtain ⟨n, node, ne, hangs⟩ := drafted e (stage.proposed_of_mem (by decide) start there)
    exact ⟨n, node, ne, hangs.source, hangs.target⟩
  · intro n mem ne
    obtain ⟨e, draft, hangs⟩ := (h.draft_hangs plain mem).2 ne
    -- The node's own edge is proposed: it is there, or another one has its id.
    have proposed : .ok e ∈ s.proposed around .contains :=
      BuildState.mem_proposals.mpr (BuildState.mem_containmentDrafts.mpr ⟨n, mem, ne, draft⟩)
    have target : s.nodes.contains e.target = true := by
      rw [hangs.target, Catalog.contains_eq_true_iff]
      exact List.mem_map_of_mem mem
    obtain ⟨e', there, id⟩ := stage.exists_edge_of_proposed (by decide) h.complete proposed
      (Filters.passes_of_structural _ (by rw [hangs.relation]; rfl)) hangs.node target
    obtain ⟨mem', relation⟩ := BuildState.mem_edgesOf.mp there
    exact ⟨e', mem', relation, by rw [id, Edge.id, hangs.source, hangs.target, hangs.relation]⟩

namespace Builder.Built

variable {b : Builder α} {fs : FileSystem} {now : String} {input : BuildInput} {imports exports : FileMap}
  {s u : BuildState α} {g : Graph α}

/-- The nodes of a build have ids and paths that go together. -/
theorem shape (built : Built b fs now input imports exports s u g) (absolute : b.workspace.isAbsolute = true)
    {n : Node} (mem : n ∈ s.nodes.toList) : Shape n :=
  ((built.populated absolute).draft_hangs (plain_of_mem_placedEntities absolute) mem).1

/-- The edges of a build with containment hang its nodes up. -/
theorem hung (built : Built b fs now input imports exports s u g) (absolute : b.workspace.isAbsolute = true)
    (enabled : b.filters.enableContains = true) : Hung s.nodes u.edges := by
  obtain ⟨count, run⟩ := built.relateAll
  exact (built.populated absolute).hung (b.fresh_initialState imports exports)
    (plain_of_mem_placedEntities absolute) enabled run

end Builder.Built

end CodeAtlas
