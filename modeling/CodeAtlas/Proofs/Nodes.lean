import CodeAtlas.Build.Builder
import CodeAtlas.Proofs.Path
import CodeAtlas.Proofs.Steps
import Mathlib.Data.List.Nodup

/-!
# What the nodes of a build are

A build makes nodes in three steps and keeps two tables beside them.  Everything later in a build (its
edges, its communities, its figures) looks at the nodes and tables alone, so this module says once what they
hold.

## Two invariants

`Grown` says where things come from: the state differs from the first one in nothing but nodes, placed
entities and tables, every node has an `Origin`, and the code elements are the nodes of the placed entities,
in order.  `Indexed` says what can be looked up: every entry of a table leads to a node, under the id that
its key calls for, and every file and directory so far has an entry.

Both carry the files, directories and entities of which the nodes have been made so far.  A step adds one
member to these lists, and `makeNodes_populated` reads both off a whole run.
-/

namespace CodeAtlas

variable {α : Type} {fs : FileSystem}

/-! ## One node of each kind -/

/-- The first character of the ids of a kind.  No two kinds have one in common, which is why the nodes of different
kinds never get in each other's way. -/
def NodeKind.mark : NodeKind → Char
  | .project => 'p'
  | .directory => 'd'
  | .file => 'f'
  | .codeElement => 'e'

/-- Kinds are told apart by their marks. -/
theorem NodeKind.mark_inj {k l : NodeKind} (h : k.mark = l.mark) : k = l := by
  revert h
  cases k <;> cases l <;> decide

/-- The node of the project has an id of its own and no path below the workspace. -/
theorem projectNode_shape {workspace : Path} {n : Node} (h : projectNode fs workspace = .ok n) :
    n.id = projectId ∧ n.kind = .project ∧ n.relativePath = none := by
  obtain ⟨manifest, -, rfl⟩ := map_eq_ok_iff.mp h
  cases manifest <;> exact ⟨rfl, rfl, rfl⟩

/-- The node of a file has its two paths, the absolute one and the one below the workspace, and the second one in its
id. -/
theorem fileNode_shape {s : BuildState α} {path : Path} {entities : List Entity} {n : Node}
    (h : fileNode fs s path entities = .ok n) :
    n.id = "file:" ++ (path.relativeTo s.workspace).text ∧ n.kind = .file ∧
      n.absolutePath = some path.text ∧
      n.relativePath = some (path.relativeTo s.workspace).text := by
  simp only [fileNode, bind_eq_ok_iff] at h
  obtain ⟨figures, -, tags, -, made⟩ := h
  obtain rfl := Except.ok.inj made
  exact ⟨rfl, rfl, rfl, rfl⟩

/-- A node of a file looks at nothing but the workspace and the file maps. -/
theorem fileNode_congr {s t : BuildState α} (workspace : s.workspace = t.workspace)
    (imports : s.imports = t.imports) (exports : s.exports = t.exports) (path : Path)
    (entities : List Entity) : fileNode fs s path entities = fileNode fs t path entities := by
  simp only [fileNode, workspace, imports, exports]

/-- A node of an entity looks at nothing but the workspace. -/
theorem entityNode_congr {s t : BuildState α} (workspace : s.workspace = t.workspace) (e : Entity) :
    entityNode s e = entityNode t e := by
  simp only [entityNode, BuildState.relativePath, BuildState.absolutePath, workspace]

/-- Where a node comes from, after a build that started with `s₀` has gone through some files and
entities. -/
inductive Origin (fs : FileSystem) (s₀ : BuildState α) (groups : List (Path × List Entity))
    (entities : List Entity) : Node → Prop
  | project {n : Node} (made : projectNode fs s₀.workspace = .ok n) : Origin fs s₀ groups entities n
  | file {group : Path × List Entity} {n : Node} (mem : group ∈ groups)
      (made : fileNode fs s₀ group.1 group.2 = .ok n) : Origin fs s₀ groups entities n
  | directory {group : Path × List Entity} {segments : List String} (mem : group ∈ groups)
      (above : segments ∈ BuildState.directoryChain (group.1.relativeTo s₀.workspace)) :
      Origin fs s₀ groups entities (directoryNode fs s₀.workspace segments)
  | element {e : Entity} (mem : e ∈ entities) : Origin fs s₀ groups entities (entityNode s₀ e)

namespace Origin

variable {s₀ : BuildState α} {groups : List (Path × List Entity)} {entities : List Entity} {n : Node}

/-- What comes from some files and entities comes from more of them. -/
theorem mono {groups' : List (Path × List Entity)} {entities' : List Entity}
    (h : Origin fs s₀ groups entities n) (hgroups : groups ⊆ groups')
    (hentities : entities ⊆ entities') : Origin fs s₀ groups' entities' n := by
  cases h with
  | project made => exact .project made
  | file mem made => exact .file (hgroups mem) made
  | directory mem above => exact .directory (hgroups mem) above
  | element mem => exact .element (hentities mem)

/-- **Ids begin with the mark of their kind**, so that nodes of two kinds have two ids.  By the origin of the node. -/
theorem head?_id (h : Origin fs s₀ groups entities n) :
    n.id.toList.head? = some n.kind.mark := by
  cases h with
  | project made =>
      obtain ⟨id, kind, -⟩ := projectNode_shape made
      rw [id, kind]
      rfl
  | file mem made =>
      obtain ⟨id, kind, -⟩ := fileNode_shape made
      rw [id, kind, String.toList_append]
      rfl
  | directory mem above => simp [directoryNode, NodeKind.mark]
  | element mem => simp [entityNode, entityId, NodeKind.mark]

/-- An id tells the kind of its node, in whatever builds. -/
theorem kind_eq {fs' : FileSystem} {s₀' : BuildState α} {groups' : List (Path × List Entity)}
    {entities' : List Entity} {n' : Node} (h : Origin fs s₀ groups entities n)
    (h' : Origin fs' s₀' groups' entities' n') (id : n.id = n'.id) : n.kind = n'.kind := by
  refine NodeKind.mark_inj (Option.some.inj ?_)
  rw [← h.head?_id, ← h'.head?_id, id]

end Origin

/-- A node of another kind is not among those of a kind. -/
theorem nodesOf_addNode_of_ne {s : BuildState α} {n : Node} {kind : NodeKind} (ne : n.kind ≠ kind) :
    (s.addNode n).nodesOf kind = s.nodesOf kind := by
  rw [BuildState.nodesOf, BuildState.addNode, Catalog.toList_insertNew]
  split
  · rfl
  · simp [BuildState.nodesOf, ne]

/-- A new node is the last one of its kind. -/
theorem nodesOf_addNode_of_eq {s : BuildState α} {n : Node} {kind : NodeKind} (eq : n.kind = kind) :
    (s.addNode n).nodesOf kind = s.nodesOf kind ++ if s.nodes.contains n.id then [] else [n] := by
  rw [BuildState.nodesOf, BuildState.addNode, Catalog.toList_insertNew]
  split
  · exact (List.append_nil _).symm
  · simp [BuildState.nodesOf, eq]

/-! ## Where things come from -/

/-- What a build has grown from the state `s₀`, with the files and entities gone through so far.  This is the first
invariant of the nodes: it is kept by each of the three steps, and says nothing that depends on the order of files. -/
structure Grown (fs : FileSystem) (s₀ : BuildState α) (groups : List (Path × List Entity))
    (entities : List Entity) (s : BuildState α) : Prop where
  /-- The workspace and the file maps are what they were, -/
  workspace : s.workspace = s₀.workspace
  imports : s.imports = s₀.imports
  exports : s.exports = s₀.exports
  /-- and nothing has been related yet. -/
  edges : s.edges = s₀.edges
  /-- Every node has an origin. -/
  origin : ∀ n ∈ s.nodes.toList, Origin fs s₀ groups entities n
  /-- Placed is the first entity of each id. -/
  placed : s.placed = (distinctBy (fun d e => (entityNode s₀ d).id == (entityNode s₀ e).id)
    entities).map fun e => ⟨e, (entityNode s₀ e).id⟩
  /-- The code elements are the nodes of the placed entities. -/
  elements : s.nodesOf .codeElement = s.placed.map fun p => entityNode s₀ p.entity
  /-- Every entity has a node under its id. -/
  registered : ∀ e ∈ entities, s.nodes.contains (entityNode s₀ e).id = true

/-- What can be looked up in a state, once some files and directories have been gone through.  This is the second
invariant.  It needs files to be told apart by the texts of their paths, which are the keys of the table. -/
structure Indexed (files : List Path) (directories : List (List String)) (s : BuildState α) :
    Prop where
  /-- The project has a node. -/
  project : s.nodes.contains projectId = true
  /-- An entry for a file leads to its node. -/
  file : ∀ key id, s.fileIds.lookup key = some id → s.nodes.contains id = true ∧
    ∃ path ∈ files, path.text = key ∧ id = "file:" ++ (path.relativeTo s.workspace).text
  /-- Every file has an entry. -/
  files : ∀ path ∈ files, (s.fileIds.lookup path.text).isSome
  /-- An entry for a directory leads to its node. -/
  directory : ∀ key id, s.directoryIds.lookup key = some id →
    s.nodes.contains id = true ∧ id = "dir:" ++ key
  /-- Every directory has an entry. -/
  directories : ∀ segments ∈ directories, (s.directoryIds.lookup ("/".intercalate segments)).isSome

namespace Grown

variable {s₀ s : BuildState α} {groups : List (Path × List Entity)} {entities : List Entity}

/-- What has grown from some files has grown from more of them. -/
theorem mono {groups' : List (Path × List Entity)} (h : Grown fs s₀ groups entities s)
    (sub : groups ⊆ groups') : Grown fs s₀ groups' entities s :=
  { h with origin := fun n mem => (h.origin n mem).mono sub (List.Subset.refl _) }

/-- A further node keeps the first invariant if it has an origin and is no code element, -/
theorem addNode {n : Node} (h : Grown fs s₀ groups entities s)
    (origin : Origin fs s₀ groups entities n) (kind : n.kind ≠ .codeElement) :
    Grown fs s₀ groups entities (s.addNode n) where
  workspace := h.workspace
  imports := h.imports
  exports := h.exports
  edges := h.edges
  origin := by
    intro n' mem
    rcases Catalog.mem_insertNew.mp mem with old | ⟨rfl, -⟩
    · exact h.origin n' old
    · exact origin
  placed := h.placed
  elements := (nodesOf_addNode_of_ne kind).trans h.elements
  registered e mem := Catalog.contains_insertNew.mpr (Or.inl (h.registered e mem))

/-- as that of a directory above a file, -/
theorem addDirectory {m : Made α} {segments : List String} (h : Grown fs s₀ groups entities m.state)
    (origin : Origin fs s₀ groups entities (directoryNode fs s₀.workspace segments)) :
    Grown fs s₀ groups entities (BuildState.addDirectory fs m segments).state := by
  rw [BuildState.addDirectory]
  split
  · exact h
  · rw [h.workspace]
    exact { h.addNode origin (by simp [directoryNode]) with }

/-- or those of all directories on the way to a file. -/
theorem addDirectories (chain : List (List String)) {m : Made α}
    (h : Grown fs s₀ groups entities m.state)
    (origin : ∀ segments ∈ chain,
      Origin fs s₀ groups entities (directoryNode fs s₀.workspace segments)) :
    Grown fs s₀ groups entities (chain.foldl (BuildState.addDirectory fs) m).state := by
  induction chain generalizing m with
  | nil => exact h
  | cons segments rest ih =>
      obtain ⟨here, later⟩ := List.forall_mem_cons.mp origin
      exact ih (h.addDirectory here) later

/-- A file comes to those that have been gone through, with its node and its directories. -/
theorem addFile {m m' : Made α} {group : Path × List Entity}
    (h : Grown fs s₀ groups entities m.state) (made : BuildState.addFile fs m group = .ok m') :
    Grown fs s₀ (groups ++ [group]) entities m'.state := by
  have wider := h.mono (List.subset_append_left groups [group])
  rw [BuildState.addFile] at made
  split at made
  · obtain rfl := Except.ok.inj made
    exact wider
  · obtain ⟨node, hnode, rfl⟩ := map_eq_ok_iff.mp made
    rw [fileNode_congr h.workspace h.imports h.exports] at hnode
    have mem : group ∈ groups ++ [group] := by simp
    -- The file's node comes first, and then those of the directories above it, from the top down.
    have added := wider.addNode (.file mem hnode) (by simp [(fileNode_shape hnode).2.1])
    refine addDirectories _ { added with } ?_
    intro segments above
    refine .directory mem ?_
    rw [← h.workspace]
    exact above

/-- An entity's id is taken iff an entity in front of it has the same one. -/
theorem contains_entity_iff (h : Grown fs s₀ groups entities s) (e : Entity) :
    s.nodes.contains (entityNode s₀ e).id = true
      ↔ ∃ d ∈ entities, (entityNode s₀ d).id = (entityNode s₀ e).id := by
  constructor
  · intro taken
    obtain ⟨n, mem, id⟩ := List.mem_map.mp (Catalog.contains_eq_true_iff.mp taken)
    have origin := h.origin n mem
    -- The id may be that of any node so far.  Its mark tells that the node is a code element.
    have element : Origin fs s₀ groups (entities ++ [e]) (entityNode s₀ e) := .element (by simp)
    have wider : Origin fs s₀ groups (entities ++ [e]) n :=
      origin.mono (List.Subset.refl _) (List.subset_append_left _ _)
    have kind : n.kind = .codeElement := wider.kind_eq element id
    cases origin with
    | project made => simp [(projectNode_shape made).2.1] at kind
    | file _ made => simp [(fileNode_shape made).2.1] at kind
    | directory => simp [directoryNode] at kind
    | element given => exact ⟨_, given, id⟩
  · rintro ⟨d, mem, id⟩
    rw [← id]
    exact h.registered d mem

/-- **An entity is placed unless its id is taken**, and its id is only taken by an entity in front of it.  By the
marks of ids no node of another kind can have taken it, so that `placed` is the first entity of each id in the end. -/
theorem addEntity {m : Made α} (h : Grown fs s₀ groups entities m.state) (e : Entity) :
    Grown fs s₀ groups (entities ++ [e]) (BuildState.addEntity m e).state := by
  have wider : ∀ n ∈ m.state.nodes.toList, Origin fs s₀ groups (entities ++ [e]) n :=
    fun n mem => (h.origin n mem).mono (List.Subset.refl _) (List.subset_append_left _ _)
  have taken := h.contains_entity_iff e
  rw [BuildState.addEntity, entityNode_congr h.workspace]
  split
  · next known =>
      -- The entity is registered under the node that was there before.
      obtain ⟨d, mem, id⟩ := taken.mp known
      refine { h with origin := wider, placed := ?_, registered := ?_ }
      · have same : entities.any
            (fun d => (entityNode s₀ d).id == (entityNode s₀ e).id) = true :=
          List.any_eq_true.mpr ⟨d, mem, by simpa using id⟩
        rw [h.placed, distinctBy_concat, if_pos same, List.append_nil]
      · intro d' mem'
        rcases List.mem_append.mp mem' with old | new
        · exact h.registered d' old
        · obtain rfl := List.mem_singleton.mp new
          exact known
  · next unknown =>
      have different : ¬ entities.any
          (fun d => (entityNode s₀ d).id == (entityNode s₀ e).id) = true := by
        rw [List.any_eq_true]
        rintro ⟨d, mem, id⟩
        exact unknown (taken.mpr ⟨d, mem, by simpa using id⟩)
      refine ⟨h.workspace, h.imports, h.exports, h.edges, ?_, ?_, ?_, ?_⟩
      · intro n mem
        rcases Catalog.mem_insertNew.mp mem with old | ⟨rfl, -⟩
        · exact wider n old
        · exact .element (by simp)
      · show m.state.placed ++ [_] = _
        rw [h.placed, distinctBy_concat, if_neg different, List.map_append]
        rfl
      · have kind : (entityNode s₀ e).kind = .codeElement := rfl
        show (m.state.addNode (entityNode s₀ e)).nodesOf .codeElement = (m.state.placed ++ [_]).map _
        rw [nodesOf_addNode_of_eq kind, if_neg unknown, h.elements, List.map_append]
        rfl
      · intro d mem
        rw [BuildState.addNode, Catalog.contains_insertNew]
        rcases List.mem_append.mp mem with old | new
        · exact Or.inl (h.registered d old)
        · obtain rfl := List.mem_singleton.mp new
          exact Or.inr rfl

/-- The same for several entities, by induction over them. -/
theorem addEntities (more : List Entity) {m : Made α} {entities : List Entity}
    (h : Grown fs s₀ groups entities m.state) :
    Grown fs s₀ groups (entities ++ more) (more.foldl BuildState.addEntity m).state := by
  induction more generalizing m entities with
  | nil => simpa using h
  | cons e rest ih => simpa using ih (h.addEntity e)

end Grown

/-! ## What can be looked up -/

/-- An entry that comes last is found if there is none of its key in front of it. -/
theorem lookup_concat_eq_some {ids : List (String × String)} {key key' id id' : String}
    (h : (ids ++ [(key', id')]).lookup key = some id) :
    ids.lookup key = some id ∨ key = key' ∧ id' = id := by
  rw [List.lookup_append, Option.or_eq_some_iff, List.lookup_cons] at h
  rcases h with old | ⟨-, new⟩
  · exact Or.inl old
  · by_cases eq : key = key'
    · exact Or.inr ⟨eq, by simpa [eq] using new⟩
    · simp [beq_false_of_ne eq] at new

/-- Behind a further entry, all keys so far and the new one have an entry. -/
theorem isSome_lookup_concat {ids : List (String × String)} {key key' id' : String}
    (h : (ids.lookup key).isSome ∨ key = key') :
    ((ids ++ [(key', id')]).lookup key).isSome := by
  rw [List.lookup_append, Option.isSome_or, Bool.or_eq_true]
  rcases h with old | rfl
  · exact Or.inl old
  · exact Or.inr (by simp)

namespace Indexed

variable {files : List Path} {directories : List (List String)} {s : BuildState α}

/-- A further node leaves what can be looked up. -/
theorem addNode (h : Indexed files directories s) (n : Node) :
    Indexed files directories (s.addNode n) where
  project := Catalog.contains_insertNew.mpr (Or.inl h.project)
  file key id found := by
    obtain ⟨node, path⟩ := h.file key id found
    exact ⟨Catalog.contains_insertNew.mpr (Or.inl node), path⟩
  files := h.files
  directory key id found := by
    obtain ⟨node, eq⟩ := h.directory key id found
    exact ⟨Catalog.contains_insertNew.mpr (Or.inl node), eq⟩
  directories := h.directories

/-- A directory gets an entry with its node, or has one. -/
theorem addDirectory {m : Made α} (h : Indexed files directories m.state) (segments : List String) :
    Indexed files (directories ++ [segments]) (BuildState.addDirectory fs m segments).state := by
  rw [BuildState.addDirectory]
  split
  · next known =>
      refine { h with directories := ?_ }
      intro segments' mem
      rcases List.mem_append.mp mem with old | new
      · exact h.directories segments' old
      · obtain rfl := List.mem_singleton.mp new
        exact known
  · have added := h.addNode (directoryNode fs m.state.workspace segments)
    refine { added with directory := ?_, directories := ?_ }
    · intro key id found
      rcases lookup_concat_eq_some found with old | ⟨rfl, rfl⟩
      · exact added.directory key id old
      · exact ⟨Catalog.contains_insertNew.mpr (Or.inr rfl), rfl⟩
    · intro segments' mem
      refine isSome_lookup_concat ?_
      rcases List.mem_append.mp mem with old | new
      · exact Or.inl (h.directories segments' old)
      · obtain rfl := List.mem_singleton.mp new
        exact Or.inr rfl

/-- So do the directories on the way to a file, -/
theorem addDirectories (chain : List (List String)) {m : Made α} {directories : List (List String)}
    (h : Indexed files directories m.state) :
    Indexed files (directories ++ chain)
      (chain.foldl (BuildState.addDirectory fs) m).state := by
  induction chain generalizing m directories with
  | nil => simpa using h
  | cons segments rest ih => simpa using ih (h.addDirectory segments)

/-- and the file itself, if it has no entry yet. -/
theorem addFile {m m' : Made α} {group : Path × List Entity}
    (h : Indexed files directories m.state)
    (unknown : m.state.fileIds.lookup group.1.text = none)
    (made : BuildState.addFile fs m group = .ok m') :
    Indexed (files ++ [group.1])
      (directories ++ BuildState.directoryChain (group.1.relativeTo m.state.workspace)) m'.state := by
  -- A file whose text is known would be passed over, and its directories with it.
  rw [BuildState.addFile, if_neg (by simp [unknown])] at made
  obtain ⟨node, hnode, rfl⟩ := map_eq_ok_iff.mp made
  have added := h.addNode node
  refine addDirectories _ { added with file := ?_, files := ?_ }
  · intro key id found
    rcases lookup_concat_eq_some found with old | ⟨rfl, rfl⟩
    · obtain ⟨contained, path, mem, rest⟩ := added.file key id old
      exact ⟨contained, path, List.mem_append_left _ mem, rest⟩
    · refine ⟨Catalog.contains_insertNew.mpr (Or.inr rfl), group.1, by simp, rfl, ?_⟩
      exact (fileNode_shape hnode).1
  · intro path mem
    refine isSome_lookup_concat ?_
    rcases List.mem_append.mp mem with old | new
    · exact Or.inl (h.files path old)
    · obtain rfl := List.mem_singleton.mp new
      exact Or.inr rfl

/-- Entities are in no table. -/
theorem addEntity {m : Made α} (h : Indexed files directories m.state) (e : Entity) :
    Indexed files directories (BuildState.addEntity m e).state := by
  rw [BuildState.addEntity]
  split
  · exact h
  · exact { h.addNode (entityNode m.state e) with }

/-- The same for several entities. -/
theorem addEntities (more : List Entity) {m : Made α} (h : Indexed files directories m.state) :
    Indexed files directories (more.foldl BuildState.addEntity m).state := by
  induction more generalizing m with
  | nil => exact h
  | cons e rest ih => exact ih (h.addEntity e)

end Indexed

/-! ## The files of some entities -/

/-- The files of some entities, in first-seen order, each with the entities that stand in it. -/
theorem byFile_eq (s : BuildState α) (entities : List Entity) :
    s.byFile entities = (distinct (entities.map fun e => s.absolutePath e.filePath)).map
      fun path => (path, entities.filter fun e => s.absolutePath e.filePath == path) := by
  simp only [BuildState.byFile, List.map_map, List.filter_map]
  simp [Function.comp_def]

/-- A file is there for every entity, and has all entities that stand in it. -/
theorem mem_byFile {s : BuildState α} {entities : List Entity} {path : Path}
    {members : List Entity} :
    (path, members) ∈ s.byFile entities ↔ (∃ e ∈ entities, s.absolutePath e.filePath = path) ∧
      members = entities.filter fun e => s.absolutePath e.filePath == path := by
  rw [byFile_eq, List.mem_map]
  constructor
  · rintro ⟨path', mem, eq⟩
    obtain ⟨rfl, rfl⟩ := Prod.mk.inj eq
    exact ⟨by simpa using mem_distinct.mp mem, rfl⟩
  · rintro ⟨given, eq⟩
    exact ⟨path, mem_distinct.mpr (by simpa using given), by rw [eq]⟩

/-- The paths of the files are the distinct paths of the entities, -/
theorem map_fst_byFile (s : BuildState α) (entities : List Entity) :
    (s.byFile entities).map Prod.fst = distinct (entities.map fun e => s.absolutePath e.filePath) := by
  rw [byFile_eq, List.map_map]
  exact List.map_id _

/-- so that there is one for each entity. -/
theorem mem_paths_byFile {s : BuildState α} {entities : List Entity} {path : Path} :
    path ∈ (s.byFile entities).map Prod.fst ↔ ∃ e ∈ entities, s.absolutePath e.filePath = path := by
  rw [map_fst_byFile, mem_distinct, List.mem_map]

/-- Files whose paths are plain are told apart by the texts of their paths. -/
theorem nodup_text_byFile {s : BuildState α} {entities : List Entity}
    (plain : ∀ e ∈ entities, Path.Plain (s.absolutePath e.filePath).segments) :
    ((s.byFile entities).map fun g => g.1.text).Nodup := by
  have texts : ((s.byFile entities).map fun g => g.1.text)
      = (distinct (entities.map fun e => s.absolutePath e.filePath)).map Path.text := by
    rw [← map_fst_byFile, List.map_map]
    rfl
  have paths : ∀ p ∈ distinct (entities.map fun e => s.absolutePath e.filePath),
      Path.Plain p.segments := by
    intro p mem
    obtain ⟨e, he, rfl⟩ := List.mem_map.mp (mem_distinct.mp mem)
    exact plain e he
  rw [texts]
  exact List.Nodup.map_on (fun p hp q hq eq => Path.text_inj (paths p hp) (paths q hq) eq)
    (nodup_distinct _)

/-! ## A whole run -/

/-- A state in which nothing has been made yet.  A build starts from one, with a workspace and the file maps. -/
structure Fresh (s : BuildState α) : Prop where
  nodes : s.nodes = .empty
  edges : s.edges = .empty
  placed : s.placed = []
  fileIds : s.fileIds = []
  directoryIds : s.directoryIds = []

/-- The state that a build starts from is one. -/
theorem Builder.fresh_initialState (b : Builder α) (imports exports : FileMap) :
    Fresh (b.initialState imports exports) := ⟨rfl, rfl, rfl, rfl, rfl⟩

/-- The directories above some files, as the lists of their segments in the workspace. -/
def directoriesAbove (workspace : Path) (groups : List (Path × List Entity)) : List (List String) :=
  groups.flatMap fun g => BuildState.directoryChain (g.1.relativeTo workspace)

section Run

variable {s₀ : BuildState α}

/-- Nothing has grown at the start, -/
theorem Fresh.grown (fresh : Fresh s₀) : Grown fs s₀ [] [] s₀ where
  workspace := rfl
  imports := rfl
  exports := rfl
  edges := rfl
  origin n mem := by simp [fresh.nodes, Catalog.empty] at mem
  placed := by rw [fresh.placed]; rfl
  elements := by rw [BuildState.nodesOf, fresh.nodes, fresh.placed]; rfl
  registered e mem := by cases mem

/-- and there is nothing to look up but the project. -/
theorem Fresh.indexed (fresh : Fresh s₀) {n : Node} (id : n.id = projectId) :
    Indexed [] [] (s₀.addNode n) where
  project := Catalog.contains_insertNew.mpr (Or.inr id)
  file key id found := by simp [BuildState.addNode, fresh.fileIds] at found
  files path mem := by cases mem
  directory key id found := by simp [BuildState.addNode, fresh.directoryIds] at found
  directories segments mem := by cases mem

/-- What holds once the nodes of some files have been made: both invariants, for these files and the directories above
them, and for no entities yet. -/
structure FilesMade (fs : FileSystem) (s₀ : BuildState α) (groups : List (Path × List Entity))
    (m : Made α) : Prop where
  /-- Everything has its origin in these files, -/
  grown : Grown fs s₀ groups [] m.state
  /-- and all of them can be looked up, with the directories above them. -/
  indexed : Indexed (groups.map Prod.fst) (directoriesAbove s₀.workspace groups) m.state

/-- A file that comes after other files has no entry yet. -/
theorem FilesMade.unknown {front back : List (Path × List Entity)} {group : Path × List Entity}
    {m : Made α} (h : FilesMade fs s₀ front m)
    (texts : ((front ++ group :: back).map fun g => g.1.text).Nodup) :
    m.state.fileIds.lookup group.1.text = none := by
  by_contra known
  obtain ⟨id, found⟩ := Option.ne_none_iff_exists'.mp known
  obtain ⟨-, path, mem, eq, -⟩ := h.indexed.file _ _ found
  obtain ⟨other, before, rfl⟩ := List.mem_map.mp mem
  rw [List.map_append, List.map_cons, List.nodup_append] at texts
  exact texts.2.2 _ (List.mem_map_of_mem before) _ List.mem_cons_self eq

/-- **Taking up a file keeps both invariants**, for one file more. -/
theorem FilesMade.addFile {front back : List (Path × List Entity)} {group : Path × List Entity}
    {m m' : Made α} (h : FilesMade fs s₀ front m)
    (texts : ((front ++ group :: back).map fun g => g.1.text).Nodup)
    (made : BuildState.addFile fs m group = .ok m') : FilesMade fs s₀ (front ++ [group]) m' where
  grown := h.grown.addFile made
  indexed := by
    have added := h.indexed.addFile (h.unknown texts) made
    rw [h.grown.workspace] at added
    simpa [directoriesAbove] using added

/-- A file that comes after other files can be taken up iff its node can be made. -/
theorem FilesMade.exists_addFile_iff {front back : List (Path × List Entity)}
    {group : Path × List Entity} {m : Made α} (h : FilesMade fs s₀ front m)
    (texts : ((front ++ group :: back).map fun g => g.1.text).Nodup) :
    (∃ m', BuildState.addFile fs m group = .ok m')
      ↔ ∃ n, fileNode fs s₀ group.1 group.2 = .ok n := by
  rw [BuildState.addFile, if_neg (by simp [h.unknown texts]), exists_map_eq_ok_iff,
    fileNode_congr h.grown.workspace h.grown.imports h.grown.exports]

/-- What the nodes and tables of a build hold once they have been made.  All later results about nodes come from here.
-/
structure Populated (fs : FileSystem) (s₀ : BuildState α) (entities : List Entity)
    (s : BuildState α) : Prop where
  /-- Everything has its origin in the entities and their files, -/
  grown : Grown fs s₀ (s₀.byFile entities) entities s
  /-- and all files and directories can be looked up. -/
  indexed : Indexed ((s₀.byFile entities).map Prod.fst)
    (directoriesAbove s₀.workspace (s₀.byFile entities)) s

variable {entities : List Entity}

/-- Before the first file there is the node of the project. -/
theorem filesMade_start (fresh : Fresh s₀) {n : Node} (made : projectNode fs s₀.workspace = .ok n) :
    FilesMade fs s₀ [] { state := s₀.addNode n } where
  grown := fresh.grown.addNode (.project made) (by simp [(projectNode_shape made).2.1])
  indexed := fresh.indexed (projectNode_shape made).1

/-- The nodes have been made when the node of the project has, every file has been gone through, and the
entities are placed. -/
theorem makeNodes_eq_ok_iff {s : BuildState α} :
    Builder.makeNodes fs s₀ entities = .ok s ↔
      ∃ n m, projectNode fs s₀.workspace = .ok n ∧
        runUntilFault (BuildState.addFile fs) { state := s₀.addNode n } (s₀.byFile entities)
          = (m, none) ∧ (m.state.addEntities entities).state = s := by
  simp only [Builder.makeNodes, BuildState.addProject, bind_eq_ok_iff, map_eq_ok_iff]
  constructor
  · rintro ⟨s₁, ⟨project, hproject, rfl⟩, made⟩
    split at made
    · next m run => exact ⟨project, m, hproject, run, Except.ok.inj made⟩
    · cases made
  · rintro ⟨project, m, hproject, run, rfl⟩
    have files : (s₀.addNode project).addFiles fs entities = (m, none) := run
    refine ⟨_, ⟨project, hproject, rfl⟩, ?_⟩
    rw [files]
    rfl

/-- **Where everything comes from** once the nodes have been made, whatever the paths of the files are. -/
theorem makeNodes_grown (fresh : Fresh s₀) {s : BuildState α}
    (made : Builder.makeNodes fs s₀ entities = .ok s) :
    Grown fs s₀ (s₀.byFile entities) entities s := by
  obtain ⟨project, m, hproject, run, rfl⟩ := makeNodes_eq_ok_iff.mp made
  have start : Grown fs s₀ [] [] (s₀.addNode project) :=
    fresh.grown.addNode (.project hproject) (by simp [(projectNode_shape hproject).2.1])
  have files : Grown fs s₀ (s₀.byFile entities) [] m.state :=
    runUntilFault_invariant (fun front (m : Made α) => Grown fs s₀ front [] m.state) [] _
      (fun front b back u u' _ holds step => holds.addFile step) start run
  exact Grown.addEntities entities (m := { state := m.state }) files

/-- **What making the nodes brings about**, where files are told apart by the texts of their paths.  By `FilesMade`
after each file, and then by the entities, which leave the tables alone. -/
theorem makeNodes_populated (fresh : Fresh s₀)
    (plain : ∀ e ∈ entities, Path.Plain (s₀.absolutePath e.filePath).segments)
    {s : BuildState α} (made : Builder.makeNodes fs s₀ entities = .ok s) :
    Populated fs s₀ entities s := by
  obtain ⟨project, m, hproject, run, rfl⟩ := makeNodes_eq_ok_iff.mp made
  -- No two files share a text, so that every file is new when its turn comes.
  have texts := nodup_text_byFile plain
  have files : FilesMade fs s₀ (s₀.byFile entities) m :=
    runUntilFault_invariant (FilesMade fs s₀) [] _
      (fun front b back u u' all holds step => holds.addFile (by rwa [all]) step)
      (filesMade_start fresh hproject) run
  exact ⟨Grown.addEntities entities (m := { state := m.state }) files.grown,
    Indexed.addEntities entities (m := { state := m.state }) files.indexed⟩

/-- **When the nodes can be made**: the node of the project can be, and that of every file.  Nothing that has been
made before keeps a file from being taken up, so that each of them may be looked at by itself. -/
theorem exists_makeNodes_iff (fresh : Fresh s₀)
    (plain : ∀ e ∈ entities, Path.Plain (s₀.absolutePath e.filePath).segments) :
    (∃ s, Builder.makeNodes fs s₀ entities = .ok s)
      ↔ (∃ n, projectNode fs s₀.workspace = .ok n)
        ∧ ∀ group ∈ s₀.byFile entities, ∃ n, fileNode fs s₀ group.1 group.2 = .ok n := by
  have texts := nodup_text_byFile plain
  have finishes : ∀ {project : Node}, projectNode fs s₀.workspace = .ok project →
      ((∃ m, runUntilFault (BuildState.addFile fs) { state := s₀.addNode project }
          (s₀.byFile entities) = (m, none))
        ↔ ∀ group ∈ s₀.byFile entities, ∃ n, fileNode fs s₀ group.1 group.2 = .ok n) :=
    fun hproject => runUntilFault_finishes_iff (FilesMade fs s₀) _ [] (s₀.byFile entities)
      (fun front b back u u' all holds step => holds.addFile (by rwa [all]) step)
      (fun front b back u all holds => holds.exists_addFile_iff (by rwa [all]))
      (filesMade_start fresh hproject)
  simp only [makeNodes_eq_ok_iff]
  constructor
  · rintro ⟨s, project, m, hproject, run, -⟩
    exact ⟨⟨project, hproject⟩, (finishes hproject).mp ⟨m, run⟩⟩
  · rintro ⟨⟨project, hproject⟩, all⟩
    obtain ⟨m, run⟩ := (finishes hproject).mpr all
    exact ⟨_, project, m, hproject, run, rfl⟩

end Run

end CodeAtlas
