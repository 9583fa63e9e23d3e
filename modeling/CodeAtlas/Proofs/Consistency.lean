import CodeAtlas.Proofs.Nodes
import CodeAtlas.Proofs.Stages

/-!
# Whatever is done to the state of a build

A build takes its steps in one order, but the steps do not depend on it.  `Operation` lists all that can be done
to the state of a build: its steps, with any file system, entities and filters, and the addition of single nodes
and edges from elsewhere.  An operation may fail half-way, and then the state is what it has left so far.

`Consistent` is what holds all the same, however operations follow each other.  It ties the containers of a
state together: edges join nodes, a placed entity has its own node, and an entry of a table leads to a node under
the id that its key calls for.  That node may be one from elsewhere that has taken the id before.

Every operation keeps it (`Consistent.apply`), and hence every run does (`Consistent.after`).  For the table of
files this rests on the way in which paths are read: the key of a file names the file itself
(`Path.absolute_absolute`).
-/

namespace CodeAtlas

variable {α : Type}

/-- Something that is done to the state of a build, with all that it is given. -/
inductive Operation (α : Type) where
  | project (fs : FileSystem)
  | files (fs : FileSystem) (given : List Entity)
  | entities (given : List Entity)
  /-- a node from elsewhere, which may take any id -/
  | node (n : Node)
  | edge (filters : Filters α) (e : Edge α)
  | relate (around : Surroundings α) (r : Relation)
  | relateAll (around : Surroundings α)
  | fileMaps (imports exports : FileMap)

/-- The state that an operation leaves, whether or not it meets a fault. -/
def Operation.apply [Scalar α] (s : BuildState α) : Operation α → BuildState α
  | project fs =>
    match s.addProject fs with
    | .ok made => made
    | .error _ => s
  | files fs given => (s.addFiles fs given).1.state
  | entities given => (s.addEntities given).state
  | node n => s.addNode n
  | edge filters e => (BuildState.offer filters (s, 0) e).1
  | relate around r => (BuildState.relate around r s).1
  | relateAll around => (s.relateAll around).1
  | fileMaps imports exports => { s with imports, exports }

/-- The state after a run of operations. -/
def BuildState.after [Scalar α] (s : BuildState α) (operations : List (Operation α)) : BuildState α :=
  operations.foldl Operation.apply s

/-- The containers of a state fit together.  This is the invariant of all operations, and so it says nothing that only
a build would give: a node may come from elsewhere, and a table may lack entries that a build would make. -/
structure Consistent (workspace : Path) (s : BuildState α) : Prop where
  /-- The workspace is that of the builder. -/
  workspace : s.workspace = workspace
  /-- Edges join nodes. -/
  ends : ∀ e ∈ s.edges.toList,
    s.nodes.contains e.source = true ∧ s.nodes.contains e.target = true
  /-- A placed entity has its own node. -/
  placed : ∀ p ∈ s.placed, s.nodes.find? p.nodeId = some (entityNode s p.entity)
  /-- No node is that of two placed entities. -/
  nodup : (s.placed.map (·.nodeId)).Nodup
  /-- An entry for a file leads to a node, under the id of the file that its key names. -/
  file : ∀ key id, (key, id) ∈ s.fileIds →
    id = "file:" ++ (s.relativePath key).text ∧ s.nodes.contains id = true
  /-- An entry for a directory leads to a node, under the id of the directory. -/
  directory : ∀ key id, (key, id) ∈ s.directoryIds →
    id = "dir:" ++ key ∧ s.nodes.contains id = true
  /-- The directory above a directory has an entry too. -/
  above : ∀ key ∈ s.directoryIds.map Prod.fst, Path.directoryOf key ≠ "" →
    Path.directoryOf key ∈ s.directoryIds.map Prod.fst

/-- A table has an entry for a key if the key is among its keys. -/
theorem isSome_lookup_iff {ids : List (String × String)} {key : String} :
    (ids.lookup key).isSome = true ↔ key ∈ ids.map Prod.fst := by
  rw [List.lookup_isSome_iff, List.mem_map]
  refine exists_congr fun p => and_congr_right fun _ => ?_
  rw [beq_iff_eq, eq_comm]

namespace Consistent

variable {workspace : Path} {s t : BuildState α} {fs : FileSystem}

/-- Nothing fits together better than nothing: a state with a workspace and nothing else. -/
theorem start (workspace : Path) : Consistent workspace ({ workspace } : BuildState α) where
  workspace := rfl
  ends _ mem := nomatch mem
  placed _ mem := nomatch mem
  nodup := List.nodup_nil
  file _ _ mem := nomatch mem
  directory _ _ mem := nomatch mem
  above _ mem := nomatch mem

/-- The node of a placed entity is there. -/
theorem contains (h : Consistent workspace s) {p : Placed} (mem : p ∈ s.placed) :
    s.nodes.contains p.nodeId = true := by
  obtain ⟨there, id⟩ := Catalog.find?_eq_some_iff.mp (h.placed p mem)
  exact Catalog.contains_eq_true_iff.mpr (List.mem_map.mpr ⟨_, there, id⟩)

/-- The ids of the placed entities, in order, are those of their nodes. -/
theorem ids_placed (h : Consistent workspace s) :
    s.placed.map (·.nodeId) = (s.placed.map (·.entity)).map fun e => (entityNode s e).id := by
  rw [List.map_map]
  refine List.map_congr_left fun p mem => ?_
  exact (Catalog.find?_eq_some_iff.mp (h.placed p mem)).2.symm

/-! ## Nodes -/

/-- A further node, whatever it is, leaves everything in its place: a node that is there is found again, as an id that
is taken is not given to another one. -/
theorem addNode (h : Consistent workspace s) (n : Node) : Consistent workspace (s.addNode n) := by
  have kept : ∀ {id : String}, s.nodes.contains id = true → (s.addNode n).nodes.contains id = true :=
    fun there => Catalog.contains_insertNew.mpr (Or.inl there)
  refine { h with ends := ?_, placed := ?_, file := ?_, directory := ?_ }
  · intro e mem
    exact (h.ends e mem).imp kept kept
  · intro p mem
    exact Catalog.find?_insertNew_of_eq_some (h.placed p mem)
  · intro key id mem
    exact (h.file key id mem).imp_right kept
  · intro key id mem
    exact (h.directory key id mem).imp_right kept

/-- The project is a node like any other. -/
theorem addProject (h : Consistent workspace s) (made : s.addProject fs = .ok t) :
    Consistent workspace t := by
  obtain ⟨n, -, rfl⟩ := map_eq_ok_iff.mp made
  exact h.addNode n

/-- A directory is taken up behind the one above it.  What has to be kept is `above`, and it is why directories are
taken up from the top down: the entry of the one above is there before the new one needs it. -/
theorem addDirectory {m : Made α} (h : Consistent workspace m.state) {front : List String}
    {last : String} (plain : Path.Plain (front ++ [last]))
    (above : front = [] ∨ "/".intercalate front ∈ m.state.directoryIds.map Prod.fst) :
    Consistent workspace (BuildState.addDirectory fs m (front ++ [last])).state ∧
      "/".intercalate (front ++ [last])
        ∈ (BuildState.addDirectory fs m (front ++ [last])).state.directoryIds.map Prod.fst := by
  rw [BuildState.addDirectory]
  split
  · next known => exact ⟨h, isSome_lookup_iff.mp known⟩
  · have added := h.addNode (directoryNode fs m.state.workspace (front ++ [last]))
    refine ⟨{ added with directory := ?_, above := ?_ }, by simp⟩
    · intro key id mem
      rcases List.mem_append.mp mem with old | new
      · exact added.directory key id old
      · obtain ⟨rfl, rfl⟩ := Prod.mk.inj (List.mem_singleton.mp new)
        exact ⟨rfl, Catalog.contains_insertNew.mpr (Or.inr rfl)⟩
    · intro key mem named
      rw [List.map_append, List.mem_append] at mem ⊢
      refine Or.inl ?_
      rcases mem with old | new
      · exact h.above key old named
      · obtain rfl : key = "/".intercalate (front ++ [last]) := by simpa using new
        rw [Path.directoryOf_intercalate plain] at named ⊢
        refine above.resolve_left ?_
        rintro rfl
        exact named rfl

/-- The directories on the way to a file are taken up from the top down, by induction on how many of them have been.
Besides the invariant the induction carries that the last of them has its entry, which is what the next one asks for.
-/
theorem addDirectories {m : Made α} (h : Consistent workspace m.state) {segments : List String}
    (plain : Path.Plain segments) {n : Nat} (le : n ≤ segments.length) :
    let made := ((List.range n).map fun k => segments.take (k + 1)).foldl
      (BuildState.addDirectory fs) m
    Consistent workspace made.state ∧
      (segments.take n = []
        ∨ "/".intercalate (segments.take n) ∈ made.state.directoryIds.map Prod.fst) := by
  induction n with
  | zero => exact ⟨h, Or.inl rfl⟩
  | succ n ih =>
      obtain ⟨before, above⟩ := ih (Nat.le_of_succ_le le)
      have split : segments.take (n + 1) = segments.take n ++ [segments[n]] :=
        List.take_succ_eq_append_getElem le
      have way : Path.Plain (segments.take n ++ [segments[n]]) := by
        rw [← split]
        exact plain.sublist (List.take_sublist _ _)
      rw [List.range_succ, List.map_append, List.foldl_append, List.map_singleton,
        List.foldl_cons, List.foldl_nil, split]
      exact (before.addDirectory way above).imp_right Or.inr

/-- A file is taken up with its directories.  Its entry has the text of the path as its key, and for the invariant
this text must name the path again when it is read in the workspace; it does, since the path is absolute and
normalised. -/
theorem addFile {m m' : Made α} (h : Consistent workspace m.state)
    (absolute : workspace.isAbsolute = true) (plain : Path.Plain workspace.segments)
    {group : Path × List Entity} {filePath : String} (path : group.1 = workspace.absolute filePath)
    (made : BuildState.addFile fs m group = .ok m') : Consistent workspace m'.state := by
  rw [BuildState.addFile] at made
  split at made
  · obtain rfl := Except.ok.inj made
    exact h
  · obtain ⟨node, hnode, rfl⟩ := map_eq_ok_iff.mp made
    have added := h.addNode node
    have registered : Consistent workspace
        { m.state.addNode node with
          fileIds := m.state.fileIds ++ [(group.1.text, node.id)] } := by
      refine { added with file := ?_ }
      intro key id mem
      rcases List.mem_append.mp mem with old | new
      · exact added.file key id old
      · obtain ⟨rfl, rfl⟩ := Prod.mk.inj (List.mem_singleton.mp new)
        refine ⟨?_, Catalog.contains_insertNew.mpr (Or.inr rfl)⟩
        -- Read in the workspace, the text of the path names the path itself.
        have itself : m.state.absolutePath group.1.text = group.1 := by
          rw [BuildState.absolutePath, h.workspace, path, Path.absolute_absolute absolute plain]
        show node.id = "file:" ++ ((m.state.absolutePath group.1.text).relativeTo _).text
        rw [(fileNode_shape hnode).1, itself]
        rfl
    have way : Path.Plain (group.1.relativeTo (m.state.addNode node).workspace).segments.dropLast := by
      refine Path.Plain.sublist ?_ (List.dropLast_sublist _)
      refine Path.Plain.relativeTo ?_ _
      rw [path]
      exact Path.plain_absolute plain _
    exact (addDirectories registered way le_rfl).1

/-- **Files are taken up one by one**, up to one whose node cannot be made.  What has been taken up before it stays,
and is consistent. -/
theorem addFiles (h : Consistent workspace s) (absolute : workspace.isAbsolute = true)
    (plain : Path.Plain workspace.segments) (fs : FileSystem) (given : List Entity) :
    Consistent workspace (s.addFiles fs given).1.state := by
  refine runUntilFault_keeps (fun m : Made α => Consistent workspace m.state) _ ?_ h
  rintro ⟨path, members⟩ mem m m' holds made
  obtain ⟨⟨e, -, rfl⟩, -⟩ := mem_byFile.mp mem
  have path : s.absolutePath e.filePath = workspace.absolute e.filePath := by
    rw [BuildState.absolutePath, h.workspace]
  exact holds.addFile absolute plain path made

/-- An entity is placed if its id is new.  A node from elsewhere that has taken the id before keeps the entity from
being placed, so that a placed entity always finds its own node. -/
theorem addEntity {m : Made α} (h : Consistent workspace m.state) (e : Entity) :
    Consistent workspace (BuildState.addEntity m e).state := by
  rw [BuildState.addEntity]
  split
  · exact h
  · next unknown =>
      have new : m.state.nodes.contains (entityNode m.state e).id = false := by simpa using unknown
      have added := h.addNode (entityNode m.state e)
      refine { added with placed := ?_, nodup := ?_ }
      · intro p mem
        rcases List.mem_append.mp mem with old | this
        · exact added.placed p old
        · obtain rfl := List.mem_singleton.mp this
          exact Catalog.find?_insertNew_self new
      · -- The id is new, and those of the placed entities are taken.
        rw [List.map_append, List.nodup_append]
        refine ⟨h.nodup, by simp, ?_⟩
        intro id old id' this same
        obtain ⟨p, mem, rfl⟩ := List.mem_map.mp old
        obtain rfl : id' = (entityNode m.state e).id := by simpa using this
        exact unknown (same ▸ h.contains mem)

/-- Entities are taken up one by one. -/
theorem addEntities (h : Consistent workspace s) (given : List Entity) :
    Consistent workspace (s.addEntities given).state := by
  unfold BuildState.addEntities
  refine List.foldlRecOn (motive := fun m : Made α => Consistent workspace m.state) given _ h ?_
  exact fun m holds e _ => holds.addEntity e

/-! ## Edges -/

/-- Edges that are offered keep the invariant: those that are taken in join nodes, and nothing else changes. -/
theorem of_adds {new : List (Edge α)} (h : Consistent workspace s) (adds : s.Adds new t) :
    Consistent workspace t := by
  obtain ⟨edges, rfl⟩ : ∃ edges, t = { s with edges } := ⟨_, adds.frame⟩
  refine { h with ends := ?_ }
  intro e mem
  rw [adds.edges] at mem
  exact (List.mem_append.mp mem).elim (h.ends e) (adds.ends e)

/-! ## Runs -/

variable [Scalar α]

/-- **Every operation keeps the containers of a state together**, whether or not it meets a fault.  By the kinds of
operations, each with its lemma above; the workspace is asked to be absolute and plain for the keys of files only. -/
theorem apply (h : Consistent workspace s) (absolute : workspace.isAbsolute = true)
    (plain : Path.Plain workspace.segments) (operation : Operation α) :
    Consistent workspace (operation.apply s) := by
  cases operation with
  | project fs =>
      unfold Operation.apply
      dsimp only
      split
      · next made => exact h.addProject made
      · exact h
  | files fs given => exact h.addFiles absolute plain fs given
  | entities given => exact h.addEntities given
  | node n => exact h.addNode n
  | edge filters e =>
      obtain ⟨-, ⟨new, adds, -⟩, -⟩ := BuildState.offered_offer filters (s, 0) e
      exact h.of_adds adds
  | relate around r =>
      obtain ⟨new, adds⟩ := BuildState.adds_relate around r s
      exact h.of_adds adds
  | relateAll around =>
      obtain ⟨new, adds⟩ := BuildState.adds_relateAll around s
      exact h.of_adds adds
  | fileMaps imports exports => exact { h with }

/-- **So does every run of operations**, by induction over the run. -/
theorem after (h : Consistent workspace s) (absolute : workspace.isAbsolute = true)
    (plain : Path.Plain workspace.segments) (operations : List (Operation α)) :
    Consistent workspace (s.after operations) := by
  refine List.foldlRecOn (motive := Consistent workspace) operations _ h ?_
  exact fun t holds operation _ => holds.apply absolute plain operation

end Consistent

/-- **Whatever is done to the state of a build, its containers fit together.**  Nodes and edges are found under
their own ids, and the ids of the placed entities go with the entities one by one. -/
theorem BuildState.consistent_after [Scalar α] {workspace : Path}
    (absolute : workspace.isAbsolute = true) (plain : Path.Plain workspace.segments)
    (operations : List (Operation α)) {s : BuildState α}
    (run : ({ workspace } : BuildState α).after operations = s) :
    Consistent workspace s ∧
      (∀ n ∈ s.nodes.toList, s.nodes.find? n.id = some n) ∧
      (∀ e ∈ s.edges.toList, s.edges.find? e.id = some e) ∧
      s.placed.map (·.nodeId) = (s.placed.map (·.entity)).map fun e => (entityNode s e).id := by
  have consistent : Consistent workspace s := by
    rw [← run]
    exact (Consistent.start workspace).after absolute plain operations
  exact ⟨consistent, fun n mem => Catalog.find?_eq_some_iff.mpr ⟨mem, rfl⟩,
    fun e mem => Catalog.find?_eq_some_iff.mpr ⟨mem, rfl⟩, consistent.ids_placed⟩

namespace Operation

/-- A run in which a node from elsewhere takes the id of a file, and two operations fail: the second file has
no usable path, and the node from elsewhere is a directory without a path. -/
def untidy : List (Operation Rat) :=
  let fs := FileSystem.empty ⟨.single, []⟩
  let around (filters : Filters Rat) : Surroundings Rat := { fs, filters }
  let entity : Entity := { filePath := "src/a.ts", name := "f" }
  [.node { id := "file:src/a.ts", kind := .directory, name := .str "a", absolutePath := none },
    .files fs [entity, { filePath := "lib/\x00.ts", name := "g" }],
    .entities [entity, entity],
    .relate (around .standard) .contains,
    .relateAll (around { Filters.standard with enableContains := false })]

/-- The invariant after a run in which not everything went well. -/
theorem consistent_after_untidy :
    (⟨.single, ["ws"]⟩ : Path).isAbsolute = true ∧ Path.Plain ["ws"] ∧
      ∃ s, ({ workspace := ⟨.single, ["ws"]⟩ } : BuildState Rat).after untidy = s ∧
        Consistent ⟨.single, ["ws"]⟩ s ∧
        s.nodes.toList.map Node.id
          = ["file:src/a.ts", "dir:src", "entity:src/a.ts:function:f:1"] ∧
        s.edges.toList.map Edge.id
          = ["entity:src/a.ts:function:f:1->file:src/a.ts:DEFINED_IN"] ∧
        s.fileIds = [("/ws/src/a.ts", "file:src/a.ts")] ∧ s.directoryIds = [("src", "dir:src")] := by
  have plain : Path.Plain ["ws"] := by
    intro segment mem
    obtain rfl := List.mem_singleton.mp mem
    exact ⟨by decide, by decide, by decide⟩
  refine ⟨rfl, plain, _, rfl, (BuildState.consistent_after rfl plain untidy rfl).1, ?_, ?_, ?_, ?_⟩
  · decide +kernel
  · decide +kernel
  · decide +kernel
  · decide +kernel

end Operation

end CodeAtlas
