import CodeAtlas.Proofs.Containment
import CodeAtlas.Proofs.EntityIds

/-!
# Exactly which nodes a build has

A build has one node for the project, one for the file of each entity that it places, one for each directory on the
way to such a file, and one for each entity, under ids that are made of their paths; and it has no others
(`Builder.nodes_exact`).

The directories are told here by the texts of the paths alone: a directory lies above what goes on behind it with a
slash (`Path.Above`).  They are made from lists of segments that grow by one.  As the segments are those between the
slashes of the text, the two are the same (`Path.above_text_iff`).

## Outline

The texts are compared with lists of segments first, without a build (`Path.above_text_iff`).  Of a build two things
are needed: where each node comes from, which gives that no node is there without need (`Built.needs_of_mem`), and
that what an entity needs has been made and can be looked up, which gives the converse (`Built.contains_of_needs`).
Both are read off the invariants `Grown` and `Indexed`.
-/

namespace CodeAtlas

namespace Path

/-- A directory is above what goes on behind it with a slash. -/
def Above (directory path : String) : Prop := directory ≠ "" ∧ ∃ rest, path = directory ++ "/" ++ rest

/-- Segments that go on lead below a directory. -/
theorem above_intercalate_append {front back : List String} (plain : Plain front) (ne : front ≠ [])
    (more : back ≠ []) : Above ("/".intercalate front) ("/".intercalate (front ++ back)) :=
  ⟨plain.intercalate_ne_empty ne, "/".intercalate back, String.intercalate_append_of_ne_nil ne more⟩

/-- **What is above the text of plain segments** is the text of a front of them, for the slash behind it stands
between two segments. -/
theorem exists_append_of_above {segments : List String} (plain : Plain segments) (ne : segments ≠ []) {d : String}
    (above : Above d ("/".intercalate segments)) :
    ∃ front back, segments = front ++ back ∧ front ≠ [] ∧ back ≠ [] ∧ "/".intercalate front = d := by
  obtain ⟨-, rest, text⟩ := above
  have parts : segments.map String.toList = d.toList.splitOn '/' ++ rest.toList.splitOn '/' := by
    rw [← splitOn_intercalate plain ne, text, ← List.splitOn_append_cons_self]
    simp
  obtain ⟨front, back, rfl, hfront, hback⟩ := List.map_eq_append_iff.mp parts
  refine ⟨front, back, rfl, ?_, ?_, ?_⟩
  · rintro rfl
    exact List.splitOn_ne_nil _ _ hfront.symm
  · rintro rfl
    exact List.splitOn_ne_nil _ _ hback.symm
  · rw [← String.toList_inj, String.toList_intercalate, hfront]
    exact List.intercalate_splitOn '/'

/-- The directories on the way to a file are the fronts of its segments that leave something over. -/
theorem mem_directoryChain_iff_append {file : Path} {front : List String} :
    front ∈ BuildState.directoryChain file ↔ front ≠ [] ∧ ∃ back, back ≠ [] ∧ file.segments = front ++ back := by
  rw [mem_directoryChain]
  refine and_congr_right fun ne => ⟨?_, ?_⟩
  · rintro ⟨rest, eq⟩
    rcases List.eq_nil_or_concat' file.segments with nil | ⟨all, last, concat⟩
    · rw [nil] at eq
      exact absurd (List.append_eq_nil_iff.mp eq).1 ne
    · rw [concat, List.dropLast_concat] at eq
      exact ⟨rest ++ [last], by simp, by rw [concat, ← eq, List.append_assoc]⟩
  · rintro ⟨back, more, eq⟩
    rw [eq, List.dropLast_append_of_ne_nil more]
    exact List.prefix_append _ _

/-- **The directories above a file** are those of its chain.  One direction puts texts together; for the other the
text of a plain path is cut at a slash, which can only be one between two segments. -/
theorem above_text_iff {segments : List String} (plain : Plain segments) {d : String} :
    Above d (⟨.none, segments⟩ : Path).text ↔
      ∃ front ∈ BuildState.directoryChain ⟨.none, segments⟩, "/".intercalate front = d := by
  simp only [mem_directoryChain_iff_append]
  constructor
  · intro above
    by_cases nil : segments = []
    · -- The workspace itself is written as a dot, and nothing is above it.
      subst nil
      obtain ⟨-, rest, text⟩ := above
      have slash : '/' ∈ (⟨.none, []⟩ : Path).text.toList := by
        rw [text]
        simp
      exact absurd slash (by decide)
    · rw [text_eq_intercalate nil] at above
      obtain ⟨front, back, eq, ne, more, rfl⟩ := exists_append_of_above plain nil above
      exact ⟨front, ⟨ne, back, more, eq⟩, rfl⟩
  · rintro ⟨front, ⟨ne, back, more, eq⟩, rfl⟩
    obtain rfl : segments = front ++ back := eq
    rw [text_eq_intercalate (List.append_ne_nil_of_left_ne_nil ne back)]
    exact above_intercalate_append (plain_append.mp plain).1 ne more

end Path

/-- The ids that an entity in a workspace has nodes made under. -/
inductive Entity.Needs (workspace : Path) (e : Entity) : String → Prop
  | file : Needs workspace e ("file:" ++ e.pathIn workspace)
  | directory {d : String} (above : Path.Above d (e.pathIn workspace)) : Needs workspace e ("dir:" ++ d)
  | element : Needs workspace e (Builder.idOf workspace e)

/-- What the node of a directory says of its place in a workspace, in which it is above some file. -/
structure Node.StandsFor (workspace : Path) (nodes : List Node) (directory : String) (n : Node) : Prop where
  id : n.id = "dir:" ++ directory
  relativePath : n.relativePath = some directory
  /-- Its level is the number of its segments, so that the directories at the top are on the first one. -/
  level : n.level = .int (Path.parse directory).segments.length
  /-- Its absolute path is that of the directory in the workspace. -/
  absolutePath : n.absolutePath = some (workspace.join (Path.parse directory)).text
  /-- Some file of the graph lies below it. -/
  file : ∃ f ∈ nodes, f.kind = .file ∧ ∃ path, f.relativePath = some path ∧ Path.Above directory path

namespace Builder

variable {α : Type} {b : Builder α} {fs : FileSystem} {now : String} {input : BuildInput}
  {imports exports : FileMap} {s u : BuildState α} {g : Graph α} {e : Entity}

/-- The directories above the file of a placed entity are those of its chain. -/
theorem above_pathIn_iff (absolute : b.workspace.isAbsolute = true)
    (mem : e ∈ placedEntities b.workspace input.sources) {d : String} :
    Path.Above d (e.pathIn b.workspace) ↔ ∃ segments ∈ BuildState.directoryChain
      ((b.workspace.absolute e.filePath).relativeTo b.workspace), "/".intercalate segments = d :=
  Path.above_text_iff ((plain_of_mem_placedEntities absolute e mem).relativeTo _)

variable [Scalar α]

/-- **No node is there that no entity needs**, but for the project.  By the origin of the node. -/
theorem Built.needs_of_mem (built : Built b fs now input imports exports s u g)
    (absolute : b.workspace.isAbsolute = true) {n : Node} (mem : n ∈ s.nodes.toList) :
    n.id = projectId ∨
      ∃ e ∈ placedEntities b.workspace input.sources, e.Needs b.workspace n.id := by
  cases built.grown.origin n mem with
  | project made => exact Or.inl (projectNode_shape made).1
  | @file group _ given made =>
      obtain ⟨⟨e, placed, eq⟩, -⟩ := mem_byFile.mp given
      rw [(fileNode_shape made).1, ← eq]
      exact Or.inr ⟨e, placed, .file⟩
  | @directory group segments given chain =>
      obtain ⟨⟨e, placed, eq⟩, -⟩ := mem_byFile.mp given
      rw [← eq] at chain
      have above := (above_pathIn_iff absolute placed).mpr ⟨segments, chain, rfl⟩
      exact Or.inr ⟨e, placed, .directory above⟩
  | element given => exact Or.inr ⟨_, given, .element⟩

/-- **What a placed entity needs is there.**  Its file and the directories above it have entries in the tables, and an
entry leads to a node; the entity itself is registered. -/
theorem Built.contains_of_needs (built : Built b fs now input imports exports s u g)
    (absolute : b.workspace.isAbsolute = true) (mem : e ∈ placedEntities b.workspace input.sources)
    {id : String} (needs : e.Needs b.workspace id) : s.nodes.contains id = true := by
  have populated := built.populated absolute
  cases needs with
  | file =>
      obtain ⟨n, found, id⟩ := populated.fileNode? (plain_of_mem_placedEntities absolute) mem
      obtain ⟨-, -, -, -, there⟩ := populated.exists_entity_of_fileNode? found
      rwa [id] at there
  | directory above =>
      obtain ⟨segments, chain, rfl⟩ := (above_pathIn_iff absolute mem).mp above
      obtain ⟨n, found, id⟩ := populated.directoryNode? (mem_byFile.mpr ⟨⟨e, mem, rfl⟩, rfl⟩) chain
      obtain ⟨key, there⟩ := find?_of_registered? found
      rw [← id, Catalog.contains_eq_true_iff]
      exact List.mem_map_of_mem (Catalog.find?_eq_some_iff.mp there).1
  | element => exact built.grown.registered e mem

/-- The file of a placed entity has its node, which says where it is. -/
theorem Built.exists_file (built : Built b fs now input imports exports s u g)
    (absolute : b.workspace.isAbsolute = true) (mem : e ∈ placedEntities b.workspace input.sources) :
    ∃ f ∈ s.nodes.toList, f.kind = .file ∧ f.relativePath = some (e.pathIn b.workspace) := by
  have there := built.contains_of_needs absolute mem .file
  obtain ⟨f, node, id⟩ := List.mem_map.mp (Catalog.contains_eq_true_iff.mp there)
  exact ⟨f, node, (built.shape absolute node).file_of_id id⟩

/-- **The node of a directory** says where it is, and a file is below it.  It has been made for a file, which is that
of an entity and has a node. -/
theorem Built.standsFor_of_mem (built : Built b fs now input imports exports s u g)
    (absolute : b.workspace.isAbsolute = true) {n : Node} (mem : n ∈ s.nodes.toList)
    (kind : n.kind = .directory) : ∃ d, n.StandsFor b.workspace s.nodes.toList d := by
  cases built.grown.origin n mem with
  | project made => simp [(projectNode_shape made).2.1] at kind
  | file _ made => simp [(fileNode_shape made).2.1] at kind
  | element => simp [entityNode] at kind
  | @directory group segments given chain =>
      obtain ⟨⟨e, placed, eq⟩, -⟩ := mem_byFile.mp given
      rw [← eq] at chain
      have above := (above_pathIn_iff absolute placed).mpr ⟨segments, chain, rfl⟩
      obtain ⟨f, node, file, path⟩ := built.exists_file absolute placed
      have read := Path.parse_intercalate (plain_of_mem_directoryChain
        ((plain_of_mem_placedEntities absolute e placed).relativeTo _) chain)
      refine ⟨_, rfl, rfl, ?_, ?_, f, node, file, _, path, above⟩
      · rw [read]
        rfl
      · rw [read]
        rfl

/-! ## All nodes -/

/-- Which nodes a graph has after a build: under which ids, each once, and what those of directories show. -/
structure ExactNodes (b : Builder α) (input : BuildInput) (g : Graph α) : Prop where
  /-- No two nodes have one id. -/
  nodup : (g.nodes.map Node.id).Nodup
  /-- There is a node for the project, one for whatever an entity needs, and no other one. -/
  ids : ∀ id, id ∈ g.nodes.map Node.id ↔
    id = projectId ∨ ∃ e ∈ placedEntities b.workspace input.sources, e.Needs b.workspace id
  /-- The node of a directory says where it is. -/
  directories : ∀ n ∈ g.nodes, n.kind = .directory → ∃ d, n.StandsFor b.workspace g.nodes d

/-- **Exactly what the placed entities need has nodes**, besides the project.  Setting up a builder makes its
workspace absolute (`Path.isAbsolute_absolute`).  Where a node comes from (`Grown`) and what can be looked up
(`Indexed`) are the two directions. -/
theorem nodes_exact (absolute : b.workspace.isAbsolute = true) (h : b.build fs now input = .ok g) :
    ExactNodes b input g := by
  obtain ⟨imports, exports, s, u, built⟩ := build_eq_ok_iff.mp h
  have nodes := built.nodes_made
  refine ⟨?_, fun id => ?_, ?_⟩
  · rw [nodes]
    exact s.nodes.nodup
  · rw [nodes]
    constructor
    · intro mem
      obtain ⟨n, node, rfl⟩ := List.mem_map.mp mem
      exact built.needs_of_mem absolute node
    · rw [← Catalog.contains_eq_true_iff]
      rintro (rfl | ⟨e, mem, needs⟩)
      · exact (built.populated absolute).indexed.project
      · exact built.contains_of_needs absolute mem needs
  · rw [nodes]
    exact fun n mem kind => built.standsFor_of_mem absolute mem kind

/-- Functions in three files, one of them right in the workspace, and two on one way down. -/
def nestedInput : BuildInput where
  sources := ["src/a.ts", "src/lib/b.ts", "c.ts"].map fun filePath =>
    .record (sampleRecord filePath "f" .null)

/-- Three files, and the two directories above them. -/
theorem nodes_exact_of_nested_files :
    let b := sample Rat .connectivity
    b.workspace.isAbsolute = true ∧
      ∃ g, b.build (FileSystem.empty ⟨.single, []⟩) "" nestedInput = .ok g ∧ ExactNodes b nestedInput g ∧
        (g.nodes.filter (·.kind == .directory)).map Node.id = ["dir:src", "dir:src/lib"] := by
  intro b
  have finishes : (b.build (FileSystem.empty ⟨.single, []⟩) "" nestedInput).toOption.any (fun g =>
      (g.nodes.filter (·.kind == .directory)).map Node.id == ["dir:src", "dir:src/lib"]) = true := by
    decide +kernel
  obtain ⟨g, h, directories⟩ := exists_ok_of_any_toOption finishes
  exact ⟨by decide, g, h, nodes_exact (by decide) h, by simpa using directories⟩

end Builder

end CodeAtlas
