import CodeAtlas.Proofs.Counting
import CodeAtlas.Proofs.Figures
import CodeAtlas.Proofs.FileNodes
import CodeAtlas.Proofs.OneCommunity

/-!
# What a file counts and what it contains

A file shows the number of its entities.  The number is fixed when the entities are put together by their files, and
an entity with an id that is taken is only left out later on, when the code elements are made.  So a file counts
repeats that it does not contain.

Containment is exact as long as no path of a file has an arrow in it.  A file then contains the nodes of its retained
entities, and every code element is contained in one file, so that the contents of all files make up the entities of
the whole graph.  `Builder.files_count_placed_entities` says both, and that the two numbers agree exactly when no two
placed entities have one id.  The latter presupposes that a file has one absolute path; two paths that differ in
their roots are one file for the nodes and two for the counts.
-/

namespace CodeAtlas

/-- The number of entities that the node of a file shows. -/
def Node.entitiesCount (n : Node) : Nat :=
  match Members.get? n.properties "entities_count" with
  | some (.int count) => count.toNat
  | _ => 0

/-- The number that is shown is the one that the node was given. -/
theorem entitiesCount_of_get? {n : Node} {count : Nat}
    (h : Members.get? n.properties "entities_count" = some (.int count)) : n.entitiesCount = count := by
  rw [Node.entitiesCount, h]
  exact Int.toNat_natCast count

/-- A file is given the number of the entities that were put together for it. -/
theorem get?_entities_count_fileNode {α : Type} {fs : FileSystem} {s : BuildState α} {path : Path}
    {entities : List Entity} {n : Node} (h : fileNode fs s path entities = .ok n) :
    Members.get? n.properties "entities_count" = some (.int entities.length) := by
  simp only [fileNode, bind_eq_ok_iff] at h
  obtain ⟨figures, -, tags, -, made⟩ := h
  obtain rfl := Except.ok.inj made
  rfl

/-- The code elements that a node contains. -/
def Graph.contents {α : Type} (g : Graph α) (id : String) : List Node :=
  (g.nodesOf .codeElement).filter fun n => (g.containers n.id).contains id

namespace Builder

variable {α : Type}

/-- No two files differ in their roots alone.  Paths with one slash in front and paths with two are read as different
files, and have one path in the workspace, so that their nodes are the same. -/
def OneRoot (b : Builder α) (input : BuildInput) : Prop :=
  ∀ p ∈ b.filePaths input, ∀ q ∈ b.filePaths input, p.segments = q.segments → p.root = q.root

/-- How the counts of the files of a graph compare with their contents.  The first two clauses say what each of the
numbers is; the others, how they come apart when all files are taken together. -/
structure CountsPlaced (b : Builder α) (input : BuildInput) (g : Graph α) : Prop where
  /-- A file counts the entities that are placed under its absolute path, repeats included. -/
  counted : ∀ f ∈ g.nodesOf .file, Members.get? f.properties "entities_count"
    = some (.int ((placedEntities b.workspace input.sources).countP fun e =>
        f.absolutePath == some (b.workspace.absolute e.filePath).text))
  /-- It contains the retained ones that have its path in the workspace. -/
  contained : ∀ f ∈ g.nodesOf .file, (g.contents f.id).length
    = (b.retained input).countP fun e => f.relativePath == some (e.pathIn b.workspace)
  /-- The contents of the files make up the entities of the graph. -/
  total : ((g.nodesOf .file).map fun f => (g.contents f.id).length).sum = g.metadata.totalEntities
  /-- The counts make up the placed entities, -/
  placed : b.OneRoot input →
    ((g.nodesOf .file).map Node.entitiesCount).sum = (placedEntities b.workspace input.sources).length
  /-- so that they make up the entities of the graph iff no two placed ones have one id, -/
  sum_iff : b.OneRoot input → (((g.nodesOf .file).map Node.entitiesCount).sum = g.metadata.totalEntities
    ↔ ((placedEntities b.workspace input.sources).map (idOf b.workspace)).Nodup)
  /-- which is also when every file contains as many as it counts. -/
  each_iff : b.OneRoot input → ((∀ f ∈ g.nodesOf .file, f.entitiesCount = (g.contents f.id).length)
    ↔ ((placedEntities b.workspace input.sources).map (idOf b.workspace)).Nodup)

variable {b : Builder α} {input : BuildInput}

/-! ## Files that are one -/

/-- Files have the same absolute path when their paths are read alike, -/
theorem text_absolute_eq_iff (absolute : b.workspace.isAbsolute = true) {d e : Entity}
    (hd : d ∈ placedEntities b.workspace input.sources) (he : e ∈ placedEntities b.workspace input.sources) :
    (b.workspace.absolute d.filePath).text = (b.workspace.absolute e.filePath).text
      ↔ b.workspace.absolute d.filePath = b.workspace.absolute e.filePath :=
  ⟨Path.text_inj (plain_of_mem_placedEntities absolute d hd) (plain_of_mem_placedEntities absolute e he),
    congrArg Path.text⟩

/-- and with one root they have the same path in the workspace just then. -/
theorem pathIn_eq_iff_of_oneRoot (absolute : b.workspace.isAbsolute = true) (root : b.OneRoot input) {d e : Entity}
    (hd : d ∈ placedEntities b.workspace input.sources) (he : e ∈ placedEntities b.workspace input.sources) :
    d.pathIn b.workspace = e.pathIn b.workspace
      ↔ b.workspace.absolute d.filePath = b.workspace.absolute e.filePath := by
  have resolved := resolved_of_mem_placedEntities absolute input.sources
  rw [Entity.pathIn, Entity.pathIn, Path.text_relativeTo_eq_iff (resolved d hd).plain (resolved e he).plain
    (resolved d hd).noUp (resolved e he).noUp]
  constructor
  · intro segments
    exact Path.ext (root _ (List.mem_map_of_mem hd) _ (List.mem_map_of_mem he) segments) segments
  · exact congrArg Path.segments

/-- As many entities are retained as are placed iff no two placed ones have one id: retaining leaves out what repeats
an id, and nothing else. -/
theorem length_retained_eq_iff :
    (placedEntities b.workspace input.sources).length = (b.retained input).length
      ↔ ((placedEntities b.workspace input.sources).map (idOf b.workspace)).Nodup := by
  constructor
  · intro same
    have all : b.retained input = placedEntities b.workspace input.sources :=
      (distinctBy_sublist _ _).eq_of_length same.symm
    exact all ▸ b.nodup_retained input
  · intro distinct
    rw [retained_eq_of_nodup distinct]

variable [Scalar α] {fs : FileSystem} {now : String}
  {imports exports : FileMap} {s u : BuildState α} {g : Graph α}

/-! ## What a file counts -/

/-- A node of a file is that of a placed entity, and counts all those with its absolute path. -/
theorem Built.exists_placed_of_mem_files (built : Built b fs now input imports exports s u g) {f : Node}
    (mem : f ∈ g.nodesOf .file) : ∃ e ∈ placedEntities b.workspace input.sources,
      f.id = "file:" ++ e.pathIn b.workspace ∧
      f.absolutePath = some (b.workspace.absolute e.filePath).text ∧
      f.relativePath = some (e.pathIn b.workspace) ∧
      Members.get? f.properties "entities_count"
        = some (.int ((placedEntities b.workspace input.sources).countP fun d =>
            b.workspace.absolute d.filePath == b.workspace.absolute e.filePath)) := by
  rw [Graph.nodesOf, built.nodes_made, List.mem_filter, beq_iff_eq] at mem
  obtain ⟨e, given, made⟩ := built.exists_placed_of_file mem.1 mem.2
  obtain ⟨id, -, absolute, relative⟩ := fileNode_shape made
  refine ⟨e, given, id, absolute, relative, ?_⟩
  rw [get?_entities_count_fileNode made, sameFile, List.countP_eq_length_filter]

/-- A file counts the placed entities with its absolute path. -/
theorem Built.counted (built : Built b fs now input imports exports s u g)
    (absolute : b.workspace.isAbsolute = true) {f : Node} (mem : f ∈ g.nodesOf .file) :
    Members.get? f.properties "entities_count"
      = some (.int ((placedEntities b.workspace input.sources).countP fun e =>
          f.absolutePath == some (b.workspace.absolute e.filePath).text)) := by
  obtain ⟨e, given, -, path, -, count⟩ := built.exists_placed_of_mem_files mem
  rw [count, path]
  congr 3
  refine List.countP_congr fun d mem => ?_
  rw [beq_iff_eq, beq_iff_eq, Option.some.injEq, text_absolute_eq_iff absolute given mem]
  exact eq_comm

/-- With one root a file counts the placed entities that have its path in the workspace. -/
theorem Built.entitiesCount_eq (built : Built b fs now input imports exports s u g)
    (absolute : b.workspace.isAbsolute = true) (root : b.OneRoot input) {f : Node} (mem : f ∈ g.nodesOf .file) :
    f.entitiesCount
      = (placedEntities b.workspace input.sources).countP fun e => f.relativePath == some (e.pathIn b.workspace) := by
  obtain ⟨e, given, -, -, path, count⟩ := built.exists_placed_of_mem_files mem
  rw [entitiesCount_of_get? count, path]
  refine List.countP_congr fun d mem => ?_
  rw [beq_iff_eq, beq_iff_eq, Option.some.injEq, pathIn_eq_iff_of_oneRoot absolute root given mem]
  exact eq_comm

/-! ## What a file contains -/

/-- A file contains as many code elements as there are retained entities with its path in the workspace.  Here paths
must have no arrows in them, for otherwise an element might be kept from its file. -/
theorem Built.contained (built : Built b fs now input imports exports s u g)
    (absolute : b.workspace.isAbsolute = true) (enabled : b.filters.enableContains = true)
    (free : ∀ e ∈ placedEntities b.workspace input.sources, ¬ ['-', '>'] <:+: (e.pathIn b.workspace).toList)
    {f : Node} (mem : f ∈ g.nodesOf .file) : (g.contents f.id).length
      = (b.retained input).countP fun e => f.relativePath == some (e.pathIn b.workspace) := by
  obtain ⟨e, -, id, -, path, -⟩ := built.exists_placed_of_mem_files mem
  rw [Graph.contents, built.nodesOf_codeElement, ← List.countP_eq_length_filter, List.countP_map, path, id]
  refine List.countP_congr fun d retained => ?_
  have element : entityNode (b.initialState imports exports) d ∈ s.nodesOf .codeElement :=
    built.elements ▸ List.mem_map_of_mem retained
  obtain ⟨node, kind⟩ := BuildState.mem_nodesOf.mp element
  have container := (built.hung absolute enabled).containers_of_element built.edges
    (built.no_arrow_of_file free) node kind
  rw [Shape.containerOf_element kind rfl] at container
  rw [Function.comp_apply, container]
  show ["file:" ++ d.pathIn b.workspace].contains ("file:" ++ e.pathIn b.workspace) = true ↔ _
  simp

/-! ## All files -/

/-- Every placed entity has one file: that of its own path, and files are told apart by their paths in the workspace.
-/
theorem Built.countP_files_eq_one (built : Built b fs now input imports exports s u g)
    (absolute : b.workspace.isAbsolute = true) {e : Entity} (given : e ∈ placedEntities b.workspace input.sources) :
    (g.nodesOf .file).countP (fun f => f.relativePath == some (e.pathIn b.workspace)) = 1 := by
  have byId : (g.nodesOf .file).countP (fun f => f.relativePath == some (e.pathIn b.workspace))
      = ((g.nodesOf .file).map Node.id).count ("file:" ++ e.pathIn b.workspace) := by
    rw [List.count, List.countP_map]
    refine List.countP_congr fun f mem => ?_
    obtain ⟨d, -, id, -, path, -⟩ := built.exists_placed_of_mem_files mem
    simp [id, path]
  have nodup : ((g.nodesOf .file).map Node.id).Nodup :=
    (built.nodes_made ▸ s.nodes.nodup : (g.nodes.map Node.id).Nodup).sublist (List.filter_sublist.map _)
  rw [byId]
  refine List.count_eq_one_of_mem nodup ?_
  obtain ⟨f, found, id⟩ := (built.populated absolute).fileNode? (plain_of_mem_placedEntities absolute) given
  obtain ⟨_, known⟩ := find?_of_registered? found
  obtain ⟨node, -⟩ := Catalog.find?_eq_some_iff.mp known
  obtain ⟨kind, -⟩ := (built.shape absolute node).file_of_id id
  have file : f ∈ g.nodesOf .file := by simp [Graph.nodesOf, built.nodes_made, node, kind]
  have there : f.id = "file:" ++ e.pathIn b.workspace := id
  exact there ▸ List.mem_map_of_mem file

/-- Counting entities by their files counts all of them. -/
theorem Built.sum_countP_files (built : Built b fs now input imports exports s u g)
    (absolute : b.workspace.isAbsolute = true) {entities : List Entity}
    (sub : entities ⊆ placedEntities b.workspace input.sources) :
    ((g.nodesOf .file).map fun f => entities.countP fun e => f.relativePath == some (e.pathIn b.workspace)).sum
      = entities.length :=
  sum_countP_eq_length fun _ mem => built.countP_files_eq_one absolute (sub mem)

/-- **Files count the placed entities and contain the retained ones.**  Counting by files counts all of the entities,
once for the placed ones and once for those that are retained, so that the difference is what repeats an id. -/
theorem files_count_placed_entities (absolute : b.workspace.isAbsolute = true)
    (enabled : b.filters.enableContains = true)
    (free : ∀ e ∈ placedEntities b.workspace input.sources, ¬ ['-', '>'] <:+: (e.pathIn b.workspace).toList)
    (h : b.build fs now input = .ok g) : b.CountsPlaced input g := by
  obtain ⟨imports, exports, s, u, built⟩ := build_eq_ok_iff.mp h
  have contained := fun f mem => built.contained absolute enabled free (f := f) mem
  have all : g.metadata.totalEntities = (b.retained input).length := by
    rw [(accounts_of_build h).ids, length_retained]
  have sub : b.retained input ⊆ placedEntities b.workspace input.sources := fun e => mem_of_mem_distinctBy
  have total : ((g.nodesOf .file).map fun f => (g.contents f.id).length).sum = g.metadata.totalEntities := by
    rw [List.map_congr_left contained, built.sum_countP_files absolute sub, all]
  have placed (root : b.OneRoot input) : ((g.nodesOf .file).map Node.entitiesCount).sum
      = (placedEntities b.workspace input.sources).length := by
    rw [List.map_congr_left fun f mem => built.entitiesCount_eq absolute root mem]
    exact built.sum_countP_files absolute (List.Subset.refl _)
  have sum_iff (root : b.OneRoot input) : ((g.nodesOf .file).map Node.entitiesCount).sum = g.metadata.totalEntities
      ↔ ((placedEntities b.workspace input.sources).map (idOf b.workspace)).Nodup := by
    rw [placed root, all, length_retained_eq_iff]
  refine ⟨fun f mem => built.counted absolute mem, contained, total, placed, sum_iff, fun root => ⟨?_, ?_⟩⟩
  · -- Where every file contains as many as it counts, so do all of them together.
    intro each
    rw [← sum_iff root, List.map_congr_left each, total]
  · intro distinct f mem
    rw [built.entitiesCount_eq absolute root mem, contained f mem, retained_eq_of_nodup distinct]

/-- Three functions in two files, one of which is named in two ways. -/
theorem files_count_placed_entities_of_three_functions :
    let b := sample Rat .connectivity
    let records := [sampleRecord "a.ts" "f" .null, sampleRecord "./a.ts" "g" .null, sampleRecord "src/b.ts" "h" .null]
    let input : BuildInput := { sources := records.map .record, imports := .obj [], exports := .obj [] }
    b.workspace.isAbsolute = true ∧ b.filters.enableContains = true ∧
      (∀ e ∈ placedEntities b.workspace input.sources, ¬ ['-', '>'] <:+: (e.pathIn b.workspace).toList) ∧
      b.OneRoot input ∧ ((placedEntities b.workspace input.sources).map (idOf b.workspace)).Nodup ∧
      ∃ g, sampleBuild Rat .connectivity records = .ok g ∧ b.CountsPlaced input g ∧
        (∀ f ∈ g.nodesOf .file, f.entitiesCount = (g.contents f.id).length) ∧
        (g.nodesOf .file).map Node.entitiesCount = [2, 1] := by
  intro b records input
  have free : ∀ e ∈ placedEntities b.workspace input.sources,
      ¬ ['-', '>'] <:+: (e.pathIn b.workspace).toList := by decide +kernel
  have roots : ∀ p ∈ b.filePaths input, p.root = .single := by decide +kernel
  have root : b.OneRoot input := fun p hp q hq _ => (roots p hp).trans (roots q hq).symm
  have distinct : ((placedEntities b.workspace input.sources).map (idOf b.workspace)).Nodup := by decide +kernel
  have finishes : (sampleBuild Rat .connectivity records).toOption.any
      (fun g => (g.nodesOf .file).map Node.entitiesCount == [2, 1]) = true := by decide +kernel
  obtain ⟨g, h, counts⟩ := exists_ok_of_any_toOption finishes
  have placed : b.CountsPlaced input g := files_count_placed_entities (by decide) rfl free h
  exact ⟨by decide, rfl, free, root, distinct, g, h, placed, (placed.each_iff root).mpr distinct, by simpa using counts⟩

/-- A record that is given twice is counted twice by its file, which contains one code element. -/
theorem repeated_record_counts_twice :
    let records := [sampleRecord "a.ts" "f" .null, sampleRecord "a.ts" "f" .null]
    (sample Rat .connectivity).filters.enableContains = true ∧
      (∀ e ∈ placedEntities (sample Rat .connectivity).workspace (records.map .record),
        ¬ ['-', '>'] <:+: (e.pathIn (sample Rat .connectivity).workspace).toList) ∧
      ∃ g, sampleBuild Rat .connectivity records = .ok g ∧
        (g.nodesOf .file).map (fun f => (f.entitiesCount, (g.contents f.id).length)) = [(2, 1)] ∧
        g.metadata.totalEntities = 1 := by
  intro records
  have twice : (sampleBuild Rat .connectivity records).toOption.any (fun g =>
      (g.nodesOf .file).map (fun f => (f.entitiesCount, (g.contents f.id).length)) == [(2, 1)] &&
        g.metadata.totalEntities == 1) = true := by
    decide +kernel
  obtain ⟨g, h, counts⟩ := exists_ok_of_any_toOption twice
  rw [Bool.and_eq_true, beq_iff_eq, beq_iff_eq] at counts
  exact ⟨rfl, by decide +kernel, g, h, counts⟩

end Builder

end CodeAtlas
