import CodeAtlas.Proofs.Intake
import CodeAtlas.Proofs.Nodes
import CodeAtlas.Proofs.Stages

/-!
# The stages of a build

A build goes through its stages one after the other, and gives a graph when each of them has come to its end.
`Builder.Built` names the states in between: `s` after the nodes, `u` after the edges.  What is known of the
nodes (`Populated`) and of the edges (`BuildState.Adds`) can then be read off a graph.
-/

namespace CodeAtlas

/-! ## Nodes with the fields of their kinds -/

/-- The project node has the fields of its kind: it is neither a file, which must have a path below the workspace, nor
an element, which must have lines. -/
theorem complete_projectNode {fs : FileSystem} {workspace : Path} {n : Node}
    (made : projectNode fs workspace = .ok n) : n.Complete := by
  obtain ⟨-, kind, -⟩ := projectNode_shape made
  exact ⟨by simp [kind], by simp [kind]⟩

/-- A file node carries its path below the workspace.  Imports are later resolved against this field, and it must be
there for them. -/
theorem complete_fileNode {α : Type} {fs : FileSystem} {s : BuildState α} {path : Path}
    {entities : List Entity} {n : Node} (made : fileNode fs s path entities = .ok n) : n.Complete := by
  obtain ⟨-, kind, -, relative⟩ := fileNode_shape made
  exact ⟨fun _ => by simp [relative], by simp [kind]⟩

/-- A directory node has its path, and needs no lines. -/
theorem complete_directoryNode (fs : FileSystem) (workspace : Path) (segments : List String) :
    (directoryNode fs workspace segments).Complete := ⟨fun _ => rfl, by simp [directoryNode]⟩

/-- The node of an element is made with all fields of its kind, whatever the record said about them. -/
theorem complete_entityNode {α : Type} (s : BuildState α) (e : Entity) : (entityNode s e).Complete :=
  ⟨fun _ => rfl, fun _ => rfl⟩

/-- Every node has the fields of its kind.  The stages of the relations rest on this: each of them reads fields of the
nodes that only some kinds have, and would stop with a fault at a node without them.  By the origin of the node. -/
theorem Grown.complete {α : Type} {fs : FileSystem} {s₀ s : BuildState α}
    {groups : List (Path × List Entity)} {entities : List Entity}
    (h : Grown fs s₀ groups entities s) : ∀ n ∈ s.nodes.toList, n.Complete := by
  intro n mem
  cases h.origin n mem with
  | project made => exact complete_projectNode made
  | file group made => exact complete_fileNode made
  | directory group above => exact complete_directoryNode _ _ _
  | element given => exact complete_entityNode _ _

/-- The same in the form in which it is used when the tables of the nodes are known as well. -/
theorem Populated.complete {α : Type} {fs : FileSystem} {s₀ s : BuildState α}
    {entities : List Entity} (h : Populated fs s₀ entities s) :
    ∀ n ∈ s.nodes.toList, n.Complete := h.grown.complete

namespace Builder

variable {α : Type} [Scalar α] {b : Builder α} {fs : FileSystem} {now : String} {input : BuildInput}
  {imports exports : FileMap} {s u : BuildState α} {g : Graph α}

/-- A build has gone through all its stages.  There is one field for each of them, in their order, and the last two
say where the graph takes its nodes and edges from; of the communities and the counts it says only how they are
computed. -/
structure Built (b : Builder α) (fs : FileSystem) (now : String) (input : BuildInput)
    (imports exports : FileMap) (s u : BuildState α) (g : Graph α) : Prop where
  /-- Every source has been read, and has an entity or none. -/
  sources : ∀ source ∈ input.sources, ∃ e?, locate b.workspace source = .ok e?
  /-- The two file maps have been read. -/
  importMap : fileMap b.workspace input.imports = .ok imports
  exportMap : fileMap b.workspace input.exports = .ok exports
  /-- The placed entities have had their nodes made. -/
  made : makeNodes fs (b.initialState imports exports)
    (placedEntities b.workspace input.sources) = .ok s
  /-- The relations have been gone through from there. -/
  related : b.makeEdges fs s = .ok u
  /-- Communities have been found in the nodes and edges that this has led to, -/
  communities : Community.detect b.strategy u.nodes u.edges.toList = .ok g.communities
  /-- and the figures have been counted in the same state. -/
  metadata : metadata u now (skippedSources b.workspace input.sources) = .ok g.metadata
  /-- The graph shows this state, and nothing has come in between. -/
  nodes : g.nodes = u.nodes.toList
  edges : g.edges = u.edges.toList

/-- **A build gives a graph exactly if it goes through its stages.**  Nothing is lost in `Built`: from here on, every
result about graphs is one about its fields, and no later proof opens `build` or `run`. -/
theorem build_eq_ok_iff :
    b.build fs now input = .ok g ↔ ∃ imports exports s u, Built b fs now input imports exports s u g := by
  simp only [build, run, bind_eq_ok_iff, intake_eq_ok_iff, pure, Except.pure, Except.ok.injEq,
    Prod.exists, Prod.mk.injEq]
  constructor
  · rintro ⟨u, -, ⟨-, ⟨sources, rfl⟩, imports, himports, exports, hexports, s, hs, u', hu, rfl, rfl⟩,
      communities, hcommunities, metadata, hmetadata, rfl⟩
    exact ⟨imports, exports, s, u', sources, himports, hexports, hs, hu, hcommunities, hmetadata,
      rfl, rfl⟩
  · rintro ⟨imports, exports, s, u, built⟩
    obtain ⟨sources, himports, hexports, hs, hu, hcommunities, hmetadata, hnodes, hedges⟩ := built
    obtain ⟨nodes, edges, communities, metadata⟩ := g
    obtain rfl := hnodes
    obtain rfl := hedges
    exact ⟨u, _, ⟨_, ⟨sources, rfl⟩, imports, himports, exports, hexports, s, hs, u, hu, rfl, rfl⟩,
      communities, hcommunities, metadata, hmetadata, rfl⟩

/-- The nodes come from the workspace, the placed entities and their files, and from nothing else.  A build starts
with an empty state, so that whatever stands in `s` has been put there by `makeNodes`. -/
theorem Built.grown (built : Built b fs now input imports exports s u g) :
    Grown fs (b.initialState imports exports)
      ((b.initialState imports exports).byFile (placedEntities b.workspace input.sources))
      (placedEntities b.workspace input.sources) s :=
  makeNodes_grown (b.fresh_initialState imports exports) built.made

/-- Every node of a build has the fields of its kind. -/
theorem Built.complete (built : Built b fs now input imports exports s u g) :
    ∀ n ∈ s.nodes.toList, n.Complete := built.grown.complete

/-- A build starts without edges: the stages of the nodes offer none, so that all edges of a graph are new ones in the
sense of `BuildState.Adds`. -/
theorem Built.edges_eq_nil (built : Built b fs now input imports exports s u g) :
    s.edges.toList = [] := by
  rw [built.grown.edges]
  rfl

/-- In particular there are none of a given relation. -/
theorem Built.edgesOf_eq_nil (built : Built b fs now input imports exports s u g) (r : Relation) :
    s.edgesOf r = [] := by
  rw [BuildState.edgesOf, built.edges_eq_nil, List.filter_nil]

/-- The nodes and tables of a build in an absolute workspace.  The workspace is asked to be absolute because the paths
that are placed are plain then, without `.` and `..`, and the tables are keyed by them. -/
theorem Built.populated (built : Built b fs now input imports exports s u g)
    (absolute : b.workspace.isAbsolute = true) :
    Populated fs (b.initialState imports exports) (placedEntities b.workspace input.sources) s :=
  makeNodes_populated (b.fresh_initialState imports exports)
    (plain_of_mem_placedEntities absolute) built.made

/-- The edges of a build are those that a run of all relations leaves; how many it has counted is dropped. -/
theorem makeEdges_eq_ok_iff :
    b.makeEdges fs s = .ok u ↔ ∃ count, s.relateAll ⟨fs, b.filters, b.extensions⟩ = (u, .ok count) := by
  unfold makeEdges
  rcases s.relateAll ⟨fs, b.filters, b.extensions⟩ with ⟨t, f | count⟩ <;> simp

/-- The run of all relations behind a build. -/
theorem Built.relateAll (built : Built b fs now input imports exports s u g) :
    ∃ count, s.relateAll ⟨fs, b.filters, b.extensions⟩ = (u, .ok count) :=
  makeEdges_eq_ok_iff.mp built.related

/-- Every enabled relation has its stage in a build: there is a state in the middle at which its edges are offered,
with the nodes of `s` and the edges of the relations before it. -/
theorem Built.exists_stage (built : Built b fs now input imports exports s u g) {r : Relation}
    (enabled : b.filters.enables r = true) :
    ∃ t, BuildState.Stage ⟨fs, b.filters, b.extensions⟩ r s t u := by
  obtain ⟨count, run⟩ := built.relateAll
  exact BuildState.exists_stage enabled built.complete run

/-- The graph has the edges of the last state. -/
theorem Built.edgesOf (built : Built b fs now input imports exports s u g) (r : Relation) :
    g.edgesOf r = u.edgesOf r := by
  rw [Graph.edgesOf, built.edges]
  rfl

/-- **The edges of a build can always be made**, and leave the nodes as they are.  Nothing but a node without the
fields of its kind could stop a relation, and there is none by hypothesis. -/
theorem exists_makeEdges (b : Builder α) (fs : FileSystem) (complete : ∀ n ∈ s.nodes.toList, n.Complete) :
    ∃ u, b.makeEdges fs s = .ok u ∧ ∃ new, BuildState.Adds s new u := by
  obtain ⟨u, new, run, adds, -⟩ := BuildState.relateAll_ok ⟨fs, b.filters, b.extensions⟩ complete
  exact ⟨u, makeEdges_eq_ok_iff.mpr ⟨_, run⟩, new, adds⟩

/-- The edges of a build are offered one after the other to the state that the nodes have left.  `BuildState.Adds` is
the invariant that carries the results about edges: it keeps the nodes, and gives every new edge its two ends. -/
theorem Built.adds (built : Built b fs now input imports exports s u g)
    (complete : ∀ n ∈ s.nodes.toList, n.Complete) : ∃ new, BuildState.Adds s new u := by
  obtain ⟨u', run, adds⟩ := exists_makeEdges b fs complete
  obtain rfl : u' = u := Except.ok.inj (run.symm.trans built.related)
  exact adds

/-- The graph has the nodes that were there before its edges, since no relation makes a node. -/
theorem Built.nodes_made (built : Built b fs now input imports exports s u g) :
    g.nodes = s.nodes.toList := by
  obtain ⟨new, adds⟩ := built.adds built.complete
  rw [built.nodes, adds.nodes]

/-- **Edges of a graph lead from nodes to nodes.**  This is what `Adds` keeps for each edge that is taken in: an edge
is refused if one of its ends is missing, and no node is removed afterwards. -/
theorem Built.ends_mem (built : Built b fs now input imports exports s u g) :
    ∀ e ∈ g.edges, e.source ∈ g.nodes.map Node.id ∧ e.target ∈ g.nodes.map Node.id := by
  intro e mem
  obtain ⟨new, adds⟩ := built.adds built.complete
  rw [built.edges, adds.edges, built.edges_eq_nil, List.nil_append] at mem
  rw [built.nodes_made, ← Catalog.contains_eq_true_iff, ← Catalog.contains_eq_true_iff]
  exact adds.ends e mem

/-- A relation that has an edge is enabled: the stage of a relation that is not offers nothing. -/
theorem Built.enables_of_mem (built : Built b fs now input imports exports s u g) {r : Relation}
    {e : Edge α} (mem : e ∈ u.edgesOf r) : b.filters.enables r = true := by
  by_contra disabled
  obtain ⟨count, run⟩ := built.relateAll
  have none := BuildState.edgesOf_of_disabled (Bool.eq_false_iff.mpr disabled) built.complete run
  rw [none, built.edgesOf_eq_nil] at mem
  cases mem

/-- A builder with other filters. -/
def withFilters (b : Builder α) (filters : Filters α) : Builder α := { b with filters }

/-! ## A small build -/

/-- A builder with the standard filters. -/
def sample (α : Type) [Scalar α] (strategy : Strategy) : Builder α where
  workspace := ⟨.single, ["ws"]⟩
  filters := Filters.standard
  strategy := strategy

/-- A record of a function in a file of the workspace. -/
def sampleRecord (filePath name : String) (language : Json) : Json :=
  .obj [("file_path", .str filePath), ("name", .str name), ("element_type", .str "function"),
    ("start_line", .int 1), ("language", language)]

/-- A record of an element of some kind on the first line of a file of the workspace. -/
def sampleElement (filePath elementType name : String) : Json :=
  .obj [("file_path", .str filePath), ("name", .str name), ("element_type", .str elementType),
    ("start_line", .int 1)]

/-- A build of some records, in a file system without files. -/
def sampleBuild (α : Type) [Scalar α] (strategy : Strategy) (records : List Json) :
    Except Fault (Graph α) :=
  (sample α strategy).build (FileSystem.empty ⟨.single, []⟩) ""
    { sources := records.map .record, imports := .obj [], exports := .obj [] }

/-- Two functions in two files, the first of which calls the other one and itself. -/
def callingInput : BuildInput where
  sources := [("a.ts", "f", "g(f())"), ("b.ts", "g", "")].map fun (filePath, name, snippet) =>
    .record (.obj [("file_path", .str filePath), ("name", .str name), ("element_type", .str "function"),
      ("start_line", .int 1), ("code_snippet", .str snippet)])

/-- A file system in which a workspace has the two files of `callingInput`. -/
def sampleFiles : FileSystem where
  cwd := ⟨.single, []⟩
  entries := [(["ws"], .directory), (["ws", "a.ts"], .file .empty), (["ws", "b.ts"], .file .empty)]

/-- A build of these functions, in a file system without files. -/
def sampleCalls (filters : Filters Rat) : Except Fault (Graph Rat) :=
  ((sample Rat .connectivity).withFilters filters).build (FileSystem.empty ⟨.single, []⟩) ""
    callingInput

end Builder

end CodeAtlas
