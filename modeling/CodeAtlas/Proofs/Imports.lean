import CodeAtlas.Proofs.Containers

/-!
# Which imports a graph has

A file imports another one by a specifier that starts with a dot.  The specifier is joined to the directory of the
importing file.  It leaves the extension open, and names a file or a directory with an index file, so that there are
several places where the target may be.  The first one at which there is a file counts, whether or not it is a file
of the build; if it is none, there is no edge.

`Imports` says this of an entry of the import map and two paths, and `Builder.imports_exact` that the edges of a graph
are these imports and no others.  Entries under different spellings of one path are entries of one file.  An entry
under the empty text is left out, although this text names the workspace (`Builder.empty_key_imports_nothing`).

## Outline

Resolving a specifier is said in terms of the file system by `ImportTarget.resolve?_eq_some_iff`, without tables.
What remains is between paths and nodes: a path has the node that the table leads to (`Built.exists_fileNode`), and
a node that the table leads to is that of a file of the build, with the path that it was asked for
(`Built.file_of_fileNode`).  Entries of the import map are looked up by path, whatever they were written like
(`gives_fileMap_iff`).
-/

namespace CodeAtlas

/-- The first of some places at which there is a file. -/
def FileSystem.FirstFile (fs : FileSystem) (places : List String) (place : String) : Prop :=
  fs.isFile (Path.parse place) = true ∧ ∃ front back, places = front ++ place :: back ∧
    ∀ earlier ∈ front, fs.isFile (Path.parse earlier) = false

/-- By an entry of the import map, the file at one path imports the file at another.  This tells the rule in terms of
the file system, without a graph; whether there are nodes for the two files is another matter. -/
structure Imports (workspace : Path) (fs : FileSystem) (extensions : List String)
    (entry : String × Json) (importer target : Path) : Prop where
  /-- The key names the importing file. -/
  key : (workspace.absolute entry.1).text = importer.text
  /-- A specifier names the target: first the path that it leads to with each extension is tried, then the index
  file there with each extension. -/
  found : ∃ specifier ∈ fileMapValues entry.2, specifier.toList.head? = some '.' ∧
    ∃ place, fs.FirstFile
        (extensions.map (fun e => (importer.parent.absolute specifier).text ++ e)
          ++ extensions.map fun e => ((importer.parent.absolute specifier).child ("index" ++ e)).text)
        place ∧ (Path.parse place).normalize.text = target.text

/-- **A specifier is resolved** if it starts with a dot and there is a file at one of its places; the first of these
places is the answer. -/
theorem ImportTarget.resolve?_eq_some_iff {fs : FileSystem} {extensions : List String}
    {importer specifier place : String} :
    resolve? fs extensions importer specifier = some place ↔ specifier.toList.head? = some '.' ∧
      fs.FirstFile (candidates extensions (target fs.cwd importer specifier)) place := by
  rw [resolve?, Option.ite_none_right_eq_some, List.find?_eq_some_iff_append]
  simp only [isRelative, beq_iff_eq, FileSystem.FirstFile, Bool.not_eq_true']

variable {α : Type}

namespace Builder

/-- The paths of the files of a build. -/
def files (b : Builder α) (input : BuildInput) : List Path :=
  (placedEntities b.workspace input.sources).map fun e => b.workspace.absolute e.filePath

/-- The place that a specifier leads to in a file of a build, wherever the build is run. -/
theorem target_of_mem_files {b : Builder α} {input : BuildInput}
    (absolute : b.workspace.isAbsolute = true) {path : Path} (mem : path ∈ b.files input) (cwd : Path)
    (specifier : String) :
    ImportTarget.target cwd path.text specifier = path.parent.absolute specifier := by
  obtain ⟨e, given, rfl⟩ := List.mem_map.mp mem
  rw [ImportTarget.target, Path.absolute_text_absolute absolute
    (plain_of_mem_placedEntities absolute e given)]

end Builder

variable [Scalar α]

namespace BuildState

/-- The edge of an import. -/
def importEdge (source target : Node) (specifier : String) : Edge α where
  source := source.id
  target := target.id
  relation := .imports
  weight := Scalar.ofNat 1
  properties := .importing (source.name.display ++ " imports " ++ target.name.display) specifier .importing

/-- Imports have weight one, so that the filters look only at whether the least weight lies above it. -/
theorem passes_importEdge (filters : Filters α) (source target : Node) (specifier : String) :
    filters.passes (importEdge source target specifier)
      = !Scalar.lt (Scalar.ofNat 1) filters.minRelationWeight := rfl

variable {around : Surroundings α} {s : BuildState α}

/-- A proposal is made for a specifier that is resolved to a file with a node. -/
theorem importProposal_eq_some_iff {importer specifier : String} {source : Node} {e : Edge α} :
    s.importProposal around importer source specifier = some e ↔
      ∃ place, ImportTarget.resolve? around.fs around.extensions importer specifier = some place ∧
        ∃ target, s.fileNode? (Path.parse place).normalize.text = some target ∧
          importEdge source target specifier = e := by
  rw [importProposal, Option.bind_eq_some_iff]
  refine exists_congr fun place => and_congr_right fun resolved => ?_
  -- What is resolved starts with a dot, so that the other kind of dependency never occurs.
  have relative : ImportTarget.isRelative specifier = true := by
    simpa [ImportTarget.isRelative] using (ImportTarget.resolve?_eq_some_iff.mp resolved).1
  rw [Option.map_eq_some_iff, if_pos relative]
  rfl

/-- **What is proposed are the resolved imports** between files that have nodes. -/
theorem mem_importProposals {e : Edge α} :
    e ∈ s.importProposals around ↔ ∃ importer specifier, s.imports.Gives importer specifier ∧
      ∃ source, s.fileNode? importer = some source ∧
        s.importProposal around importer source specifier = some e := by
  simp only [importProposals, List.mem_flatMap, Prod.exists, FileMap.Gives]
  constructor
  · rintro ⟨importer, specifiers, entry, mem⟩
    split at mem
    · cases mem
    · next source node =>
        obtain ⟨specifier, given, proposed⟩ := List.mem_filterMap.mp mem
        exact ⟨importer, specifier, ⟨specifiers, entry, given⟩, source, node, proposed⟩
  · rintro ⟨importer, specifier, ⟨specifiers, entry, given⟩, source, node, proposed⟩
    refine ⟨importer, specifiers, entry, ?_⟩
    rw [node]
    exact List.mem_filterMap.mpr ⟨specifier, given, proposed⟩

end BuildState

namespace Builder

variable {b : Builder α} {fs : FileSystem} {now : String} {input : BuildInput}
  {imports exports : FileMap} {s t u : BuildState α} {g : Graph α}

/-- Every file of a build has a node under its id, -/
theorem Built.exists_fileNode (built : Built b fs now input imports exports s u g)
    (absolute : b.workspace.isAbsolute = true) {path : Path} (mem : path ∈ b.files input) :
    ∃ n, s.fileNode? path.text = some n ∧ n.id = fileIdOf b.workspace path ∧
      s.nodes.contains n.id = true := by
  obtain ⟨e, given, rfl⟩ := List.mem_map.mp mem
  have populated := built.populated absolute
  obtain ⟨n, found, id⟩ := populated.fileNode? (plain_of_mem_placedEntities absolute) given
  obtain ⟨-, -, -, -, node⟩ := populated.exists_entity_of_fileNode? found
  exact ⟨n, found, id, node⟩

/-- and no other path has. -/
theorem Built.file_of_fileNode (built : Built b fs now input imports exports s u g)
    (absolute : b.workspace.isAbsolute = true) {key : String} {n : Node}
    (found : s.fileNode? key = some n) :
    ∃ path ∈ b.files input, path.text = key ∧ n.id = fileIdOf b.workspace path := by
  obtain ⟨e, given, text, id, -⟩ := (built.populated absolute).exists_entity_of_fileNode? found
  exact ⟨_, List.mem_map_of_mem given, text, id⟩

/-! ## The edges of a build -/

/-- **Every edge is an import.**  The proposal that it was made of has a specifier of the import map, and the two
nodes are those of files of the build, since no other path has a node. -/
theorem Built.import_of_mem (built : Built b fs now input imports exports s u g)
    (absolute : b.workspace.isAbsolute = true)
    (stage : BuildState.Stage ⟨fs, b.filters, b.extensions⟩ .imports s t u) {e : Edge α}
    (mem : e ∈ u.edgesOf .imports) :
    ∃ importer ∈ b.files input, ∃ target ∈ b.files input,
      (∃ entry ∈ input.imports.entries, entry.1 ≠ "" ∧
        Imports b.workspace fs b.extensions entry importer target) ∧
      ∃ m n specifier, m.id = fileIdOf b.workspace importer ∧ n.id = fileIdOf b.workspace target ∧
        BuildState.importEdge m n specifier = e := by
  have proposed := stage.proposed_of_mem (by decide) (built.edgesOf_eq_nil .imports) mem
  obtain ⟨e', given, same⟩ := List.mem_map.mp proposed
  obtain rfl := Except.ok.inj same
  obtain ⟨key, specifier, gives, m, source, draft⟩ := BuildState.mem_importProposals.mp given
  obtain ⟨place, resolved, n, node, rfl⟩ := BuildState.importProposal_eq_some_iff.mp draft
  obtain ⟨dot, first⟩ := ImportTarget.resolve?_eq_some_iff.mp resolved
  obtain ⟨importer, hi, rfl, id⟩ := built.file_of_fileNode absolute source
  obtain ⟨target, ht, text, id'⟩ := built.file_of_fileNode absolute node
  rw [target_of_mem_files absolute hi] at first
  have table : s.imports = imports := built.grown.imports
  rw [table, gives_fileMap_iff built.importMap] at gives
  obtain ⟨entry, there, named, key, value⟩ := gives
  exact ⟨importer, hi, target, ht,
    ⟨entry, there, named, key, specifier, value, dot, place, first, text.symm⟩,
    m, n, specifier, id, id', rfl⟩

/-- **Every import is an edge**, unless the least weight is above the weight of imports.  The keys of the import map
are read as paths, so that an entry counts for a file whatever spelling it comes under. -/
theorem Built.exists_import (built : Built b fs now input imports exports s u g)
    (absolute : b.workspace.isAbsolute = true)
    (stage : BuildState.Stage ⟨fs, b.filters, b.extensions⟩ .imports s t u)
    (below : Scalar.lt (Scalar.ofNat 1) b.filters.minRelationWeight = false) {importer target : Path}
    (hi : importer ∈ b.files input) (ht : target ∈ b.files input) {entry : String × Json}
    (there : entry ∈ input.imports.entries) (named : entry.1 ≠ "")
    (h : Imports b.workspace fs b.extensions entry importer target) :
    ∃ e ∈ u.edgesOf .imports, e.id
      = Edge.idOf (fileIdOf b.workspace importer) (fileIdOf b.workspace target) .imports := by
  obtain ⟨key, specifier, value, dot, place, first, text⟩ := h
  obtain ⟨m, source, id, mem⟩ := built.exists_fileNode absolute hi
  obtain ⟨n, node, id', mem'⟩ := built.exists_fileNode absolute ht
  rw [← target_of_mem_files absolute hi fs.cwd] at first
  have gives : s.imports.Gives importer.text specifier := by
    have table : s.imports = imports := built.grown.imports
    rw [table, gives_fileMap_iff built.importMap]
    exact ⟨entry, there, named, key, value⟩
  have resolved : ImportTarget.resolve? fs b.extensions importer.text specifier = some place :=
    ImportTarget.resolve?_eq_some_iff.mpr ⟨dot, first⟩
  have proposed : .ok (BuildState.importEdge m n specifier)
      ∈ s.proposed ⟨fs, b.filters, b.extensions⟩ .imports := by
    refine List.mem_map_of_mem (BuildState.mem_importProposals.mpr ⟨_, specifier, gives, m, source, ?_⟩)
    exact BuildState.importProposal_eq_some_iff.mpr ⟨place, resolved, n, by rw [text, node], rfl⟩
  have passes : b.filters.passes (BuildState.importEdge m n specifier) = true := by
    rw [BuildState.passes_importEdge, below]
    rfl
  obtain ⟨e, edge, same⟩ :=
    stage.exists_edge_of_proposed (by decide) built.complete proposed passes mem mem'
  refine ⟨e, edge, ?_⟩
  rw [same, ← id, ← id']
  rfl

/-- The edges are the imports among the files of a build.  Their ids tell which imports are there, in both directions;
the weight and the kind are the same for all of them. -/
structure ExactImports (b : Builder α) (fs : FileSystem) (input : BuildInput)
    (edges : List (Edge α)) : Prop where
  /-- There is an edge for each import between files with nodes, and for nothing else. -/
  ids : ∀ id, id ∈ edges.map Edge.id ↔
    ∃ importer ∈ b.files input, ∃ target ∈ b.files input,
      (∃ entry ∈ input.imports.entries, entry.1 ≠ "" ∧
        Imports b.workspace fs b.extensions entry importer target) ∧
      id = Edge.idOf (fileIdOf b.workspace importer) (fileIdOf b.workspace target) .imports
  /-- An import weighs as much as an edge can. -/
  weight : ∀ e ∈ edges, e.weight = Scalar.ofNat 1
  /-- No edge stands for a dependency of the other kind. -/
  kind : ∀ e ∈ edges, ∃ description specifier,
    e.properties = .importing description specifier .importing

/-- **The imports of a graph are exactly those that the import map and the file system tell of.**  Both directions are
at the stage of the relation: an edge was proposed there, and what was proposed between nodes is there by its id. -/
theorem imports_exact (absolute : b.workspace.isAbsolute = true)
    (enabled : b.filters.enableImportsExports = true)
    (below : Scalar.lt (Scalar.ofNat 1) b.filters.minRelationWeight = false)
    (h : b.build fs now input = .ok g) : ExactImports b fs input (g.edgesOf .imports) := by
  obtain ⟨imports, exports, s, u, built⟩ := build_eq_ok_iff.mp h
  have enables : b.filters.enables .imports = true := enabled
  obtain ⟨t, stage⟩ := built.exists_stage enables
  rw [built.edgesOf]
  refine ⟨?_, ?_, ?_⟩
  · intro id
    rw [List.mem_map]
    constructor
    · rintro ⟨e, mem, rfl⟩
      obtain ⟨importer, hi, target, ht, told, m, n, specifier, id, id', rfl⟩ :=
        built.import_of_mem absolute stage mem
      refine ⟨importer, hi, target, ht, told, ?_⟩
      rw [← id, ← id']
      rfl
    · rintro ⟨importer, hi, target, ht, ⟨entry, there, named, told⟩, rfl⟩
      exact built.exists_import absolute stage below hi ht there named told
  · intro e mem
    obtain ⟨-, -, -, -, -, m, n, specifier, -, -, rfl⟩ := built.import_of_mem absolute stage mem
    rfl
  · intro e mem
    obtain ⟨-, -, -, -, -, m, n, specifier, -, -, rfl⟩ := built.import_of_mem absolute stage mem
    exact ⟨_, specifier, rfl⟩

/-- The functions of `callingInput`, the file of the first of which imports that of the other and a package. -/
def importingInput : BuildInput :=
  { callingInput with imports := .obj [("./src/../a.ts", .arr [.str "./b", .str "lodash"])] }

/-- The file that the specifier leads to is imported, and the package is not. -/
theorem imports_exact_of_two_files :
    (sample Rat .connectivity).workspace.isAbsolute = true ∧
      (Filters.allEnabled 0 : Filters Rat).enableImportsExports = true ∧
      Scalar.lt (Scalar.ofNat 1) (Filters.allEnabled 0 : Filters Rat).minRelationWeight = false ∧
      ∃ g, ((sample Rat .connectivity).withFilters (Filters.allEnabled 0)).build sampleFiles ""
          importingInput = .ok g ∧
        ExactImports ((sample Rat .connectivity).withFilters (Filters.allEnabled 0)) sampleFiles
          importingInput (g.edgesOf .imports) ∧
        (g.edgesOf .imports).map Edge.id = ["file:a.ts->file:b.ts:IMPORTS"] := by
  have finishes : (((sample Rat .connectivity).withFilters (Filters.allEnabled 0)).build sampleFiles ""
      importingInput).toOption.any (fun g =>
        (g.edgesOf .imports).map Edge.id == ["file:a.ts->file:b.ts:IMPORTS"]) = true := by
    decide +kernel
  obtain ⟨g, h, ids⟩ := exists_ok_of_any_toOption finishes
  exact ⟨by decide, rfl, by decide, g, h, imports_exact (by decide) rfl (by decide) h, by simpa using ids⟩

/-- A function that is said to stand in the workspace itself and one in a file, and an entry of the import map
under the empty text. -/
def emptyKeyInput : BuildInput where
  sources := [.record (sampleRecord "." "f" .null), .record (sampleRecord "a.ts" "g" .null)]
  imports := .obj [("", .arr [.str "./ws/a"])]

/-- The empty text names the workspace, and the workspace is a file of this build.  By the entry it imports another
file, but an entry under the empty text makes no edge. -/
theorem empty_key_imports_nothing :
    let b := (sample Rat .connectivity).withFilters (Filters.allEnabled 0)
    b.filters.enableImportsExports = true ∧
      Scalar.lt (Scalar.ofNat 1) b.filters.minRelationWeight = false ∧
      b.workspace ∈ b.files emptyKeyInput ∧ b.workspace.child "a.ts" ∈ b.files emptyKeyInput ∧
      (∃ entry ∈ emptyKeyInput.imports.entries,
        Imports b.workspace sampleFiles b.extensions entry b.workspace (b.workspace.child "a.ts")) ∧
      ∃ g, b.build sampleFiles "" emptyKeyInput = .ok g ∧ g.edgesOf .imports = [] := by
  intro b
  have finishes : (b.build sampleFiles "" emptyKeyInput).toOption.any
      (fun g => (g.edgesOf .imports).isEmpty) = true := by
    decide +kernel
  obtain ⟨g, h, none⟩ := exists_ok_of_any_toOption finishes
  refine ⟨rfl, by decide, by decide +kernel, by decide +kernel, ?_, g, h, by simpa using none⟩
  refine ⟨_, List.mem_singleton_self _, by decide +kernel, "./ws/a", ?_, by decide, "/ws/a.ts", ?_, ?_⟩
  · decide +kernel
  · refine ⟨by decide +kernel, ["/ws/a.js"],
      ["/ws/a.vue", "/ws/a.jsx", "/ws/a.tsx", "/ws/a/index.js", "/ws/a/index.ts", "/ws/a/index.vue",
        "/ws/a/index.jsx", "/ws/a/index.tsx"], ?_, ?_⟩
    · decide +kernel
    · decide +kernel
  · decide +kernel

end Builder

end CodeAtlas
