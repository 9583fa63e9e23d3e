import CodeAtlas.Proofs.Build
import CodeAtlas.Proofs.Communities
import CodeAtlas.Proofs.Directories

/-!
# When a build gives a graph

A source that cannot be placed is skipped, so that most malformed input costs one source and no more.  Four
things end a whole build all the same, and `Buildable` lists them: an infinite line number, a package manifest
that is nested too deep, a path that can name nothing, and a language that is an array or an object.

The last one has two conditions, because a language is looked at twice.  The first language that is given for a
file becomes a tag of the file (`fileLanguage`), and the languages of the placed entities are counted.  An
entity that is not placed because another one has its id, in a file that has a language already, may have any
language.

`Builder.build_outcome` says that nothing else can end a build, and what a graph says about the sources.

## Outline

Both directions go stage by stage.  For a build to come to its end, the sources have to be read, the project and the
files have to get their nodes, and communities and figures have to be found in what has been made; the relations are
never in the way (`exists_makeEdges`).  Each stage has a lemma that says exactly when it succeeds, in terms of what
is given to it, and `Grown` turns this into terms of the sources.  So `Built.buildable` and
`exists_build_of_buildable` are two readings of the same lemmas.
-/

namespace CodeAtlas

variable {α : Type} {fs : FileSystem}

/-! ## The node of the project -/

/-- The node of the project can be made unless its manifest is nested too deep. -/
theorem exists_projectNode_iff {workspace : Path} :
    (∃ n, projectNode fs workspace = .ok n)
      ↔ fs.readJson (workspace.child "package.json") ≠ .error (.json .tooDeep) := by
  rw [projectNode, exists_map_eq_ok_iff, manifest?]
  split <;> simp_all

/-! ## The node of a file -/

/-- The language of a file: the first one that an entity gives, null when none does. -/
def fileLanguage (entities : List Entity) : Json :=
  ((entities.map (·.language)).find? Json.truthy).getD .null

/-- Tags can be freed from repetitions where all of them are keys, those that say nothing included. -/
theorem unique_eq_ok_iff {items tags : List Json} :
    Tags.unique items = .ok tags ↔
      (∀ j ∈ items, j.isKey = true) ∧ tags = (distinctBy Json.sameKey items).filter Json.truthy := by
  unfold Tags.unique
  split
  · next j found =>
      have mem := List.mem_of_find?_eq_some found
      have refused := List.find?_some found
      simp only [reduceCtorEq, false_iff, not_and]
      intro keys
      simp [keys j mem] at refused
  · next none =>
      rw [List.find?_eq_none] at none
      have keys : ∀ j ∈ items, j.isKey = true := fun j mem => by simpa using none j mem
      simp only [Except.ok.injEq]
      exact ⟨fun eq => ⟨keys, eq.symm⟩, fun h => h.2.symm⟩

/-- The figures of a file can be made up whatever stands at its path, as long as the path can be looked at. -/
theorem exists_fileFigures_iff {p : Path} :
    (∃ figures, fileFigures fs p = .ok figures) ↔ FileSystem.isUsable p = true := by
  by_cases usable : FileSystem.isUsable p = true
  · -- Whatever else keeps the file from being read is no fault of its figures.
    refine iff_of_true ?_ usable
    unfold fileFigures
    split
    · exact ⟨_, rfl⟩
    · next problem refused => exact absurd ⟨problem, rfl⟩ (FileSystem.read_error usable refused)
    · exact ⟨_, rfl⟩
  · have refused : fs.read p = .error (.unusablePath (FileSystem.pathProblem p)) := by
      rw [FileSystem.read, FileSystem.checkPath, if_neg usable]
      rfl
    simp [fileFigures, refused, usable]

/-- Texts are keys. -/
theorem keys_of_texts (texts : List String) : ∀ t ∈ texts.map Json.str, t.isKey = true := by
  simp [Json.isKey]

/-- The node of a file can be made where its path can be looked at and its language is a key, which becomes one of its
tags. -/
theorem exists_fileNode_iff {s : BuildState α} {path : Path} {entities : List Entity} :
    (∃ n, fileNode fs s path entities = .ok n)
      ↔ FileSystem.isUsable path = true ∧ (fileLanguage entities).isKey = true := by
  constructor
  · rintro ⟨n, h⟩
    simp only [fileNode, bind_eq_ok_iff] at h
    obtain ⟨figures, hfigures, tags, htags, -⟩ := h
    exact ⟨exists_fileFigures_iff.mp ⟨_, hfigures⟩,
      (unique_eq_ok_iff.mp htags).1 _ (by simp [fileLanguage])⟩
  · rintro ⟨usable, key⟩
    obtain ⟨figures, hfigures⟩ : ∃ figures, fileFigures fs path = .ok figures :=
      exists_fileFigures_iff.mpr usable
    have keys : ∀ texts : List String, ∀ j ∈ .str "file" :: fileLanguage entities :: texts.map .str,
        j.isKey = true :=
      fun texts => List.forall_mem_cons.mpr
        ⟨rfl, List.forall_mem_cons.mpr ⟨key, keys_of_texts texts⟩⟩
    have unique := fun texts => unique_eq_ok_iff.mpr ⟨keys texts, rfl⟩
    simp only [fileNode, bind_eq_ok_iff]
    exact ⟨_, figures, hfigures, _, unique _, rfl⟩

/-! ## What communities count -/

/-- A value that is used where it says something, and a key in its place otherwise. -/
theorem isKey_orElse {j other : Json} (h : j.truthy = true → j.isKey = true)
    (ho : other.isKey = true) : (j.orElse other).isKey = true := by
  unfold Json.orElse
  split
  · next given => exact h given
  · exact ho

/-- The node of a file can be counted, as its tags were made of keys, -/
theorem countable_fileNode {s : BuildState α} {path : Path} {entities : List Entity} {n : Node}
    (h : fileNode fs s path entities = .ok n) (complete : n.Complete) : n.Countable := by
  have key := (exists_fileNode_iff.mp ⟨n, h⟩).2
  simp only [fileNode, bind_eq_ok_iff] at h
  obtain ⟨figures, -, tags, htags, made⟩ := h
  obtain ⟨keys, rfl⟩ := unique_eq_ok_iff.mp htags
  obtain rfl := Except.ok.inj made
  refine ⟨complete, ?_, isKey_orElse (fun _ => key) rfl⟩
  intro t mem
  exact keys t (mem_of_mem_distinctBy (List.mem_filter.mp mem).1)

/-- and that of an entity can if its language can. -/
theorem countable_entityNode {s : BuildState α} {e : Entity}
    (language : e.language.truthy = true → e.language.isKey = true)
    (complete : (entityNode s e).Complete) : (entityNode s e).Countable :=
  ⟨complete, keys_of_texts _, isKey_orElse language rfl⟩

/-- The nodes of a build can be counted if the languages of the placed entities can. -/
theorem Grown.countable {s₀ s : BuildState α} {groups : List (Path × List Entity)}
    {entities : List Entity} (h : Grown fs s₀ groups entities s)
    (languages : ∀ p ∈ s.placed,
      p.entity.language.truthy = true → p.entity.language.isKey = true) :
    ∀ n ∈ s.nodes.toList, n.Countable := by
  intro n mem
  have complete := h.complete n mem
  cases origin : h.origin n mem with
  | project made =>
      obtain ⟨manifest, -, rfl⟩ := map_eq_ok_iff.mp made
      cases manifest <;> exact ⟨complete, keys_of_texts _, rfl⟩
  | file group made => exact countable_fileNode made complete
  | directory group above => exact ⟨complete, keys_of_texts _, rfl⟩
  | @element e given =>
      -- The node may come from another entity with the same id, and that one is placed.
      have placed : entityNode s₀ e ∈ s.nodesOf .codeElement :=
        BuildState.mem_nodesOf.mpr ⟨mem, rfl⟩
      rw [h.elements] at placed
      obtain ⟨p, hp, eq⟩ := List.mem_map.mp placed
      rw [← eq] at complete ⊢
      exact countable_entityNode (languages p hp) complete

/-! ## The figures of a build -/

namespace Builder

variable {s : BuildState α}

/-- The figures can be made up where the languages that say something are keys. -/
theorem exists_metadata_iff (now : String) (skipped : Nat) :
    (∃ m, metadata s now skipped = .ok m) ↔
      ∀ p ∈ s.placed, p.entity.language.truthy = true → p.entity.language.isKey = true := by
  rw [metadata, exists_map_eq_ok_iff]
  simp only [unique_eq_ok_iff, exists_and_left, exists_eq, and_true, List.mem_filter, List.mem_map]
  constructor
  · intro keys p mem given
    exact keys _ ⟨⟨p, mem, rfl⟩, given⟩
  · rintro keys j ⟨⟨p, mem, rfl⟩, given⟩
    exact keys p mem given

/-- The number of skipped sources is given and shown. -/
theorem skipped_of_metadata {now : String} {skipped : Nat} {m : Metadata}
    (h : metadata s now skipped = .ok m) : m.skippedEntities = skipped := by
  obtain ⟨languages, -, rfl⟩ := map_eq_ok_iff.mp h
  rfl

/-! ## The whole build -/

/-- The id of the node of an entity in a workspace. -/
def idOf (workspace : Path) (e : Entity) : String :=
  entityId ((workspace.absolute e.filePath).relativeTo workspace).text e

/-- The id of the node of an entity depends on the workspace and the entity only. -/
theorem id_entityNode (s : BuildState α) (e : Entity) :
    (entityNode s e).id = idOf s.workspace e := rfl

/-- The first entity of each id. -/
def firstOfEachId (workspace : Path) (entities : List Entity) : List Entity :=
  distinctBy (fun d e => idOf workspace d == idOf workspace e) entities

/-- The entities that stand in the file of an entity. -/
def sameFile (workspace : Path) (entities : List Entity) (e : Entity) : List Entity :=
  entities.filter fun d => workspace.absolute d.filePath == workspace.absolute e.filePath

/-- What sources and a file system have to be like for a build to give a graph.  Each clause is about one of the
things that a build does not get over; that there are no others is what `build_outcome` says. -/
structure Buildable (workspace : Path) (fs : FileSystem) (sources : List Source) : Prop where
  /-- No line number is infinite. -/
  lines : ∀ r, .record r ∈ sources → Entity.ofRecord r ≠ .error .infiniteLine
  /-- The manifest is not nested too deep. -/
  manifest : fs.readJson (workspace.child "package.json") ≠ .error (.json .tooDeep)
  /-- The path of every file can name something. -/
  paths : ∀ e ∈ placedEntities workspace sources,
    FileSystem.isUsable (workspace.absolute e.filePath) = true
  /-- The language of each file is a key. -/
  fileLanguages : ∀ e ∈ placedEntities workspace sources,
    (fileLanguage (sameFile workspace (placedEntities workspace sources) e)).isKey = true
  /-- The languages that are counted are keys. -/
  languages : ∀ e ∈ firstOfEachId workspace (placedEntities workspace sources),
    e.language.truthy = true → e.language.isKey = true

variable {b : Builder α}

/-- The placed entities are the first ones of each id, so that their languages are those that are counted. -/
theorem placed_of_grown {s₀ : BuildState α} {groups : List (Path × List Entity)}
    {entities : List Entity} (h : Grown fs s₀ groups entities s) :
    (∀ p ∈ s.placed, p.entity.language.truthy = true → p.entity.language.isKey = true) ↔
      ∀ e ∈ firstOfEachId s₀.workspace entities,
        e.language.truthy = true → e.language.isKey = true := by
  rw [h.placed, List.forall_mem_map]
  exact Iff.rfl

/-- When the nodes of a build can be made, in terms of its entities. -/
theorem exists_makeNodes_iff_of_absolute {imports exports : FileMap} {sources : List Source}
    (absolute : b.workspace.isAbsolute = true) :
    (∃ s, makeNodes fs (b.initialState imports exports) (placedEntities b.workspace sources) = .ok s)
      ↔ fs.readJson (b.workspace.child "package.json") ≠ .error (.json .tooDeep) ∧
        ∀ e ∈ placedEntities b.workspace sources,
          FileSystem.isUsable (b.workspace.absolute e.filePath) = true ∧
            (fileLanguage (sameFile b.workspace (placedEntities b.workspace sources) e)).isKey
              = true := by
  have plain : ∀ e ∈ placedEntities b.workspace sources,
      Path.Plain (b.workspace.absolute e.filePath).segments := plain_of_mem_placedEntities absolute
  rw [exists_makeNodes_iff (b.fresh_initialState imports exports) plain, exists_projectNode_iff]
  refine and_congr_right fun _ => ?_
  constructor
  · intro files e mem
    have group : (b.workspace.absolute e.filePath,
        sameFile b.workspace (placedEntities b.workspace sources) e)
          ∈ (b.initialState imports exports).byFile (placedEntities b.workspace sources) :=
      mem_byFile.mpr ⟨⟨e, mem, rfl⟩, rfl⟩
    have made := files _ group
    exact exists_fileNode_iff.mp made
  · rintro all ⟨path, members⟩ group
    obtain ⟨⟨e, mem, rfl⟩, rfl⟩ := mem_byFile.mp group
    exact exists_fileNode_iff.mpr (all e mem)

section Whole

variable [Scalar α] {now : String} {input : BuildInput} {imports exports : FileMap}
  {u : BuildState α} {g : Graph α}

/-- What is counted in a build that has gone through its stages can be counted. -/
theorem Built.languages (built : Built b fs now input imports exports s u g) :
    ∀ p ∈ s.placed, p.entity.language.truthy = true → p.entity.language.isKey = true := by
  obtain ⟨new, adds⟩ := built.adds built.complete
  -- The figures are taken after the edges, which leave the placed entities as they are.
  have placed : u.placed = s.placed := by rw [adds.frame]
  rw [← placed]
  exact (exists_metadata_iff _ _).mp ⟨_, built.metadata⟩

/-- The nodes of a build can be counted, so that its communities can be found. -/
theorem Built.countable (built : Built b fs now input imports exports s u g)
    (absolute : b.workspace.isAbsolute = true) : ∀ n ∈ u.nodes.toList, n.Countable := by
  have populated := built.populated absolute
  obtain ⟨new, adds⟩ := built.adds populated.complete
  rw [adds.nodes]
  exact populated.grown.countable built.languages

/-- Once the nodes are made, only the languages can keep a build from its end: the edges can always be made, and
communities and figures count nothing but tags and languages. -/
theorem exists_built_of_made (sources : ∀ source ∈ input.sources, ∃ e?, locate b.workspace source = .ok e?)
    (importMap : fileMap b.workspace input.imports = .ok imports)
    (exportMap : fileMap b.workspace input.exports = .ok exports)
    (made : makeNodes fs (b.initialState imports exports)
      (placedEntities b.workspace input.sources) = .ok s)
    (languages : ∀ p ∈ s.placed, p.entity.language.truthy = true → p.entity.language.isKey = true) :
    ∃ u g, Built b fs now input imports exports s u g := by
  have grown := makeNodes_grown (b.fresh_initialState imports exports) made
  obtain ⟨u, related, new, adds⟩ := exists_makeEdges b fs grown.complete
  -- Counting, in the communities and in the figures.
  have countable : ∀ n ∈ u.nodes.toList, n.Countable := by
    rw [adds.nodes]
    exact grown.countable languages
  have placed : u.placed = s.placed := by rw [adds.frame]
  rw [← placed] at languages
  obtain ⟨communities, found⟩ := Community.exists_detect b.strategy countable u.edges.toList
  obtain ⟨figures, counted⟩ :=
    (exists_metadata_iff now (skippedSources b.workspace input.sources)).mpr languages
  exact ⟨u, ⟨u.nodes.toList, u.edges.toList, communities, figures⟩, sources, importMap, exportMap, made,
    related, found, counted, rfl, rfl⟩

/-- A build that gives a graph gives one with any filters, from the same nodes. -/
theorem Built.exists_withFilters (built : Built b fs now input imports exports s u g) (F : Filters α) :
    ∃ u' g', Built (b.withFilters F) fs now input imports exports s u' g' :=
  exists_built_of_made (b := b.withFilters F) built.sources built.importMap built.exportMap built.made
    built.languages

/-- Under the conditions of `Buildable` every stage of a build comes to its end. -/
theorem exists_build_of_buildable {importMembers exportMembers : Members}
    (absolute : b.workspace.isAbsolute = true) (himports : input.imports = .obj importMembers)
    (hexports : input.exports = .obj exportMembers)
    (buildable : Buildable b.workspace fs input.sources) :
    ∃ g, b.build fs now input = .ok g := by
  -- Taking in the sources and reading the file maps.
  obtain ⟨taken, htaken⟩ := exists_intake_iff.mpr buildable.lines
  obtain ⟨sources, -⟩ := intake_eq_ok_iff.mp htaken
  obtain ⟨imports, importMap⟩ := exists_fileMap b.workspace importMembers
  obtain ⟨exports, exportMap⟩ := exists_fileMap b.workspace exportMembers
  rw [← himports] at importMap
  rw [← hexports] at exportMap
  -- Making the nodes.
  obtain ⟨s, made⟩ := (exists_makeNodes_iff_of_absolute absolute).mpr
    ⟨buildable.manifest, fun e mem => ⟨buildable.paths e mem, buildable.fileLanguages e mem⟩⟩
  have grown := makeNodes_grown (b.fresh_initialState imports exports) made
  have languages := (placed_of_grown grown).mpr buildable.languages
  obtain ⟨u, g, built⟩ := exists_built_of_made sources importMap exportMap made languages
  exact ⟨g, build_eq_ok_iff.mpr ⟨imports, exports, s, u, built⟩⟩

/-- A build that gives a graph meets all conditions. -/
theorem Built.buildable (built : Built b fs now input imports exports s u g)
    (absolute : b.workspace.isAbsolute = true) : Buildable b.workspace fs input.sources := by
  obtain ⟨manifest, files⟩ := (exists_makeNodes_iff_of_absolute absolute).mp ⟨s, built.made⟩
  have lines := exists_intake_iff.mp ⟨_, intake_eq_ok_iff.mpr ⟨built.sources, rfl⟩⟩
  have languages := (placed_of_grown built.grown).mp built.languages
  exact ⟨lines, manifest, fun e mem => (files e mem).1, fun e mem => (files e mem).2, languages⟩

/-- Every placed entity has its id among the nodes. -/
theorem Built.exists_node (built : Built b fs now input imports exports s u g)
    (absolute : b.workspace.isAbsolute = true) {e : Entity}
    (mem : e ∈ placedEntities b.workspace input.sources) :
    ∃ n ∈ g.nodes, n.id = idOf b.workspace e := by
  have registered := (built.populated absolute).grown.registered e mem
  rw [id_entityNode, Catalog.contains_eq_true_iff, ← built.nodes_made] at registered
  exact List.mem_map.mp registered

end Whole

/-- **When a build gives a graph**, exactly, and what the graph says about the sources: those without a place are
counted, and every other one has its entity among the nodes.  Stage by stage, a build comes to its end under the
conditions that are about this stage, and if one of them fails it stops there. -/
theorem build_outcome [Scalar α] {now : String} {input : BuildInput}
    {importMembers exportMembers : Members}
    (absolute : b.workspace.isAbsolute = true) (imports : input.imports = .obj importMembers)
    (exports : input.exports = .obj exportMembers) :
    ((∃ g, b.build fs now input = .ok g) ↔ Buildable b.workspace fs input.sources) ∧
      ∀ g, b.build fs now input = .ok g →
        g.metadata.skippedEntities = skippedSources b.workspace input.sources ∧
          ∀ e ∈ placedEntities b.workspace input.sources,
            ∃ n ∈ g.nodes, n.id = idOf b.workspace e := by
  refine ⟨⟨?_, exists_build_of_buildable absolute imports exports⟩, ?_⟩
  · rintro ⟨g, h⟩
    obtain ⟨_, _, s, u, built⟩ := build_eq_ok_iff.mp h
    exact built.buildable absolute
  · intro g h
    obtain ⟨_, _, s, u, built⟩ := build_eq_ok_iff.mp h
    exact ⟨skipped_of_metadata built.metadata, fun e mem => built.exists_node absolute mem⟩

/-- A record that is refused costs one source. -/
theorem build_outcome_of_one_bad_record :
    (sample Rat .connectivity).workspace.isAbsolute = true ∧
      ∃ g, sampleBuild Rat .connectivity [.null, sampleRecord "a.ts" "f" .null] = .ok g ∧
        g.metadata.skippedEntities = 1 := by
  refine ⟨by decide, ?_⟩
  have finishes : (sampleBuild Rat .connectivity
      [.null, sampleRecord "a.ts" "f" .null]).toOption.any (fun _ => true) = true := by
    decide +kernel
  obtain ⟨g, h, -⟩ := exists_ok_of_any_toOption finishes
  refine ⟨g, h, ?_⟩
  rw [((build_outcome (by decide) rfl rfl).2 g h).1]
  decide +kernel

/-- One record whose language is a list ends a whole build, instead of being skipped. -/
theorem list_language_ends_build :
    sampleBuild Rat .connectivity [sampleRecord "a.ts" "f" (.arr [.int 1]), sampleRecord "b.ts" "f" .null]
      = .error (.unhashable "list") := by
  rfl

end Builder

end CodeAtlas
