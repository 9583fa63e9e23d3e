import CodeAtlas.Proofs.Outcome
import CodeAtlas.Proofs.Uncounted
import Mathlib.Data.List.Induction

/-!
# Sources given again

Sources that a build has been given already, given again behind the others, add nothing to its graph.  An entity
is dropped when its id is taken, but this happens late: before that, the files of all entities have been made,
and the node of a file counts its entities, and takes its language and its tags from them.  The language is the
first one that is given and the tags are distinct, so that the count is the only thing to change
(`fileNode_append`).

No later stage looks at the counts (`BuildState.ignores_relateAll`, `Community.detect_uncounted`).  So the build has
the same edges, in the same order and with the same weights, the same communities, and the same figures but for the
number of sources that were skipped (`Builder.sources_given_again`).

## Outline

The two builds are followed side by side.  Files come first: grouping puts the repeated entities into the groups
that are there already (`byFile_append`), so that both builds go through the same files, each with more entities in
the second build.  The invariant is that the states are one state when counts are left out (`addFiles_again`).
Entities come next, and those that are repeated find their ids taken (`foldl_addEntity_of_registered`).  From there
on nothing reads the counts.
-/

namespace CodeAtlas

/-! ## Distinct members -/

/-- Members that are there add none. -/
theorem distinct_append_of_subset {β : Type} [BEq β] [LawfulBEq β] {xs ys : List β} (sub : ys ⊆ xs) :
    distinct (xs ++ ys) = distinct xs := by
  induction ys using List.reverseRecOn with
  | nil => rw [List.append_nil]
  | append_singleton ys y ih =>
      obtain ⟨front, last⟩ := List.append_subset.mp sub
      have known : (xs ++ ys).any (· == y) = true :=
        List.any_eq_true.mpr ⟨y, List.mem_append_left ys (last List.mem_cons_self), beq_self_eq_true y⟩
      rw [← List.append_assoc, distinct, distinctBy_concat, if_pos known, List.append_nil]
      exact ih front

/-- Tags that are there add none. -/
theorem uniqueTexts_append_of_subset {texts again : List String} (sub : again ⊆ texts) :
    Tags.uniqueTexts (texts ++ again) = Tags.uniqueTexts texts := by
  rw [Tags.uniqueTexts, distinct_append_of_subset sub, ← Tags.uniqueTexts]

/-- What is found first is found without the members that come again. -/
theorem find?_append_of_subset {β : Type} {p : β → Bool} {xs ys : List β} (sub : ys ⊆ xs) :
    (xs ++ ys).find? p = xs.find? p := by
  rw [List.find?_append]
  cases found : xs.find? p with
  | some x => rfl
  | none =>
      rw [List.find?_eq_none] at found
      exact List.find?_eq_none.mpr fun y mem => found y (sub mem)

/-! ## Files -/

variable {α : Type} {fs : FileSystem}

/-- **The node of a file whose entities are given again** differs in its count alone.  The language is the first one
that is given, the tags are distinct, and what else the node shows comes from the file and its maps. -/
theorem fileNode_append (s : BuildState α) (path : Path) {entities again : List Entity}
    (sub : again ⊆ entities) : (fileNode fs s path (entities ++ again)).map Node.uncounted
      = (fileNode fs s path entities).map Node.uncounted := by
  have language : ((entities ++ again).map (·.language)).find? Json.truthy
      = (entities.map (·.language)).find? Json.truthy := by
    rw [List.map_append]
    exact find?_append_of_subset (List.map_subset _ sub)
  have types : Tags.uniqueTexts ((entities ++ again).map (·.elementType))
      = Tags.uniqueTexts (entities.map (·.elementType)) := by
    rw [List.map_append]
    exact uniqueTexts_append_of_subset (List.map_subset _ sub)
  unfold fileNode
  rw [language, types]
  cases fileFigures fs path with
  | error f => rfl
  | ok figures =>
      dsimp only [bind, Except.bind]
      split <;> rfl

/-- Entities that are given again come behind the others of their files, and bring no new file. -/
theorem byFile_append (s : BuildState α) {entities again : List Entity} (sub : again ⊆ entities) :
    s.byFile (entities ++ again) = (s.byFile entities).map fun group =>
      (group.1, group.2 ++ again.filter fun e => s.absolutePath e.filePath == group.1) := by
  rw [byFile_eq, byFile_eq, List.map_append, distinct_append_of_subset (List.map_subset _ sub), List.map_map]
  refine List.map_congr_left fun path _ => ?_
  rw [List.filter_append]
  rfl

/-! ## Runs that go along with each other -/

/-- What a step has made, without the counts. -/
def Made.uncounted (m : Made α) : Made α := { m with state := m.state.uncounted }

/-- What has been made without counts has the state without them. -/
@[simp] theorem Made.state_uncounted (m : Made α) : m.uncounted.state = m.state.uncounted := rfl

namespace BuildState

/-- Taking up a directory does not look at counts, -/
theorem uncounted_addDirectory (m : Made α) (segments : List String) :
    (addDirectory fs m segments).uncounted = addDirectory fs m.uncounted segments := by
  have other : (directoryNode fs m.state.workspace segments).uncounted
      = directoryNode fs m.state.workspace segments := Node.uncounted_of_ne (by simp [directoryNode])
  have added := m.state.uncounted_addNode (directoryNode fs m.state.workspace segments)
  rw [other] at added
  unfold addDirectory
  dsimp only
  split
  · next known => exact (if_pos known).symm
  · next unknown =>
      refine Eq.trans ?_ (if_neg unknown).symm
      rw [Made.state_uncounted, workspace_uncounted, ← added]
      rfl

/-- nor does placing an entity, -/
theorem uncounted_addEntity (m : Made α) (e : Entity) :
    (addEntity m e).uncounted = addEntity m.uncounted e := by
  have other : (entityNode m.state e).uncounted = entityNode m.state e :=
    Node.uncounted_of_ne (by simp [entityNode])
  have same : entityNode m.state.uncounted e = entityNode m.state e := entityNode_congr rfl e
  have added := m.state.uncounted_addNode (entityNode m.state e)
  rw [other] at added
  simp only [addEntity, Made.state_uncounted, same, contains_uncounted]
  split
  · next known => rfl
  · next unknown =>
      rw [← added]
      rfl

/-- or several. -/
theorem uncounted_addEntities (s : BuildState α) (entities : List Entity) :
    (s.addEntities entities).uncounted = s.uncounted.addEntities entities := by
  have start : ({ state := s.uncounted } : Made α) = Made.uncounted { state := s } := rfl
  rw [addEntities, addEntities, start]
  exact (List.foldl_hom Made.uncounted fun m e => (uncounted_addEntity m e).symm).symm

/-- What is made of the node of a file that is not known yet, and of the directories on the way to it. -/
def withFile (fs : FileSystem) (m : Made α) (path : Path) (node : Node) : Made α :=
  (directoryChain (path.relativeTo m.state.workspace)).foldl (addDirectory fs)
    { m with
      state := { m.state.addNode node with fileIds := m.state.fileIds ++ [(path.text, node.id)] }
      files := m.files ++ [node.id] }

/-- That is what becomes of a file that has no entry. -/
theorem addFile_of_unknown {m : Made α} {path : Path} (unknown : m.state.fileIds.lookup path.text = none)
    (entities : List Entity) : addFile fs m (path, entities)
      = (fileNode fs m.state path entities).map (withFile fs m path) := by
  rw [addFile, if_neg (by simp [unknown])]
  rfl

/-- It does not look at the counts of other files either. -/
theorem uncounted_withFile (m : Made α) (path : Path) (node : Node) :
    (withFile fs m path node).uncounted = withFile fs m.uncounted path node.uncounted := by
  have added := m.state.uncounted_addNode node
  have start : { m.uncounted with
        state := { m.uncounted.state.addNode node.uncounted with
          fileIds := m.uncounted.state.fileIds ++ [(path.text, node.uncounted.id)] }
        files := m.uncounted.files ++ [node.uncounted.id] }
      = Made.uncounted { m with
          state := { m.state.addNode node with fileIds := m.state.fileIds ++ [(path.text, node.id)] }
          files := m.files ++ [node.id] } := by
    rw [Made.state_uncounted, ← added, Node.uncounted_id]
    rfl
  rw [withFile, withFile, start]
  exact (List.foldl_hom Made.uncounted fun m segments => (uncounted_addDirectory m segments).symm).symm

/-- Runs that differ in their counts still do so when a file has been gone through of which the nodes do. -/
theorem addFile_follows {m m' t : Made α} {path : Path} {entities entities' : List Entity}
    (along : m'.uncounted = m.uncounted)
    (same : (fileNode fs m.state path entities').map Node.uncounted
      = (fileNode fs m.state path entities).map Node.uncounted)
    (made : addFile fs m (path, entities) = .ok t) :
    ∃ t', addFile fs m' (path, entities') = .ok t' ∧ t'.uncounted = t.uncounted := by
  have state : m'.state.uncounted = m.state.uncounted := congrArg Made.state along
  have workspace : m'.state.workspace = m.state.workspace := (congrArg BuildState.workspace state :)
  have imports : m'.state.imports = m.state.imports := (congrArg BuildState.imports state :)
  have exports : m'.state.exports = m.state.exports := (congrArg BuildState.exports state :)
  have fileIds : m'.state.fileIds = m.state.fileIds := (congrArg BuildState.fileIds state :)
  cases known : m.state.fileIds.lookup path.text with
  | some id =>
      rw [addFile, if_pos (by simp [known])] at made
      obtain rfl := Except.ok.inj made
      exact ⟨m', if_pos (by simp [fileIds, known]), along⟩
  | none =>
      rw [addFile_of_unknown known] at made
      obtain ⟨node, hnode, rfl⟩ := map_eq_ok_iff.mp made
      -- The other node can be made as well, and only its count is another one.
      rw [hnode] at same
      obtain ⟨node', hnode', alike⟩ := map_eq_ok_iff.mp same
      refine ⟨withFile fs m' path node', ?_, ?_⟩
      · rw [addFile_of_unknown (by rw [fileIds, known]), fileNode_congr workspace imports exports, hnode']
        rfl
      · rw [uncounted_withFile, uncounted_withFile, along, alike]

/-- **Runs over files of which the entities are given again** differ in their counts alone.  By induction over the
files: the states of both runs are the same without counts, which is all that taking up a file looks at. -/
theorem addFiles_again (groups : List (Path × List Entity)) (members : Path → List Entity)
    (sub : ∀ group ∈ groups, members group.1 ⊆ group.2) {m m' t : Made α}
    (along : m'.uncounted = m.uncounted) (run : runUntilFault (addFile fs) m groups = (t, none)) :
    ∃ t', runUntilFault (addFile fs) m' (groups.map fun group => (group.1, group.2 ++ members group.1))
      = (t', none) ∧ t'.uncounted = t.uncounted := by
  induction groups generalizing m m' with
  | nil => exact ⟨m', rfl, along.trans (congrArg (fun r => r.1.uncounted) run)⟩
  | cons group rest ih =>
      obtain ⟨here, later⟩ := List.forall_mem_cons.mp sub
      rw [runUntilFault] at run
      cases made : addFile fs m group with
      | error f => simp [made] at run
      | ok n =>
          rw [made] at run
          obtain ⟨n', made', along'⟩ := addFile_follows along (fileNode_append m.state group.1 here) made
          obtain ⟨t', run', same⟩ := ih later along' run
          exact ⟨t', by rw [List.map_cons, runUntilFault, made']; exact run', same⟩

/-- Entities whose ids are taken are left out, all of them. -/
theorem foldl_addEntity_of_registered {m : Made α} (again : List Entity)
    (registered : ∀ e ∈ again, m.state.nodes.contains (entityNode m.state e).id = true) :
    again.foldl addEntity m = m := by
  induction again with
  | nil => rfl
  | cons e rest ih =>
      obtain ⟨here, later⟩ := List.forall_mem_cons.mp registered
      have dropped : addEntity m e = m := if_pos here
      rw [List.foldl_cons, dropped, ih later]

end BuildState

/-- **The nodes of entities that are given again** are the same but for the counts: the files first, each with more
entities than before, and then the entities, of which those that come again have their ids taken. -/
theorem makeNodes_again {s₀ s : BuildState α} (fresh : Fresh s₀) {entities again : List Entity}
    (sub : again ⊆ entities) (made : Builder.makeNodes fs s₀ entities = .ok s) :
    ∃ s', Builder.makeNodes fs s₀ (entities ++ again) = .ok s' ∧ s'.uncounted = s.uncounted := by
  have grown := makeNodes_grown fresh made
  obtain ⟨project, m, hproject, run, rfl⟩ := makeNodes_eq_ok_iff.mp made
  -- The files are the same, and the entities that come again are among those of their files.
  have files : ∀ group ∈ s₀.byFile entities,
      (again.filter fun e => s₀.absolutePath e.filePath == group.1) ⊆ group.2 := by
    rintro ⟨path, members⟩ mem e there
    obtain ⟨-, rfl⟩ := mem_byFile.mp mem
    obtain ⟨given, located⟩ := List.mem_filter.mp there
    exact List.mem_filter.mpr ⟨sub given, located⟩
  obtain ⟨m', run', along⟩ := BuildState.addFiles_again (s₀.byFile entities)
    (fun path => again.filter fun e => s₀.absolutePath e.filePath == path) files rfl run
  rw [← byFile_append s₀ sub] at run'
  have same : (m'.state.addEntities entities).uncounted = (m.state.addEntities entities).uncounted := by
    have states : m'.state.uncounted = m.state.uncounted := congrArg Made.state along
    rw [BuildState.uncounted_addEntities, BuildState.uncounted_addEntities, states]
  have state : (m'.state.addEntities entities).state.uncounted = (m.state.addEntities entities).state.uncounted :=
    congrArg Made.state same
  -- They are registered when it is their turn again.
  have stays : m'.state.addEntities (entities ++ again) = m'.state.addEntities entities := by
    rw [BuildState.addEntities, List.foldl_append]
    refine BuildState.foldl_addEntity_of_registered again fun e mem => ?_
    have workspace : (m'.state.addEntities entities).state.workspace = s₀.workspace :=
      (congrArg BuildState.workspace state :).trans grown.workspace
    have registered := grown.registered e (sub mem)
    rw [← BuildState.contains_uncounted, ← state, BuildState.contains_uncounted,
      ← entityNode_congr workspace] at registered
    exact registered
  refine ⟨_, makeNodes_eq_ok_iff.mpr ⟨project, m', hproject, run', rfl⟩, ?_⟩
  rw [stays]
  exact state

/-! ## Whole builds -/

/-- Two graphs that differ only in how many entities a file has and how many sources were skipped. -/
structure Graph.SameButCounts (g g' : Graph α) : Prop where
  /-- The nodes are the same but for the number of entities that a file shows. -/
  nodes : g'.nodes.map Node.uncounted = g.nodes.map Node.uncounted
  /-- Edges are the same, in the same order and with the same weights, -/
  edges : g'.edges = g.edges
  /-- communities are the same, -/
  communities : g'.communities = g.communities
  /-- and so are all figures but the number of skipped sources. -/
  metadata : g'.metadata = { g.metadata with skippedEntities := g'.metadata.skippedEntities }

namespace Builder

variable [Scalar α] {b : Builder α} {now : String} {input : BuildInput} {imports exports : FileMap}
  {s u : BuildState α} {g : Graph α} {again : List Source}

omit [Scalar α] in
/-- The figures of a build are those of its state, with the number of the skipped sources. -/
theorem metadata_eq_ok {skipped skipped' : Nat} {m m' : Metadata} (h : metadata s now skipped = .ok m)
    (h' : metadata s now skipped' = .ok m') : m' = { m with skippedEntities := m'.skippedEntities } := by
  obtain ⟨languages, unique, rfl⟩ := map_eq_ok_iff.mp h
  obtain ⟨languages', unique', rfl⟩ := map_eq_ok_iff.mp h'
  obtain rfl := Except.ok.inj (unique.symm.trans unique')
  rfl

/-- A build goes through the same stages when sources are given again. -/
theorem Built.exists_again (built : Built b fs now input imports exports s u g) (sub : again ⊆ input.sources) :
    ∃ s' u' g', Built b fs now { input with sources := input.sources ++ again } imports exports s' u' g' ∧
      u'.uncounted = u.uncounted := by
  obtain ⟨s', made, same⟩ := makeNodes_again (b.fresh_initialState imports exports)
    (placedEntities_subset sub) built.made
  rw [← placedEntities_append] at made
  have sources : ∀ source ∈ input.sources ++ again, ∃ e?, locate b.workspace source = .ok e? := by
    intro source mem
    exact built.sources source ((List.mem_append.mp mem).elim id (sub ·))
  have placed : s'.placed = s.placed := (congrArg BuildState.placed same :)
  have languages := built.languages
  rw [← placed] at languages
  obtain ⟨u', g', built'⟩ : ∃ u' g', Built b fs now { input with sources := input.sources ++ again }
      imports exports s' u' g' :=
    exists_built_of_made sources built.importMap built.exportMap made languages
  refine ⟨s', u', g', built', ?_⟩
  obtain ⟨count, run⟩ := built.relateAll
  obtain ⟨count', run'⟩ := built'.relateAll
  have here := BuildState.ignores_relateAll ⟨fs, b.filters, b.extensions⟩ s
  have there := BuildState.ignores_relateAll ⟨fs, b.filters, b.extensions⟩ s'
  rw [run] at here
  rw [same, here, run'] at there
  exact (congrArg Prod.fst there).symm

/-- **Sources that are given again change nothing** in a graph but the counts of files and the number of the sources
that were skipped.  That both builds go through states that are the same without counts carries the proof; edges,
communities and figures are made of such a state. -/
theorem sources_given_again (h : b.build fs now input = .ok g) (sub : again ⊆ input.sources) :
    ∃ g', b.build fs now { input with sources := input.sources ++ again } = .ok g' ∧ g.SameButCounts g' ∧
      g'.metadata.skippedEntities = g.metadata.skippedEntities + skippedSources b.workspace again := by
  obtain ⟨imports, exports, s, u, built⟩ := build_eq_ok_iff.mp h
  obtain ⟨s', u', g', built', same⟩ := built.exists_again sub
  have edges : u'.edges = u.edges := (congrArg BuildState.edges same :)
  have nodes : Community.Nodes.uncounted u'.nodes = Community.Nodes.uncounted u.nodes :=
    (congrArg BuildState.nodes same :)
  refine ⟨g', build_eq_ok_iff.mpr ⟨imports, exports, s', u', built'⟩, ⟨?_, ?_, ?_, ?_⟩, ?_⟩
  · rw [built.nodes, built'.nodes]
    exact congrArg Catalog.toList nodes
  · rw [built.edges, built'.edges, edges]
  · have found := built'.communities
    rw [← Community.detect_uncounted, nodes, edges, Community.detect_uncounted, built.communities] at found
    exact (Except.ok.inj found).symm
  · have figures := built'.metadata
    rw [← metadata_uncounted, same, metadata_uncounted] at figures
    exact metadata_eq_ok built.metadata figures
  · rw [skipped_of_metadata built.metadata, skipped_of_metadata built'.metadata]
    exact List.countP_append

/-- The first of two functions is given again, with a record that has no place. -/
theorem sources_given_again_of_two_functions :
    let records := [sampleRecord "a.ts" "f" .null, .null, sampleRecord "b.ts" "g" .null]
    let again := [.null, sampleRecord "a.ts" "f" .null]
    again.map Source.record ⊆ records.map Source.record ∧
      ∃ g g', sampleBuild Rat .connectivity records = .ok g ∧
        sampleBuild Rat .connectivity (records ++ again) = .ok g' ∧ g.SameButCounts g' ∧
        g'.metadata.skippedEntities = 2 := by
  intro records again
  have sub : again.map Source.record ⊆ records.map Source.record := by
    simp [again, records]
  have finishes : (sampleBuild Rat .connectivity records).toOption.any
      (fun g => g.metadata.skippedEntities == 1) = true := by decide +kernel
  obtain ⟨g, h, one⟩ := exists_ok_of_any_toOption finishes
  obtain ⟨g', h', same, skipped⟩ := sources_given_again h sub
  refine ⟨sub, g, g', h, ?_, same, ?_⟩
  · rw [sampleBuild, List.map_append]
    exact h'
  · rw [skipped, eq_of_beq one]
    decide +kernel

end Builder

end CodeAtlas
