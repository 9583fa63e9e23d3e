import CodeAtlas.Proofs.Build
import Mathlib.Data.List.Induction
import Mathlib.Data.List.Pairwise

/-!
# Which file nodes a graph has

A file is known by two texts.  Tables have its absolute path for a key, and the id of its node is made of its path in
the workspace.  The second one does not show the root that a path starts with, and there are two of them, one slash
and two slashes.  So two absolute paths that differ in their roots alone are two files for the tables and one for the
nodes, and these are the only ones (`Path.text_relativeTo_eq_iff`).

`Builder.files_told_by_segments` says what this means for a build: of the files with the same segments the first one
has a node, and there is a node for each file exactly when all of them have the same root.

A build goes through its files one by one, and `FileNodesMade` is what holds after some of them.

## Outline

A file that is taken up is looked at in two ways, by its key in the table and by the id of its node.
`FileNodesMade` lists the files that have got a node, as the first ones of each list of segments among the files so
far; one step of the run either adds the new file to this list or finds its id taken by a file of the same segments
(`FileNodesMade.addFile`).  The invariant of the tables and nodes (`FilesMade`) is carried along, as it is what
tells whether an id is taken.
-/

namespace CodeAtlas

variable {α : Type} {fs : FileSystem}

/-- Whether two paths differ in their roots at most. -/
def Path.sameSegments (p q : Path) : Bool := p.segments == q.segments

/-- Equal members need not be gone through twice: they are the same under any relation that is reflexive. -/
theorem distinctBy_distinct {β : Type} [BEq β] [LawfulBEq β] {same : β → β → Bool}
    (refl : ∀ a, same a a = true) (xs : List β) :
    distinctBy same (distinct xs) = distinctBy same xs := by
  induction xs using List.reverseRecOn with
  | nil => rfl
  | append_singleton xs a ih =>
      rw [distinct, distinctBy_concat, distinctBy_concat, ← distinct]
      by_cases known : a ∈ xs
      · have again : xs.any (· == a) = true := List.any_eq_true.mpr ⟨a, known, by simp⟩
        have same : xs.any (same · a) = true := List.any_eq_true.mpr ⟨a, known, refl a⟩
        rw [if_pos again, if_pos same, List.append_nil, List.append_nil, ih]
      · have first : ¬ xs.any (· == a) = true := by simpa using known
        have there : (distinct xs).any (same · a) = xs.any (same · a) := by
          rw [Bool.eq_iff_iff, List.any_eq_true, List.any_eq_true]
          simp only [mem_distinct]
        rw [if_neg first, distinctBy_concat, there, ih]

/-! ## Steps that make no file nodes -/

/-- Taking up directories makes nodes of directories only, -/
theorem nodesOf_addDirectories {kind : NodeKind} (ne : kind ≠ .directory) (chain : List (List String))
    (m : Made α) :
    (chain.foldl (BuildState.addDirectory fs) m).state.nodesOf kind = m.state.nodesOf kind := by
  refine List.foldlRecOn (motive := fun t : Made α => t.state.nodesOf kind = m.state.nodesOf kind) chain
    _ rfl fun t same segments _ => ?_
  rw [BuildState.addDirectory]
  split
  · exact same
  · exact (nodesOf_addNode_of_ne ne.symm).trans same

/-- and placing entities makes code elements only. -/
theorem nodesOf_addEntities {kind : NodeKind} (ne : kind ≠ .codeElement) (entities : List Entity)
    (s : BuildState α) : (s.addEntities entities).state.nodesOf kind = s.nodesOf kind := by
  refine List.foldlRecOn (motive := fun t : Made α => t.state.nodesOf kind = s.nodesOf kind) entities
    _ rfl fun t same e _ => ?_
  rw [BuildState.addEntity]
  split
  · exact same
  · exact (nodesOf_addNode_of_ne ne.symm).trans same

/-! ## Files, one by one -/

/-- A path as reading and resolving in an absolute directory leave it. -/
structure Path.Resolved (p : Path) : Prop where
  /-- Its segments are those that reading leaves, -/
  plain : Path.Plain p.segments
  /-- and none of them leads up. -/
  noUp : ".." ∉ p.segments

/-- What holds once the nodes of some files have been made: to what is known of the tables and the nodes it adds which
files have a node.  It is kept by taking up one more file, and so holds after all of them. -/
structure FileNodesMade (fs : FileSystem) (s₀ : BuildState α) (groups : List (Path × List Entity))
    (m : Made α) : Prop extends FilesMade fs s₀ groups m where
  /-- There is a node for the first file of those with the same segments. -/
  nodes : (m.state.nodesOf .file).map .ok
    = (distinctBy (fun g h => g.1.sameSegments h.1) groups).map fun g => fileNode fs s₀ g.1 g.2

section Run

variable {s₀ : BuildState α} {front back : List (Path × List Entity)} {group : Path × List Entity}
  {m m' : Made α}

/-- The id of a file is taken iff a file in front of it has the same segments.  No other kind of node can have taken
it, by the mark at the beginning of ids. -/
theorem FilesMade.contains_file_iff (h : FilesMade fs s₀ front m)
    (resolved : ∀ g ∈ front ++ [group], g.1.Resolved) {n : Node}
    (made : fileNode fs s₀ group.1 group.2 = .ok n) :
    m.state.nodes.contains n.id = true ↔ front.any (fun g => g.1.sameSegments group.1) = true := by
  have here := resolved group (by simp)
  have same_iff : ∀ g ∈ front, (g.1.relativeTo s₀.workspace).text
      = (group.1.relativeTo s₀.workspace).text ↔ g.1.segments = group.1.segments := by
    intro g mem
    have there := resolved g (List.mem_append_left _ mem)
    exact Path.text_relativeTo_eq_iff there.plain here.plain there.noUp here.noUp _
  have id : n.id = "file:" ++ (group.1.relativeTo s₀.workspace).text := (fileNode_shape made).1
  rw [List.any_eq_true]
  constructor
  · intro taken
    obtain ⟨n', mem, eq⟩ := List.mem_map.mp (Catalog.contains_eq_true_iff.mp taken)
    have origin := h.grown.origin n' mem
    -- The id may be that of any node so far.  Its mark tells that the node is a file.
    have file : Origin fs s₀ (front ++ [group]) [] n := .file (by simp) made
    have wider : Origin fs s₀ (front ++ [group]) [] n' :=
      origin.mono (List.subset_append_left _ _) (List.Subset.refl _)
    have kind : n'.kind = .file := (wider.kind_eq file eq).trans (fileNode_shape made).2.1
    cases origin with
    | project made' => simp [(projectNode_shape made').2.1] at kind
    | @file g _ given made' =>
        rw [(fileNode_shape made').1, id, String.append_right_inj] at eq
        exact ⟨g, given, by simpa [Path.sameSegments] using (same_iff g given).mp eq⟩
    | directory => simp [directoryNode] at kind
    | element => simp [entityNode] at kind
  · rintro ⟨g, mem, same⟩
    have segments : g.1.segments = group.1.segments := by simpa [Path.sameSegments] using same
    obtain ⟨key, found⟩ := Option.isSome_iff_exists.mp
      (h.indexed.files g.1 (List.mem_map_of_mem mem))
    obtain ⟨node, path, known, text, rfl⟩ := h.indexed.file _ _ found
    obtain ⟨g', given, rfl⟩ := List.mem_map.mp known
    have there := resolved g' (List.mem_append_left _ given)
    have same' := (Path.text_eq_iff there.plain (resolved g (List.mem_append_left _ mem)).plain).mp text
    rw [h.grown.workspace, (same_iff g' given).mpr (same'.1.trans segments), ← id] at node
    exact node

/-- **A file gets a node unless one in front of it has the same segments.**  This is the step that the nodes of all
files are put together by. -/
theorem FileNodesMade.addFile (h : FileNodesMade fs s₀ front m)
    (texts : ((front ++ group :: back).map fun g => g.1.text).Nodup)
    (resolved : ∀ g ∈ front ++ group :: back, g.1.Resolved)
    (made : BuildState.addFile fs m group = .ok m') : FileNodesMade fs s₀ (front ++ [group]) m' := by
  refine { h.toFilesMade.addFile texts made with nodes := ?_ }
  have unknown := h.toFilesMade.unknown texts
  rw [BuildState.addFile, if_neg (by simp [unknown])] at made
  obtain ⟨n, hn, rfl⟩ := map_eq_ok_iff.mp made
  rw [fileNode_congr h.grown.workspace h.grown.imports h.grown.exports] at hn
  have sofar : ∀ g ∈ front ++ [group], g.1.Resolved :=
    fun g mem => resolved g (by simp at mem ⊢; tauto)
  have taken := h.toFilesMade.contains_file_iff sofar hn
  have kind : n.kind = .file := (fileNode_shape hn).2.1
  have other : NodeKind.file ≠ .directory := by decide
  rw [nodesOf_addDirectories other]
  show ((m.state.addNode n).nodesOf .file).map _ = _
  rw [nodesOf_addNode_of_eq kind, distinctBy_concat, List.map_append, List.map_append, h.nodes]
  by_cases known : m.state.nodes.contains n.id = true
  · rw [if_pos known, if_pos (taken.mp known)]
    rfl
  · rw [if_neg known, if_neg fun same => known (taken.mpr same), List.map_singleton,
      List.map_singleton, hn]

variable {entities : List Entity} {s : BuildState α}

/-- **The file nodes that are made** are those of the first files of each list of segments.  Files are taken up from
the front, and `FileNodesMade` is what is known of those so far (`runUntilFault_invariant`). -/
theorem makeNodes_files (fresh : Fresh s₀)
    (resolved : ∀ e ∈ entities, (s₀.absolutePath e.filePath).Resolved)
    (made : Builder.makeNodes fs s₀ entities = .ok s) :
    (s.nodesOf .file).map (·.absolutePath)
      = (distinctBy Path.sameSegments (entities.map fun e => s₀.absolutePath e.filePath)).map
          fun path => some path.text := by
  obtain ⟨project, m, hproject, run, rfl⟩ := makeNodes_eq_ok_iff.mp made
  have texts := nodup_text_byFile fun e mem => (resolved e mem).plain
  have groups : ∀ g ∈ s₀.byFile entities, g.1.Resolved := by
    rintro ⟨path, members⟩ mem
    obtain ⟨⟨e, given, rfl⟩, -⟩ := mem_byFile.mp mem
    exact resolved e given
  have start : FileNodesMade fs s₀ [] { state := s₀.addNode project } := by
    refine { filesMade_start fresh hproject with nodes := ?_ }
    have kind : project.kind ≠ .file := by simp [(projectNode_shape hproject).2.1]
    show ((s₀.addNode project).nodesOf .file).map _ = _
    rw [nodesOf_addNode_of_ne kind, BuildState.nodesOf, fresh.nodes]
    rfl
  have files : FileNodesMade fs s₀ (s₀.byFile entities) m :=
    runUntilFault_invariant (FileNodesMade fs s₀) [] _
      (fun front b back u u' all holds step => holds.addFile (by rwa [all]) (by rwa [all]) step) start run
  have other : NodeKind.file ≠ .codeElement := by decide
  have refl : ∀ path : Path, path.sameSegments path = true := fun path => beq_self_eq_true _
  rw [nodesOf_addEntities other, ← distinctBy_distinct refl, ← map_fst_byFile, distinctBy_map,
    List.map_map]
  exact map_eq_of_map_ok files.nodes.symm fun g n made => (fileNode_shape made).2.2.1

end Run

/-! ## The files of a build -/

/-- The absolute paths that the file nodes of a graph show. -/
def Graph.filesShown (g : Graph α) : List (Option String) :=
  (g.nodes.filter (·.kind == .file)).map (·.absolutePath)

namespace Builder

variable {b : Builder α}

/-- The absolute path of the file of each entity that is placed. -/
def filePaths (b : Builder α) (input : BuildInput) : List Path :=
  (placedEntities b.workspace input.sources).map fun e => b.workspace.absolute e.filePath

/-- The files of entities that are placed have been read and resolved. -/
theorem resolved_of_mem_placedEntities {workspace : Path} (absolute : workspace.isAbsolute = true)
    (sources : List Source) : ∀ e ∈ placedEntities workspace sources, (workspace.absolute e.filePath).Resolved :=
  fun e mem => ⟨plain_of_mem_placedEntities absolute e mem,
    Path.up_not_mem_normalize (Path.isAbsolute_join absolute _)⟩

section Whole

variable [Scalar α] {now : String} {input : BuildInput} {imports exports : FileMap}
  {s u : BuildState α} {g : Graph α}

/-- The files that a graph shows, in terms of the paths of its entities. -/
theorem Built.filesShown_eq (built : Built b fs now input imports exports s u g)
    (absolute : b.workspace.isAbsolute = true) :
    g.filesShown = (distinctBy Path.sameSegments (b.filePaths input)).map fun path => some path.text := by
  have files := makeNodes_files (b.fresh_initialState imports exports)
    (resolved_of_mem_placedEntities absolute _) built.made
  rw [Graph.filesShown, built.nodes_made]
  exact files

end Whole

/-- Keeping one path of each list of segments is keeping all of them where no two differ in their roots alone. -/
theorem distinctBy_sameSegments_eq_iff {paths : List Path} (plain : ∀ p ∈ paths, Path.Plain p.segments) :
    (distinctBy Path.sameSegments paths).map (fun path => some path.text)
        = (distinct paths).map (fun path => some path.text)
      ↔ ∀ p ∈ paths, ∀ q ∈ paths, p.segments = q.segments → p.root = q.root := by
  constructor
  · intro all p hp q hq segments
    -- Both paths are kept, for the text of each is the text of one that is.
    have kept : ∀ r ∈ paths, r ∈ distinctBy Path.sameSegments paths := by
      intro r hr
      have shown : some r.text ∈ (distinct paths).map fun path => some path.text :=
        List.mem_map_of_mem (mem_distinct.mpr hr)
      rw [← all] at shown
      obtain ⟨r', mem, text⟩ := List.mem_map.mp shown
      rwa [← Path.text_inj (plain r' (mem_of_mem_distinctBy mem)) (plain r hr) (Option.some.inj text)]
    by_contra roots
    have ne : p ≠ q := fun eq => roots (congrArg Path.root eq)
    have symm : Std.Symm fun p q : Path => p.sameSegments q = false :=
      ⟨fun p q apart => by rwa [Path.sameSegments, BEq.comm]⟩
    have apart := (pairwise_distinctBy Path.sameSegments paths).forall (kept p hp) (kept q hq) ne
    simp [Path.sameSegments, segments] at apart
  · intro roots
    have same : ∀ p ∈ paths, ∀ q ∈ paths, p.sameSegments q = (p == q) := by
      intro p hp q hq
      rw [Bool.eq_iff_iff, Path.sameSegments, beq_iff_eq, beq_iff_eq]
      exact ⟨fun segments => Path.ext (roots p hp q hq segments) segments, congrArg Path.segments⟩
    rw [distinctBy_congr same, distinct]

/-- Which files a builder tells apart. -/
structure FileIdentity [Scalar α] (b : Builder α) : Prop where
  /-- Seen from the workspace, two paths have one text iff they have the same segments. -/
  relative : ∀ p q : String, ((b.workspace.absolute p).relativeTo b.workspace).text
      = ((b.workspace.absolute q).relativeTo b.workspace).text
    ↔ (b.workspace.absolute p).segments = (b.workspace.absolute q).segments
  /-- They have one absolute text iff they have the same root as well. -/
  absolute : ∀ p q : String, (b.workspace.absolute p).text = (b.workspace.absolute q).text
    ↔ (b.workspace.absolute p).segments = (b.workspace.absolute q).segments ∧
      (b.workspace.absolute p).root = (b.workspace.absolute q).root
  /-- Of the files with the same segments the first one has a node, -/
  nodes : ∀ {fs : FileSystem} {now : String} {input : BuildInput} {g : Graph α},
    b.build fs now input = .ok g → g.filesShown
      = (distinctBy Path.sameSegments (b.filePaths input)).map fun path => some path.text
  /-- and so each file has one iff those with the same segments have the same root. -/
  each : ∀ {fs : FileSystem} {now : String} {input : BuildInput} {g : Graph α},
    b.build fs now input = .ok g →
      (g.filesShown = (distinct (b.filePaths input)).map (fun path => some path.text)
        ↔ ∀ p ∈ b.filePaths input, ∀ q ∈ b.filePaths input, p.segments = q.segments → p.root = q.root)

/-- **Files are told apart by their segments**, and by nothing else.  The tables tell them apart by the root as well,
and it is exactly the files that differ in their roots alone for which the tables and the nodes disagree. -/
theorem files_told_by_segments [Scalar α] (absolute : b.workspace.isAbsolute = true)
    (plain : Path.Plain b.workspace.segments) : FileIdentity b := by
  have noUp : ∀ p : String, ".." ∉ (b.workspace.absolute p).segments :=
    fun p => Path.up_not_mem_normalize (Path.isAbsolute_join absolute _)
  refine ⟨fun p q => ?_, fun p q => ?_, fun h => ?_, fun {fs now input g} h => ?_⟩
  · exact Path.text_relativeTo_eq_iff (Path.plain_absolute plain p) (Path.plain_absolute plain q) (noUp p)
      (noUp q) _
  · exact Path.text_eq_iff (Path.plain_absolute plain p) (Path.plain_absolute plain q)
  · obtain ⟨_, _, s, u, built⟩ := build_eq_ok_iff.mp h
    exact built.filesShown_eq absolute
  · obtain ⟨_, _, s, u, built⟩ := build_eq_ok_iff.mp h
    have paths : ∀ p ∈ b.filePaths input, Path.Plain p.segments := by
      intro p mem
      obtain ⟨e, -, rfl⟩ := List.mem_map.mp mem
      exact Path.plain_absolute plain _
    rw [built.filesShown_eq absolute]
    exact distinctBy_sameSegments_eq_iff paths

/-- Two files of one directory, one of which is named twice. -/
theorem files_told_by_segments_of_two_files :
    (sample Rat .connectivity).workspace.isAbsolute = true ∧
      Path.Plain (sample Rat .connectivity).workspace.segments ∧
      ∃ g, sampleBuild Rat .connectivity (["a.ts", "b.ts", "./b.ts"].map (sampleRecord · "f" .null)) = .ok g ∧
        g.filesShown = [some "/ws/a.ts", some "/ws/b.ts"] := by
  have plain : Path.Plain (sample Rat .connectivity).workspace.segments := by
    intro segment mem
    obtain rfl := List.mem_singleton.mp mem
    exact ⟨by decide, by decide, by decide⟩
  have finishes : (sampleBuild Rat .connectivity
      (["a.ts", "b.ts", "./b.ts"].map (sampleRecord · "f" .null))).toOption.any (fun _ => true) = true := by
    decide +kernel
  obtain ⟨g, h, -⟩ := exists_ok_of_any_toOption finishes
  refine ⟨rfl, plain, g, h, ?_⟩
  rw [(files_told_by_segments rfl plain).nodes h]
  decide +kernel

/-- Two slashes in front of the second path make it another file for the tables, which has no node of its own. -/
theorem two_roots_share_a_node :
    let b := sample Rat .connectivity
    ((b.workspace.absolute "a.ts").relativeTo b.workspace).text
        = ((b.workspace.absolute "//ws/a.ts").relativeTo b.workspace).text ∧
      (b.workspace.absolute "a.ts").text ≠ (b.workspace.absolute "//ws/a.ts").text ∧
      ∃ g, sampleBuild Rat .connectivity [sampleRecord "a.ts" "f" .null, sampleRecord "//ws/a.ts" "g" .null]
          = .ok g ∧ g.filesShown = [some "/ws/a.ts"] := by
  intro b
  refine ⟨by decide +kernel, by decide +kernel, ?_⟩
  have one : (sampleBuild Rat .connectivity
      [sampleRecord "a.ts" "f" .null, sampleRecord "//ws/a.ts" "g" .null]).toOption.any
        (fun g => g.filesShown == [some "/ws/a.ts"]) = true := by
    decide +kernel
  obtain ⟨g, h, shown⟩ := exists_ok_of_any_toOption one
  exact ⟨g, h, by simpa using shown⟩

end Builder

end CodeAtlas
