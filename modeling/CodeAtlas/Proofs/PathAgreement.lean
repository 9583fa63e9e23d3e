import CodeAtlas.Proofs.Containers
import CodeAtlas.Proofs.FileNodes
import Mathlib.Data.List.Infix

/-!
# One notion of path

Paths are read in several places: nodes are made for them, relations look files up, scores compare the directories of
files, and the directories on the way to a file get nodes too.  All of them go by the path that a text names in the
workspace, and the text of this path names the same one again (`BuildState.PathsAgree`).

Scores keep the segments that they have been asked for in a table.  A table is truthful if each of its entries was
worked out in some current directory (`BuildState.Truthful`); an answer keeps it so, and the segments of an absolute
path are the same in every directory, so that it makes no difference what was asked before, and where.
-/

namespace CodeAtlas

variable {α : Type}

namespace BuildState

/-! ## The table of segments -/

/-- A question for the segments of a file: the current directory, and the path. -/
abbrev Question := Path × String

/-- The table after some questions. -/
def asked (workspace : Path) (questions : List Question) : SegmentTable :=
  questions.foldl (fun known question => (askSegments question.1 workspace known question.2).2) []

/-- Each entry of a table answers one of the questions.  It may have been worked out in another current directory than
the one in which it is used, as the table does not keep that. -/
def Truthful (workspace : Path) (questions : List Question) (known : SegmentTable) : Prop :=
  ∀ filePath segments, (filePath, segments) ∈ known →
    ∃ cwd, (cwd, filePath) ∈ questions ∧ segments = directorySegments cwd workspace filePath

variable {workspace cwd : Path} {known : SegmentTable} {questions : List Question}

/-- An answer is worked out in the current directory, or was in that of an earlier question. -/
theorem askSegments_fst (cwd : Path) (filePath : String) (truthful : Truthful workspace questions known) :
    ∃ cwd', (cwd', filePath) ∈ questions ++ [(cwd, filePath)] ∧
      (askSegments cwd workspace known filePath).1 = directorySegments cwd' workspace filePath := by
  unfold askSegments
  split
  · next segments found =>
      have entry : (filePath, segments) ∈ known := by
        obtain ⟨front, back, rfl, -⟩ := List.lookup_eq_some_iff.mp found
        simp
      obtain ⟨cwd', question, rfl⟩ := truthful filePath segments entry
      exact ⟨cwd', List.mem_append_left _ question, rfl⟩
  · exact ⟨cwd, by simp, rfl⟩

/-- **One answer keeps a table truthful.** -/
theorem Truthful.ask (truthful : Truthful workspace questions known) (cwd : Path) (filePath : String) :
    Truthful workspace (questions ++ [(cwd, filePath)]) (askSegments cwd workspace known filePath).2 := by
  intro path segments entry
  unfold askSegments at entry
  split at entry
  · obtain ⟨cwd', question, rfl⟩ := truthful path segments entry
    exact ⟨cwd', List.mem_append_left _ question, rfl⟩
  · rcases List.mem_append.mp entry with old | new
    · obtain ⟨cwd', question, rfl⟩ := truthful path segments old
      exact ⟨cwd', List.mem_append_left _ question, rfl⟩
    · obtain ⟨rfl, rfl⟩ := Prod.mk.inj (List.mem_singleton.mp new)
      exact ⟨cwd, by simp, rfl⟩

/-- **So the table after any questions is truthful**, by induction over them from the last one. -/
theorem truthful_asked (workspace : Path) (questions : List Question) :
    Truthful workspace questions (asked workspace questions) := by
  induction questions using List.reverseRecOn with
  | nil => exact fun _ _ entry => nomatch entry
  | append_singleton front question ih =>
      rw [asked, List.foldl_concat]
      exact ih.ask question.1 question.2

/-- Where the current directory stays, the table changes no answer. -/
theorem askSegments_of_same_directory (workspace : Path) (same : ∀ question ∈ questions, question.1 = cwd)
    (filePath : String) :
    (askSegments cwd workspace (asked workspace questions) filePath).1
      = directorySegments cwd workspace filePath := by
  obtain ⟨cwd', question, answer⟩ := askSegments_fst cwd filePath (truthful_asked workspace questions)
  rcases List.mem_append.mp question with old | new
  · obtain rfl : cwd' = cwd := same _ old
    exact answer
  · obtain rfl : cwd' = cwd := congrArg Prod.fst (List.mem_singleton.mp new)
    exact answer

/-- A score asks for the segments of its two files, one after the other, -/
theorem askScore_snd [Scalar α] (a b : Entity) :
    (askScore (α := α) cwd workspace (asked workspace questions) a b).2
      = asked workspace (questions ++ [(cwd, a.filePath), (cwd, b.filePath)]) := by
  rw [asked, asked, List.foldl_append]
  rfl

/-- **so that it is the same with the table as without it**, whatever scores have been worked out before. -/
theorem askScore_fst [Scalar α] (around : Surroundings α) (s : BuildState α) (a b : Placed)
    (same : ∀ question ∈ questions, question.1 = around.fs.cwd) :
    (askScore around.fs.cwd s.workspace (asked s.workspace questions) a.entity b.entity).1 = score around s a b := by
  have first := askSegments_of_same_directory s.workspace same a.entity.filePath
  have same' : ∀ question ∈ questions ++ [(around.fs.cwd, a.entity.filePath)], question.1 = around.fs.cwd := by
    simpa [or_imp, forall_and] using same
  have second := askSegments_of_same_directory s.workspace same' b.entity.filePath
  rw [asked, List.foldl_concat] at second
  simp only [askScore, askTraits, score, traits]
  rw [first, ← second]
  rfl

/-! ## The directories on the way to a file -/

/-- The directories that segments lead through, as paths: the fronts of the segments that are not empty. -/
def stations (segments : List String) : List String :=
  (segments.inits.filter fun front => !front.isEmpty).map ("/".intercalate ·)

/-- Makes the nodes of the directories on the way to a file. -/
def addDirectoriesAbove (fs : FileSystem) (m : Made α) (file : Path) : Made α :=
  (directoryChain file).foldl (addDirectory fs) m

/-- That is how a file gets the directories on the way to it. -/
theorem addFile_eq (fs : FileSystem) (m : Made α) (path : Path) (entities : List Entity)
    (unknown : m.state.fileIds.lookup path.text = none) : addFile fs m (path, entities)
      = (fileNode fs m.state path entities).map fun node => addDirectoriesAbove fs
          { m with
            state := { m.state.addNode node with fileIds := m.state.fileIds ++ [(path.text, node.id)] }
            files := m.files ++ [node.id] } (path.relativeTo m.state.workspace) := by
  rw [addFile]
  dsimp only
  rw [unknown]
  rfl

/-- The fronts of a list are what is taken of it by length. -/
theorem inits_eq_map_take (segments : List String) :
    segments.inits = (List.range (segments.length + 1)).map segments.take := by
  refine List.ext_getElem (by simp) fun n _ _ => ?_
  rw [List.getElem_inits, List.getElem_map, List.getElem_range]

/-- The directories on the way to a file are those that the segments of its directory lead through. -/
theorem map_directoryChain (file : Path) :
    (directoryChain file).map ("/".intercalate ·) = stations file.segments.dropLast := by
  refine congrArg (List.map _) ?_
  rw [directoryChain, inits_eq_map_take, List.range_succ_eq_map, List.map_cons, List.map_map,
    List.filter_cons_of_neg (by simp), List.filter_eq_self.mpr]
  · rfl
  · intro front mem
    obtain ⟨k, below, rfl⟩ := List.mem_map.mp mem
    have lt := List.mem_range.mp below
    cases whole : file.segments.dropLast with
    | nil => simp [whole] at lt
    | cons segment rest => rfl

/-- They are all different. -/
theorem nodup_stations {segments : List String} (plain : Path.Plain segments) : (stations segments).Nodup := by
  refine List.Nodup.map_on ?_ (List.Nodup.filter _ ?_)
  · intro front hfront front' hfront' same
    have part := ((List.mem_inits _ _).mp (List.mem_filter.mp hfront).1).sublist
    have part' := ((List.mem_inits _ _).mp (List.mem_filter.mp hfront').1).sublist
    rw [← Path.segments_parse_intercalate (plain.sublist part), same,
      Path.segments_parse_intercalate (plain.sublist part')]
  · rw [inits_eq_map_take]
    refine List.Nodup.map_on ?_ List.nodup_range
    intro j hj k hk same
    have length := congrArg List.length same
    rw [List.length_take, List.length_take] at length
    have hj := List.mem_range.mp hj
    have hk := List.mem_range.mp hk
    omega

/-- Those directories, of some, that are not known yet. -/
def newDirectories (s : BuildState α) (keys : List String) : List String :=
  keys.filter fun key => !(s.directoryIds.lookup key).isSome

/-- Directories have been made, in order, and each is found under its path. -/
structure DirectoriesMade (keys : List String) (m m' : Made α) : Prop where
  /-- Each has an entry in the table, in order, -/
  ids : m'.state.directoryIds = m.state.directoryIds ++ keys.map fun key => (key, "dir:" ++ key)
  /-- and each is listed among those that were made. -/
  made : m'.directories = m.directories ++ keys.map ("dir:" ++ ·)

/-- Directories that are made one after the other are made together. -/
theorem DirectoriesMade.trans {keys more : List String} {m m' m'' : Made α} (first : DirectoriesMade keys m m')
    (second : DirectoriesMade more m' m'') : DirectoriesMade (keys ++ more) m m'' where
  ids := by rw [second.ids, first.ids, List.map_append, List.append_assoc]
  made := by rw [second.made, first.made, List.map_append, List.append_assoc]

/-- **A directory is made if it is not known.** -/
theorem directoriesMade_addDirectory (fs : FileSystem) (m : Made α) (segments : List String) :
    DirectoriesMade (m.state.newDirectories ["/".intercalate segments]) m (addDirectory fs m segments) := by
  rw [addDirectory, newDirectories, List.filter_singleton]
  split
  · next known =>
      rw [known]
      exact ⟨(List.append_nil _).symm, (List.append_nil _).symm⟩
  · next unknown =>
      rw [Bool.not_eq_true] at unknown
      rw [unknown]
      exact ⟨rfl, rfl⟩

/-- Making one directory makes no other one known. -/
theorem newDirectories_addDirectory (fs : FileSystem) (m : Made α) {segments : List String} {keys : List String}
    (other : "/".intercalate segments ∉ keys) :
    (addDirectory fs m segments).state.newDirectories keys = m.state.newDirectories keys := by
  refine List.filter_congr fun key mem => ?_
  have ne : (key == "/".intercalate segments) = false := beq_false_of_ne fun eq => other (eq ▸ mem)
  rw [addDirectory]
  split
  · rfl
  · show (!(List.lookup key (m.state.directoryIds ++ [_])).isSome) = _
    rw [List.lookup_append, List.lookup_cons, ne]
    simp

/-- **The directories of a chain are made as far as they are not known.**  By induction over the chain: what is made
does not make the later ones known, as they are all different. -/
theorem directoriesMade_foldl (fs : FileSystem) (chain : List (List String)) (m : Made α)
    (nodup : (chain.map ("/".intercalate ·)).Nodup) :
    DirectoriesMade (m.state.newDirectories (chain.map ("/".intercalate ·))) m (chain.foldl (addDirectory fs) m) := by
  induction chain generalizing m with
  | nil => exact ⟨(List.append_nil _).symm, (List.append_nil _).symm⟩
  | cons segments rest ih =>
      rw [List.map_cons, List.nodup_cons] at nodup
      have later := ih (addDirectory fs m segments) nodup.2
      rw [newDirectories_addDirectory fs m nodup.1] at later
      have both := (directoriesMade_addDirectory fs m segments).trans later
      rwa [newDirectories, newDirectories, ← List.filter_append, ← newDirectories, List.singleton_append] at both

/-! ## Agreement -/

/-- **Every place where a path is read goes by the same one.**  The first clause says what this path looks like, the
second that its text may be read again; the others go through the places where paths are read. -/
structure PathsAgree (s : BuildState α) (p : String) : Prop where
  /-- The path that a text names is written with a root, and between slashes it has names. -/
  written : ∃ root ∈ ["/", "//"], ∃ names : List String,
    (s.absolutePath p).text = root ++ "/".intercalate names ∧
      ∀ name ∈ names, name ≠ "" ∧ name ≠ "." ∧ name ≠ ".." ∧ '/' ∉ name.toList
  /-- Its text names it again, -/
  again : s.absolutePath (s.absolutePath p).text = s.absolutePath p
  /-- also where relations look a file up, -/
  file : s.fileId? (s.absolutePath p).text = s.fileIds.lookup (s.absolutePath p).text
  /-- and has the same relative path. -/
  relative : s.relativePath (s.absolutePath p).text = s.relativePath p
  /-- The segments that scores compare are those of the directory of the relative path, whatever was asked before. -/
  segments : ∀ (questions : List Question) (cwd : Path),
    (askSegments cwd s.workspace (asked s.workspace questions) (s.absolutePath p).text).1
      = (Path.parse (Path.directoryOf (s.relativePath p).text)).segments
  /-- The directories that are made are those that these segments lead through, as far as they are new. -/
  directories : ∀ (fs : FileSystem) (m : Made α),
    DirectoriesMade
      (m.state.newDirectories (stations (Path.parse (Path.directoryOf (s.relativePath p).text)).segments)) m
      (addDirectoriesAbove fs m (s.relativePath p))

/-- An absolute path is written with its root in front. -/
theorem exists_text_eq {p : Path} (absolute : p.isAbsolute = true) :
    ∃ root ∈ ["/", "//"], p.text = root ++ "/".intercalate p.segments := by
  obtain ⟨root, segments⟩ := p
  cases root with
  | none => cases absolute
  | single => exact ⟨"/", by simp, by simp [Path.text, Path.rootText]⟩
  | double => exact ⟨"//", by simp, by simp [Path.text, Path.rootText]⟩

/-- The directory of a relative path, as it is written, has all its segments but the last one. -/
theorem segments_directoryOf {p : Path} (relative : p.root = .none) (plain : Path.Plain p.segments) :
    (Path.parse (Path.directoryOf p.text)).segments = p.segments.dropLast := by
  obtain ⟨root, segments⟩ := p
  obtain rfl : root = .none := relative
  rcases List.eq_nil_or_concat' segments with rfl | ⟨front, last, rfl⟩
  · rfl
  · rw [Path.text_eq_intercalate (by simp), Path.directoryOf_intercalate plain, List.dropLast_concat]
    exact Path.segments_parse_intercalate (Path.plain_append.mp plain).1

/-- **All components share one notion of path**, in whatever state a build is, and for every text.  What carries this
is `Path.absolute_absolute`: in a workspace that is absolute and plain, the text of a path names the path again, so
that it is of no matter which of the components has read it first. -/
theorem pathsAgree {s : BuildState α} (absolute : s.workspace.isAbsolute = true)
    (plain : Path.Plain s.workspace.segments) (p : String) : s.PathsAgree p := by
  have own : Path.Plain (s.absolutePath p).segments := Path.plain_absolute plain p
  have rooted : (s.absolutePath p).isAbsolute = true := Path.isAbsolute_absolute absolute p
  have again : s.absolutePath (s.absolutePath p).text = s.absolutePath p := Path.absolute_absolute absolute plain p
  have way : Path.Plain (s.relativePath p).segments := own.relativeTo s.workspace
  have above := segments_directoryOf rfl way
  constructor
  case written =>
    obtain ⟨root, either, text⟩ := exists_text_eq rooted
    refine ⟨root, either, _, text, fun name mem => ?_⟩
    have segment := own name mem
    have noUp : ".." ∉ (s.absolutePath p).segments :=
      Path.up_not_mem_normalize (Path.isAbsolute_join absolute (Path.parse p))
    exact ⟨segment.ne_empty, segment.ne_dot, ne_of_mem_of_not_mem mem noUp, segment.no_slash⟩
  case again => exact again
  case file => rw [fileId?, again]
  case relative => rw [relativePath, again]; rfl
  case segments =>
    intro questions cwd
    obtain ⟨cwd', -, answer⟩ := askSegments_fst cwd (s.absolutePath p).text (truthful_asked s.workspace questions)
    have same : cwd'.absolute (s.absolutePath p).text = s.absolutePath p :=
      Path.absolute_text_absolute absolute own cwd'
    rw [answer, above, directorySegments, same]
    rfl
  case directories =>
    intro fs m
    have nodup : ((directoryChain (s.relativePath p)).map ("/".intercalate ·)).Nodup := by
      rw [map_directoryChain]
      exact nodup_stations (way.sublist (List.dropLast_sublist _))
    have made := directoriesMade_foldl fs _ m nodup
    rwa [map_directoryChain, ← above] at made

/-- A state in which one directory is known. -/
def oneDirectory : BuildState Rat where
  workspace := ⟨.single, ["ws", "app"]⟩
  directoryIds := [("src", "dir:src")]

/-- A path that leaves the workspace and comes back, with parts that reading drops. -/
theorem pathsAgree_of_detour :
    oneDirectory.workspace.isAbsolute = true ∧ Path.Plain oneDirectory.workspace.segments ∧
      oneDirectory.PathsAgree "../app//src/./ui/../lib/a.ts" ∧
      (oneDirectory.absolutePath "../app//src/./ui/../lib/a.ts").text = "/ws/app/src/lib/a.ts" ∧
      (oneDirectory.relativePath "../app//src/./ui/../lib/a.ts").text = "src/lib/a.ts" ∧
      stations ["src", "lib"] = ["src", "src/lib"] ∧
      oneDirectory.newDirectories ["src", "src/lib"] = ["src/lib"] := by
  have plain : Path.Plain oneDirectory.workspace.segments := by
    intro segment mem
    rcases List.mem_cons.mp mem with rfl | mem
    · exact ⟨by decide, by decide, by decide⟩
    · obtain rfl := List.mem_singleton.mp mem
      exact ⟨by decide, by decide, by decide⟩
  exact ⟨rfl, plain, pathsAgree rfl plain _, by decide +kernel, by decide +kernel, by decide +kernel, rfl⟩

end BuildState

end CodeAtlas
