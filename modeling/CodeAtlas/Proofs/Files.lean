import CodeAtlas.FileSystem
import CodeAtlas.Proofs.Path
import CodeAtlas.Proofs.Steps
import Mathlib.Data.Set.Insert

/-!
# What operations leave of the files

Files are compared by content, under the segments that a path comes down to.  `SameFilesBut` says that only the
files in some places may differ, and that no directory is taken away; making directories leaves all files as they are
(`SameFiles`), and a file that is written is the only one that differs (`Wrote`).

A file is written in two parts, and a fault may come in between.  Opening it leaves a file without content
(`wrote_of_create`), and filling it leaves as much of the content as there is room for (`wrote_of_fill`), so that
what is left is always the front part of what was to be written (`Front`).  All other operations answer a fault
with no file system, so that there is nothing to say about them.
-/

namespace CodeAtlas

/-- Some bytes are the front part of others.  This is all that is known of a file after a writing that broke off. -/
def Front (part whole : ByteArray) : Prop := ∃ rest, part ++ rest = whole

namespace Front

variable {a b c : ByteArray}

/-- All of the bytes are a front part of them, -/
theorem refl (a : ByteArray) : Front a a := ⟨.empty, ByteArray.append_empty⟩

/-- and the front part of a front part is one. -/
theorem trans (h : Front a b) (h' : Front b c) : Front a c := by
  obtain ⟨rest, rfl⟩ := h
  obtain ⟨rest', rfl⟩ := h'
  exact ⟨rest ++ rest', ByteArray.append_assoc.symm⟩

/-- Cutting bytes off behind a number of them leaves a front part. -/
theorem extract (a : ByteArray) (n : Nat) : Front (a.extract 0 n) a := by
  refine ⟨a.extract n a.size, ?_⟩
  rw [ByteArray.extract_append_extract, Nat.min_eq_left (Nat.zero_le n)]
  rcases Nat.le_total n a.size with le | le
  · rw [Nat.max_eq_right le, ByteArray.extract_zero_size]
  · have all := ByteArray.extract_eq_extract_append_extract (a := a) a.size (Nat.zero_le _) le
    rw [Nat.max_eq_left le, all, ByteArray.extract_zero_size, ByteArray.extract_eq_empty_iff.mpr (Nat.min_le_right _ _),
      ByteArray.append_empty]

end Front

namespace FileSystem

/-- The content of the file under given segments. -/
def contentAt? (fs : FileSystem) (segments : List String) : Option ByteArray :=
  match fs.entryAt? segments with
  | some (.file content) => some content
  | _ => none

/-- The content of the file in the place that a path leads to. -/
def content? (fs : FileSystem) (p : Path) : Option ByteArray := fs.contentAt? (fs.locate p)

/-- Two file systems have the same files except in some places, and the second one has all directories of the first
one.  Their current directory and their medium are one.  Nothing is said of what is in these places, nor of new
directories. -/
structure SameFilesBut (fs : FileSystem) (touched : Set (List String)) (fs' : FileSystem) : Prop where
  /-- Nothing but entries differs. -/
  frame : fs' = { fs with entries := fs'.entries }
  /-- Elsewhere a file has the content that it had, and where there was none there is none. -/
  content : ∀ segments, segments ∉ touched → fs'.contentAt? segments = fs.contentAt? segments
  /-- A directory stays one. -/
  directory : ∀ segments, fs.entryAt? segments = some .directory → fs'.entryAt? segments = some .directory

/-- Two file systems have the same files, and the second one has all directories of the first one. -/
abbrev SameFiles (fs fs' : FileSystem) : Prop := fs.SameFilesBut ∅ fs'

/-- The second file system has a file with a given content where a path leads to, and everywhere else the files of
the first one. -/
structure Wrote (fs : FileSystem) (p : Path) (content : ByteArray) (fs' : FileSystem) : Prop where
  /-- The content is there, -/
  here : fs'.content? p = some content
  /-- and nothing else has changed. -/
  elsewhere : fs.SameFilesBut {fs.locate p} fs'

/-- The second file system has two files with given contents where two paths lead to, and everywhere else the files
of the first one. -/
structure WroteBoth (fs : FileSystem) (p : Path) (content : ByteArray) (q : Path) (content' : ByteArray)
    (fs' : FileSystem) : Prop where
  first : fs'.content? p = some content
  second : fs'.content? q = some content'
  /-- Nothing else has changed. -/
  elsewhere : fs.SameFilesBut {fs.locate p, fs.locate q} fs'

variable {fs fs' fs'' fs₀ : FileSystem} {p q : Path} {content content' : ByteArray}
  {touched touched' : Set (List String)}

/-- Where a path leads to depends on the current directory alone. -/
theorem locate_congr (cwd : fs'.cwd = fs.cwd) (p : Path) : fs'.locate p = fs.locate p := by
  rw [locate, cwd, locate]

namespace SameFilesBut

/-- No operation changes the current directory, -/
theorem cwd (h : fs.SameFilesBut touched fs') : fs'.cwd = fs.cwd := by rw [h.frame]

/-- nor the medium, -/
theorem medium (h : fs.SameFilesBut touched fs') : fs'.medium = fs.medium := by rw [h.frame]

/-- so that paths lead where they led. -/
theorem locate (h : fs.SameFilesBut touched fs') (p : Path) : fs'.locate p = fs.locate p := locate_congr h.cwd p

/-- A file system has the same files as itself, -/
theorem refl (fs : FileSystem) (touched : Set (List String)) : fs.SameFilesBut touched fs :=
  ⟨rfl, fun _ _ => rfl, fun _ there => there⟩

/-- also if more places are left out. -/
theorem mono (h : fs.SameFilesBut touched fs') (sub : touched ⊆ touched') : fs.SameFilesBut touched' fs' :=
  ⟨h.frame, fun segments out => h.content segments fun mem => out (sub mem), h.directory⟩

/-- What two changes leave alone is left alone by both together. -/
theorem trans (h : fs.SameFilesBut touched fs') (h' : fs'.SameFilesBut touched' fs'') :
    fs.SameFilesBut (touched ∪ touched') fs'' where
  frame := by rw [h'.frame, h.frame]
  content segments out := by
    rw [Set.mem_union, not_or] at out
    rw [h'.content segments out.2, h.content segments out.1]
  directory segments there := h'.directory segments (h.directory segments there)

/-- Two changes in the same places are one. -/
theorem again (h : fs.SameFilesBut touched fs') (h' : fs'.SameFilesBut touched fs'') :
    fs.SameFilesBut touched fs'' := by
  simpa using h.trans h'

/-- The file that a path leads to is as it was, unless this is one of the places. -/
theorem content? (h : fs.SameFilesBut touched fs') (out : fs.locate p ∉ touched) :
    fs'.content? p = fs.content? p := by
  rw [FileSystem.content?, h.locate, h.content _ out, FileSystem.content?]

end SameFilesBut

namespace SameFiles

/-- A file system has the same files as itself. -/
theorem refl (fs : FileSystem) : SameFiles fs fs := SameFilesBut.refl fs ∅

/-- What a change leaves alone is left alone by it and what came before. -/
theorem before (h : SameFiles fs fs') (h' : fs'.SameFilesBut touched fs'') : fs.SameFilesBut touched fs'' := by
  simpa using SameFilesBut.trans h h'

/-- What leaves all files alone does so together with what else does. -/
theorem trans (h : SameFiles fs fs') (h' : SameFiles fs' fs'') : SameFiles fs fs'' := h.before h'

/-- A file that is written after directories have been made is the only one that has been written. -/
theorem wrote (h : SameFiles fs fs') (h' : Wrote fs' p content fs'') : Wrote fs p content fs'' where
  here := h'.here
  elsewhere := by
    have elsewhere := h'.elsewhere
    rw [h.locate] at elsewhere
    simpa using SameFilesBut.trans h elsewhere

end SameFiles

namespace Wrote

/-- It is so too if directories are made afterwards. -/
theorem sameFiles (h : Wrote fs p content fs') (h' : SameFiles fs' fs'') : Wrote fs p content fs'' where
  here := (h'.content? (Set.notMem_empty _)).trans h.here
  elsewhere := by simpa using SameFilesBut.trans h.elsewhere h'

/-- What is written last stays. -/
theorem again (h : Wrote fs p content fs') (h' : Wrote fs' p content' fs'') : Wrote fs p content' fs'' where
  here := h'.here
  elsewhere := by
    have elsewhere := h'.elsewhere
    rw [h.elsewhere.locate] at elsewhere
    simpa using SameFilesBut.trans h.elsewhere elsewhere

/-- A file in another place is as it was. -/
theorem content?_ne (h : Wrote fs p content fs') (apart : fs.locate q ≠ fs.locate p) :
    fs'.content? q = fs.content? q := h.elsewhere.content? (Set.mem_singleton_iff.not.mpr apart)

/-- Two files that are written in different places are both there. -/
theorem both (h : Wrote fs p content fs') (h' : Wrote fs' q content' fs'') (apart : fs.locate q ≠ fs.locate p) :
    WroteBoth fs p content q content' fs'' where
  first := by
    have apart' : fs'.locate p ≠ fs'.locate q := by
      rw [h.elsewhere.locate, h.elsewhere.locate]
      exact apart.symm
    rw [h'.content?_ne apart', h.here]
  second := h'.here
  elsewhere := by
    have elsewhere := h'.elsewhere
    rw [h.elsewhere.locate] at elsewhere
    exact h.elsewhere.trans elsewhere

/-- What is written stays, and what was there stays, around a writing that other files change before and behind.  It
is by this lemma that a run may report to its log in between. -/
theorem within (before : fs₀.SameFilesBut touched fs) (h : Wrote fs p content fs')
    (after : fs'.SameFilesBut touched fs'') (out : fs₀.locate p ∉ touched) :
    fs''.content? p = some content ∧ fs₀.SameFilesBut (touched ∪ {fs₀.locate p}) fs'' := by
  have elsewhere := h.elsewhere
  rw [before.locate] at elsewhere
  constructor
  · rw [after.content? (by rwa [elsewhere.locate, before.locate]), h.here]
  · have all := (before.trans elsewhere).trans after
    exact all.mono (Set.union_subset (Set.Subset.refl _) Set.subset_union_left)

end Wrote

/-- The same around two writings. -/
theorem WroteBoth.within (before : fs₀.SameFilesBut touched fs) (h : WroteBoth fs p content q content' fs')
    (after : fs'.SameFilesBut touched fs'') (out : fs₀.locate p ∉ touched) (out' : fs₀.locate q ∉ touched) :
    fs''.content? p = some content ∧ fs''.content? q = some content' ∧
      fs₀.SameFilesBut (touched ∪ {fs₀.locate p, fs₀.locate q}) fs'' := by
  have elsewhere := h.elsewhere
  rw [before.locate, before.locate] at elsewhere
  refine ⟨?_, ?_, ?_⟩
  · rw [after.content? (by rwa [elsewhere.locate, before.locate]), h.first]
  · rw [after.content? (by rwa [elsewhere.locate, before.locate]), h.second]
  · have all := (before.trans elsewhere).trans after
    exact all.mono (Set.union_subset (Set.Subset.refl _) Set.subset_union_left)

/-- Two entries of one directory stand in different places, unless the first one is the mark for the way up. -/
theorem locate_child_ne (fs : FileSystem) (p : Path) {x y : String} (name : x ≠ "..") (ne : x ≠ y) :
    fs.locate (p.child x) ≠ fs.locate (p.child y) := by
  rw [FileSystem.locate, FileSystem.locate, Path.join_child, Path.join_child]
  exact Path.normalize_child_ne _ name ne

/-! ## Entries -/

/-- What passes can be followed, -/
theorem impasse?_of_checkPath (h : fs.checkPath p = .ok ()) : fs.impasse? p = none := by
  unfold checkPath at h
  split at h
  · split at h
    · next free => exact free
    · cases h
  · cases h

/-- and names what stands where it leads to. -/
theorem entry?_of_checkPath (h : fs.checkPath p = .ok ()) : fs.entry? p = fs.entryAt? (fs.locate p) := by
  unfold entry?
  rw [impasse?_of_checkPath h]

/-- An entry that is replaced in a list is found as the new one, and all others are found as they were. -/
theorem lookup_replace (entries : List (List String × Entry)) (segments other : List String)
    (entry : Entry) :
    (entries.map fun e => if e.1 = segments then (segments, entry) else e).lookup other
      = if other = segments then (entries.lookup segments).map fun _ => entry
        else entries.lookup other := by
  induction entries with
  | nil => simp
  | cons e rest ih =>
      obtain ⟨key, value⟩ := e
      rw [List.map_cons]
      by_cases here : key = segments
      · subst here
        rw [if_pos rfl, List.lookup_cons, ih, List.lookup_cons_self]
        by_cases asked : other = key
        · simp [asked]
        · simp [asked, beq_false_of_ne asked, List.lookup_cons]
      · rw [if_neg here, List.lookup_cons, ih]
        by_cases asked : other = segments
        · subst asked
          simp [beq_false_of_ne (Ne.symm here), List.lookup_cons]
        · simp [asked, List.lookup_cons]

/-- **What is inserted is there**, and everything else is what it was. -/
theorem entryAt?_insert {segments : List String} (ne : segments ≠ []) (entry : Entry)
    (other : List String) : (fs.insert segments entry).entryAt? other
      = if other = segments then some entry else fs.entryAt? other := by
  unfold insert
  rw [if_neg ne]
  by_cases root : other = []
  · subst root
    rw [if_neg ne.symm]
    split <;> simp [entryAt?]
  · split
    · next known =>
        obtain ⟨old, found⟩ := Option.isSome_iff_exists.mp known
        simp only [entryAt?, if_neg root, lookup_replace, found, Option.map_some]
    · next unknown =>
        rw [Option.not_isSome_iff_eq_none] at unknown
        simp only [entryAt?, if_neg root, List.lookup_append]
        by_cases asked : other = segments
        · subst asked
          simp [unknown]
        · have miss : (other == segments) = false := by simpa using asked
          simp [asked, miss, List.lookup_cons]

/-- An entry that is inserted changes the entries only, -/
theorem frame_insert (fs : FileSystem) (segments : List String) (entry : Entry) :
    fs.insert segments entry = { fs with entries := (fs.insert segments entry).entries } := by
  unfold insert
  split
  · rfl
  · split <;> rfl

/-- so that the current directory is the same. -/
theorem cwd_insert (fs : FileSystem) (segments : List String) (entry : Entry) :
    (fs.insert segments entry).cwd = fs.cwd := by rw [frame_insert]

/-! ## Operations -/

/-- Where a file is there is no directory. -/
theorem ne_directory_of_content? (there : fs.content? p = some content) :
    fs.entryAt? (fs.locate p) ≠ some .directory := by
  intro directory
  rw [content?, contentAt?, directory] at there
  cases there

/-- A file that is put where its path leads to, and where no directory is, is written. -/
theorem wrote_insert (free : fs.entryAt? (fs.locate p) ≠ some .directory) (content : ByteArray) :
    Wrote fs p content (fs.insert (fs.locate p) (.file content)) := by
  have ne : fs.locate p ≠ [] := fun root => free (by rw [root, entryAt?, if_pos rfl])
  refine ⟨?_, frame_insert _ _ _, ?_, ?_⟩
  · rw [content?, locate_congr (cwd_insert _ _ _), contentAt?, entryAt?_insert ne, if_pos rfl]
  · intro segments other
    rw [contentAt?, entryAt?_insert ne, if_neg (Set.mem_singleton_iff.not.mp other), contentAt?]
  · intro segments there
    rw [entryAt?_insert ne, if_neg fun here : segments = fs.locate p => free (here ▸ there), there]

/-- A file that is opened is put where its path leads to, and where no directory is. -/
theorem insert_of_create (h : fs.create p = .ok fs') :
    fs.entryAt? (fs.locate p) ≠ some .directory ∧ fs.insert (fs.locate p) (.file .empty) = fs' := by
  unfold create at h
  simp only [bind_eq_ok_iff, ite_throw_eq_ok_iff, pure, Except.pure, Except.ok.injEq] at h
  obtain ⟨⟨⟩, passes, notDirectory, -, -, rfl⟩ := h
  refine ⟨?_, rfl⟩
  intro there
  apply notDirectory
  simp [isDirectory, entry?_of_checkPath passes, there]

/-- **A file that is opened is emptied**, whatever it held before: from here on the old content is lost, also if
nothing is written afterwards. -/
theorem wrote_of_create (h : fs.create p = .ok fs') : Wrote fs p .empty fs' := by
  obtain ⟨free, rfl⟩ := insert_of_create h
  exact wrote_insert free .empty

/-- **Filling a file leaves as much as there is room for.** -/
theorem wrote_of_fill (there : fs.content? p ≠ none) (content : ByteArray) :
    Wrote fs p (fs.taken p content) (fs.fill p content).1 := by
  obtain ⟨old, there⟩ := Option.ne_none_iff_exists'.mp there
  exact wrote_insert (ne_directory_of_content? there) _

/-- A file takes a front part of what it is filled with. -/
theorem front_taken (fs : FileSystem) (p : Path) (content : ByteArray) : Front (fs.taken p content) content := by
  unfold taken
  split
  · exact Front.refl content
  · exact Front.extract content _

/-- If there is no fault, it is all of it, -/
theorem taken_of_fill_ok (h : (fs.fill p content).2 = .ok ()) : fs.taken p content = content := by
  have held : fs.holds p content = true := by
    by_contra full
    rw [fill, if_neg full] at h
    cases h
  unfold holds at held
  unfold taken
  split at held
  · rfl
  · next room _ =>
      obtain ⟨rest, whole⟩ := Front.extract content room
      have size := congrArg ByteArray.size whole
      have fits : content.size ≤ room := of_decide_eq_true held
      rw [ByteArray.size_append, ByteArray.size_extract, Nat.min_eq_right fits] at size
      have none : rest = .empty := ByteArray.size_eq_zero_iff.mp (by omega)
      rw [none, ByteArray.append_empty] at whole
      exact whole

/-- and otherwise there is no more room. -/
theorem fill_error {f : FileFault} (h : (fs.fill p content).2 = .error f) : f = .noSpace := by
  unfold fill at h
  dsimp only at h
  split at h
  · cases h
  · exact (Except.error.inj h).symm

/-- A directory that is made takes no file's place, -/
theorem sameFiles_of_makeOneDirectory (h : fs.makeOneDirectory p = .ok fs') : SameFiles fs fs' := by
  unfold makeOneDirectory at h
  simp only [bind_eq_ok_iff, ite_throw_eq_ok_iff, pure, Except.pure, Except.ok.injEq] at h
  obtain ⟨-, -, missing, -, -, rfl⟩ := h
  rw [Option.not_isSome_iff_eq_none] at missing
  have ne : fs.locate p ≠ [] := by
    intro root
    rw [root] at missing
    cases missing
  refine ⟨frame_insert _ _ _, ?_, ?_⟩
  · intro segments _
    -- There was nothing in the place of the new directory, and in particular no file.
    rw [contentAt?, entryAt?_insert ne, contentAt?]
    by_cases here : segments = fs.locate p
    · rw [if_pos here, here, missing]
    · rw [if_neg here]
  · intro segments there
    rw [entryAt?_insert ne]
    split
    · rfl
    · exact there

/-- and one that is there is left as it is. -/
theorem sameFiles_of_ensureDirectory (h : fs.ensureDirectory p = .ok fs') : SameFiles fs fs' := by
  unfold ensureDirectory at h
  split at h
  · split at h
    · obtain rfl := Except.ok.inj h
      exact SameFiles.refl fs
    · cases h
  · exact sameFiles_of_makeOneDirectory h

/-- **Making directories leaves the files as they are**, however many of them have to be made first.  By induction on
how many may be missing. -/
theorem sameFiles_of_makeDirectoriesFrom {above : Nat} (h : fs.makeDirectoriesFrom p above = .ok fs') :
    SameFiles fs fs' := by
  fun_induction makeDirectoriesFrom fs p above generalizing fs' with
  | case1 p above missing ih =>
      obtain ⟨made, outer, last⟩ := bind_eq_ok_iff.mp h
      exact (ih outer).trans (sameFiles_of_ensureDirectory last)
  | case2 p above last => exact sameFiles_of_ensureDirectory h

/-- The same for a directory with all those above it. -/
theorem sameFiles_of_makeDirectory (h : fs.makeDirectory p = .ok fs') : SameFiles fs fs' :=
  sameFiles_of_makeDirectoriesFrom h

end FileSystem

end CodeAtlas
