import CodeAtlas.Proofs.Files
import Mathlib.Data.List.Induction

/-!
# Directories, and files of given names in them

In a well-formed file system everything stands in a directory, the current directory among it.  A directory can
be made there, with those above it, where no file stands on the way to it (`makeDirectory_ok`).  The way is the
path as it is written: below a missing directory, one that `..` leaves again is made all the same, so that it may
not be taken either.  Once it is made the path can be followed to its end (`Passes`), which it may not have been
before, and it stays so as long as no directory is taken away (`Passes.mono`).

`Unblocked` puts together what is needed for files of some names in one directory, and is kept by all that is done
to them: when the directory is made, when one of the files is written, and when one is removed.  It is said of the
places that paths lead to, whether or not they can be followed yet.
-/

namespace CodeAtlas.FileSystem

variable {fs fs' fs'' : FileSystem} {p q : Path} {segments : List String} {entry : Entry} {f : FileFault}

/-! ## Where everything stands in a directory -/

/-- The current directory is one, and so is what any entry stands in.  Every change that is made here keeps this, and
the results rest on it wherever a path leads up. -/
structure WellFormed (fs : FileSystem) : Prop where
  /-- The current directory is given from the root. -/
  rooted : fs.cwd.isAbsolute = true
  /-- It is a directory, -/
  here : fs.entryAt? fs.cwd.normalize.segments = some .directory
  /-- and so is whatever has something in it. -/
  above : ∀ segments, fs.entryAt? segments ≠ none → fs.entryAt? segments.dropLast = some .directory

/-- No file stands under segments or in front of them. -/
def Clear (fs : FileSystem) (segments : List String) : Prop :=
  ∀ front, front <+: segments → fs.fileAt front = false

/-- A directory is no file. -/
theorem fileAt_of_directory (h : fs.entryAt? segments = some .directory) : fs.fileAt segments = false := by
  rw [fileAt, h]

/-- The place of a name in a directory, which is the one above it for the name that leads up. -/
theorem locate_child (wf : fs.WellFormed) (p : Path) (x : String) : fs.locate (p.child x)
    = if x = ".." then (fs.locate p).dropLast else fs.locate p ++ [x] := by
  rw [locate, Path.join_child]
  exact Path.normalize_child_of_absolute (Path.isAbsolute_join wf.rooted p) x

/-- Nothing but directories stands in front of an entry. -/
theorem WellFormed.directory_in_front (wf : fs.WellFormed) {front : List String}
    (there : fs.entryAt? segments ≠ none) (first : front <+: segments) (ne : front ≠ segments) :
    fs.entryAt? front = some .directory := by
  induction segments using List.reverseRecOn with
  | nil => exact absurd (List.prefix_nil.mp first) ne
  | append_singleton init x ih =>
      have above : fs.entryAt? init = some .directory := by
        have := wf.above _ there
        rwa [List.dropLast_concat] at this
      rcases List.prefix_concat_iff.mp first with all | inner
      · exact absurd all ne
      · by_cases eq : front = init
        · rwa [eq]
        · exact ih (by simp [above]) inner eq

/-- No file stands on the way to a directory. -/
theorem WellFormed.clear_of_directory (wf : fs.WellFormed)
    (there : fs.entryAt? segments = some .directory) : fs.Clear segments := by
  intro front first
  refine fileAt_of_directory ?_
  by_cases eq : front = segments
  · rwa [eq]
  · exact wf.directory_in_front (by simp [there]) first eq

/-- What is in a clear place is a directory, if anything is. -/
theorem Clear.directory (clear : fs.Clear segments) (there : fs.entryAt? segments ≠ none) :
    fs.entryAt? segments = some .directory := by
  have noFile := clear segments (List.prefix_refl _)
  unfold fileAt at noFile
  cases found : fs.entryAt? segments with
  | none => exact absurd found there
  | some entry => cases entry <;> simp_all

/-- What stands in front of a place whose directory is clear does not block it. -/
theorem not_blocked (clear : fs.Clear segments.dropLast) : fs.blocked segments = false := by
  rw [blocked, List.any_eq_false]
  intro k hk
  have bound := List.mem_range.mp hk
  have inner : segments.take k <+: segments.dropLast := by
    rw [List.dropLast_eq_take]
    exact List.take_prefix_take_left (by omega)
  simp [clear _ inner]

/-- **An entry that is put into a directory** leaves a file system well formed, unless it takes the place of a
directory: what stands in that directory would then stand in a file. -/
theorem WellFormed.insert (wf : fs.WellFormed) (ne : segments ≠ [])
    (parent : fs.entryAt? segments.dropLast = some .directory)
    (keeps : fs.entryAt? segments = some .directory → entry = .directory) :
    (fs.insert segments entry).WellFormed := by
  have shorter : segments.dropLast ≠ segments := by
    intro eq
    have same := congrArg List.length eq
    have some := List.length_pos_iff.mpr ne
    rw [List.length_dropLast] at same
    omega
  refine ⟨?_, ?_, ?_⟩
  · rw [cwd_insert]
    exact wf.rooted
  · rw [cwd_insert, entryAt?_insert ne]
    split
    · next eq => rw [keeps (eq ▸ wf.here)]
    · exact wf.here
  · intro other there
    rw [entryAt?_insert ne] at there ⊢
    by_cases eq : other = segments
    · rw [eq, if_neg shorter]
      exact parent
    · rw [if_neg eq] at there
      have above := wf.above other there
      split
      · next under => rw [keeps (under ▸ above)]
      · exact above

/-! ## Paths that can be followed -/

/-- A path without segments leaves nothing. -/
theorem departures_of_no_segments (nil : p.segments = []) : p.departures = [] := by simp [Path.departures, nil]

/-- A path that is one segment longer leaves one directory more if this segment leads up. -/
theorem departures_child (p : Path) (x : String) :
    (p.child x).departures = p.departures ++ if x = ".." then [p] else [] := by
  have inner (k : Nat) (mem : k ∈ List.range p.segments.length) :
      (if (p.segments ++ [x])[k]? = some ".." then some (Path.mk p.root ((p.segments ++ [x]).take k)) else none)
        = if p.segments[k]? = some ".." then some (Path.mk p.root (p.segments.take k)) else none := by
    have bound := List.mem_range.mp mem
    rw [List.getElem?_append_left bound, List.take_append_of_le_length bound.le]
  unfold Path.departures Path.child
  dsimp only
  rw [List.length_append, List.length_singleton, List.range_succ, List.filterMap_append, List.filterMap_congr inner]
  congr 1
  by_cases up : x = ".." <;> simp [up]

/-- What a path leaves again stands on its way. -/
theorem departures_subset_ancestry (p : Path) : p.departures ⊆ p.ancestry := by
  intro q mem
  obtain ⟨k, bound, leaves⟩ := List.mem_filterMap.mp mem
  split at leaves
  · obtain rfl := Option.some.inj leaves
    exact List.mem_map.mpr ⟨k, List.mem_range.mpr (by have := List.mem_range.mp bound; omega), rfl⟩
  · cases leaves

/-- A path can be followed to its end: everything that it leaves again is a directory, if that counts. -/
def Passes (fs : FileSystem) (p : Path) : Prop := fs.impasse? p = none

/-- A path can be followed if all that counts is where it leads, or if everything that it leaves again is a directory.
-/
theorem passes_iff : fs.Passes p ↔
    fs.medium.lexical = true ∨ ∀ q ∈ p.departures, fs.entryAt? (fs.locate q) = some .directory := by
  unfold Passes impasse?
  by_cases lexical : fs.medium.lexical = true
  · simp [lexical]
  · rw [if_neg lexical, List.findSome?_eq_none_iff]
    simp only [lexical, Bool.false_eq_true, false_or]
    refine forall_congr' fun q => imp_congr_right fun _ => ?_
    split <;> simp_all

/-- A path without segments can be followed. -/
theorem Passes.of_no_segments (nil : p.segments = []) : fs.Passes p :=
  passes_iff.mpr (Or.inr (by simp [departures_of_no_segments nil]))

/-- One step further: down, or up from a directory. -/
theorem Passes.child (passes : fs.Passes p) {x : String}
    (step : x = ".." → fs.entryAt? (fs.locate p) = some .directory) : fs.Passes (p.child x) := by
  rw [passes_iff] at passes ⊢
  refine passes.imp_right fun all q mem => ?_
  rw [departures_child, List.mem_append] at mem
  rcases mem with before | last
  · exact all q before
  · split at last
    · next up =>
        obtain rfl := List.mem_singleton.mp last
        exact step up
    · cases last

/-- One step down meets nothing new. -/
theorem impasse?_child (p : Path) {x : String} (down : x ≠ "..") : fs.impasse? (p.child x) = fs.impasse? p := by
  rw [impasse?, impasse?, departures_child, if_neg down, List.append_nil]

/-- A path stays as easy to follow as it is while directories stay what they are.  This is how `Passes` is carried
through a save, where directories are made and files are written and removed. -/
theorem Passes.mono (passes : fs.Passes p) (frame : fs' = { fs with entries := fs'.entries })
    (directories : ∀ segments, fs.entryAt? segments = some .directory → fs'.entryAt? segments = some .directory) :
    fs'.Passes p := by
  have cwd : fs'.cwd = fs.cwd := by rw [frame]
  have medium : fs'.medium = fs.medium := by rw [frame]
  rw [passes_iff] at passes ⊢
  rw [medium]
  refine passes.imp_right fun all q mem => ?_
  rw [locate_congr cwd]
  exact directories _ (all q mem)

/-- Where no file stands on the way, a path that cannot be followed misses something. -/
theorem impasse?_of_clear (way : ∀ q ∈ p.ancestry, fs.Clear (fs.locate q)) (closed : ¬ fs.Passes p) :
    fs.impasse? p = some .notFound := by
  obtain ⟨fault, found⟩ := Option.ne_none_iff_exists'.mp closed
  rw [found]
  unfold impasse? at found
  split at found
  · cases found
  · obtain ⟨q, mem, missing⟩ := List.exists_of_findSome?_eq_some found
    have clear := way q (departures_subset_ancestry p mem)
    split at missing
    · cases missing
    · next file =>
        have here := clear _ (List.prefix_refl _)
        rw [fileAt, file] at here
        cases here
    · rw [absence, not_blocked fun front first => clear front (first.trans (List.dropLast_prefix _))] at missing
      exact missing.symm

/-- The directory of a path that can name something can be named. -/
theorem isUsable_parent (usable : isUsable p = true) : isUsable p.parent = true := by
  rw [isUsable, List.all_eq_true] at usable ⊢
  exact fun segment mem => usable segment (List.dropLast_subset _ mem)

/-- Such a path is not refused if it can be followed. -/
theorem checkPath_of_usable (usable : isUsable p = true) (passes : fs.Passes p) : fs.checkPath p = .ok () := by
  rw [checkPath, if_pos usable, passes]

/-- What a path leads to that can be followed. -/
theorem entry?_of_passes (passes : fs.Passes p) : fs.entry? p = fs.entryAt? (fs.locate p) := by
  unfold entry?
  rw [passes]

/-- Nothing is found in a place where nothing is, whether or not it can be reached. -/
theorem entry?_of_missing (missing : fs.entryAt? (fs.locate p) = none) : fs.entry? p = none := by
  unfold entry?
  split
  · exact missing
  · rfl

/-! ## Making directories -/

/-- A directory can be made in one that is there. -/
theorem makeOneDirectory_eq (usable : isUsable p = true) (passes : fs.Passes p)
    (missing : fs.entryAt? (fs.locate p) = none) (clear : fs.Clear (fs.locate p).dropLast)
    (parent : fs.entryAt? (fs.locate p).dropLast ≠ none) :
    fs.makeOneDirectory p = .ok (fs.insert (fs.locate p) .directory) := by
  obtain ⟨entry, above⟩ := Option.ne_none_iff_exists'.mp parent
  simp [makeOneDirectory, checkPath_of_usable usable passes, missing, not_blocked clear, above, bind, Except.bind,
    pure, Except.pure]

/-- It is not made where something is, which is told by a fault of its own, -/
theorem makeOneDirectory_of_there (usable : isUsable p = true) (passes : fs.Passes p)
    (there : fs.entryAt? (fs.locate p) ≠ none) : fs.makeOneDirectory p = .error .alreadyExists := by
  obtain ⟨entry, found⟩ := Option.ne_none_iff_exists'.mp there
  simp [makeOneDirectory, checkPath_of_usable usable passes, found, bind, Except.bind, throw, throwThe,
    MonadExceptOf.throw]

/-- nor where there is nothing to make it in, which is told by another one.  The making of several directories tells
these two apart to find out whether those above have to be made first. -/
theorem makeOneDirectory_of_parent_missing (usable : isUsable p = true) (passes : fs.Passes p)
    (missing : fs.entryAt? (fs.locate p) = none) (clear : fs.Clear (fs.locate p).dropLast)
    (parent : fs.entryAt? (fs.locate p).dropLast = none) :
    fs.makeOneDirectory p = .error .notFound := by
  simp [makeOneDirectory, checkPath_of_usable usable passes, missing, not_blocked clear, parent, bind, Except.bind,
    throw, throwThe, MonadExceptOf.throw]

/-- Where the path cannot be followed, the fault is that of following it. -/
theorem makeOneDirectory_of_impasse (usable : isUsable p = true) {fault : FileFault}
    (closed : fs.impasse? p = some fault) : fs.makeOneDirectory p = .error fault := by
  simp [makeOneDirectory, checkPath, usable, closed, bind, Except.bind]

/-- A directory has been made, with those above it, and nothing else has happened.  An entry is as it was, or it is a
directory in a place that was empty, on the way to the one that was asked for. -/
structure DirectoryMade (fs : FileSystem) (p : Path) (fs' : FileSystem) : Prop where
  /-- Nothing but entries has changed. -/
  frame : fs' = { fs with entries := fs'.entries }
  wellFormed : fs'.WellFormed
  /-- The path can be followed to its end, which it may not have been before. -/
  passes : fs'.Passes p
  /-- A directory is there. -/
  there : fs'.entryAt? (fs.locate p) = some .directory
  /-- An entry is what it was, or it is a directory where nothing was. -/
  entries : ∀ segments, fs'.entryAt? segments = fs.entryAt? segments ∨
    fs.entryAt? segments = none ∧ fs'.entryAt? segments = some .directory ∧
      ∃ q ∈ p.ancestry, fs.locate q = segments

namespace DirectoryMade

/-- The current directory is the same, -/
theorem cwd (h : DirectoryMade fs p fs') : fs'.cwd = fs.cwd := by rw [h.frame]

/-- and so is what the file system is on. -/
theorem medium (h : DirectoryMade fs p fs') : fs'.medium = fs.medium := by rw [h.frame]

/-- What is clear stays clear. -/
theorem clear (h : DirectoryMade fs p fs') (clear : fs.Clear segments) : fs'.Clear segments := by
  intro front first
  rcases h.entries front with same | ⟨-, directory, -⟩
  · rw [fileAt, same]
    exact clear front first
  · exact fileAt_of_directory directory

/-- Directories stay what they are. -/
theorem directory (h : DirectoryMade fs p fs') (there : fs.entryAt? segments = some .directory) :
    fs'.entryAt? segments = some .directory := by
  rcases h.entries segments with same | ⟨-, made, -⟩
  · rw [same, there]
  · exact made

/-- What two makings leave, the first of which was on the way to the second. -/
theorem trans (h : DirectoryMade fs q fs') (h' : DirectoryMade fs' p fs'') (sub : q.ancestry ⊆ p.ancestry) :
    DirectoryMade fs p fs'' where
  frame := by rw [h'.frame, h.frame]
  wellFormed := h'.wellFormed
  passes := h'.passes
  there := by
    have there := h'.there
    rwa [locate_congr h.cwd] at there
  entries := by
    intro segments
    rcases h'.entries segments with same | ⟨missing, made, r, above, place⟩
    · rcases h.entries segments with same' | ⟨missing, made, r, above, place⟩
      · exact Or.inl (same.trans same')
      · exact Or.inr ⟨missing, same.trans made, r, sub above, place⟩
    · refine Or.inr ⟨?_, made, r, above, by rwa [locate_congr h.cwd] at place⟩
      rcases h.entries segments with same' | ⟨-, made', -⟩
      · rwa [← same']
      · rw [missing] at made'
        cases made'

end DirectoryMade

/-- **One directory**: it is made unless it is there, if what it is to be made in is there. -/
theorem ensureDirectory_ok (wf : fs.WellFormed) (usable : isUsable p = true) (passes : fs.Passes p)
    (clear : fs.Clear (fs.locate p))
    (near : fs.entryAt? (fs.locate p) ≠ none ∨ fs.entryAt? (fs.locate p).dropLast ≠ none) :
    ∃ fs', fs.ensureDirectory p = .ok fs' ∧ DirectoryMade fs p fs' := by
  have above : fs.Clear (fs.locate p).dropLast :=
    fun front first => clear front (first.trans (List.dropLast_prefix _))
  by_cases there : fs.entryAt? (fs.locate p) = none
  · have parent := near.resolve_left (not_not_intro there)
    have ne : fs.locate p ≠ [] := fun root => by simp [root, entryAt?] at there
    have entry (segments : List String) : (fs.insert (fs.locate p) .directory).entryAt? segments
        = if segments = fs.locate p then some .directory else fs.entryAt? segments := entryAt?_insert ne _ _
    refine ⟨fs.insert (fs.locate p) .directory, ?_, frame_insert _ _ _, ?_, ?_, ?_, ?_⟩
    · rw [ensureDirectory, makeOneDirectory_eq usable passes there above parent]
    · exact wf.insert ne (above.directory parent) fun _ => rfl
    · refine passes.mono (frame_insert _ _ _) fun segments directory => ?_
      rw [entry]
      split
      · rfl
      · exact directory
    · rw [entry, if_pos rfl]
    · intro segments
      rw [entry]
      by_cases eq : segments = fs.locate p
      · exact Or.inr ⟨eq ▸ there, if_pos eq, p, p.self_mem_ancestry, eq.symm⟩
      · exact Or.inl (if_neg eq)
  · have directory := clear.directory there
    refine ⟨fs, ?_, rfl, wf, passes, directory, fun segments => Or.inl rfl⟩
    rw [ensureDirectory, makeOneDirectory_of_there usable passes there]
    simp [isDirectory, entry?_of_passes passes, directory]

/-- The directory of a path that leads somewhere below another one is there, or what it is to be made in. -/
theorem near_of_parent (wf : fs.WellFormed) (there : fs.entryAt? (fs.locate p.parent) = some .directory) :
    fs.entryAt? (fs.locate p) ≠ none ∨ fs.entryAt? (fs.locate p).dropLast ≠ none := by
  by_cases nil : p.segments = []
  · have self : p.parent = p := Path.ext rfl (by simp [Path.parent, nil])
    rw [self] at there
    exact Or.inl (by simp [there])
  · obtain ⟨x, eq⟩ := Path.exists_eq_parent_child nil
    rw [eq, locate_child wf]
    split
    · -- One step up from a directory there is a directory.
      exact Or.inl (by simp [wf.above _ (by simp [there] : fs.entryAt? (fs.locate p.parent) ≠ none)])
    · exact Or.inr (by simp [there])

/-- A path can be followed once what is above its end is there: its last segment leads up from a directory, or down.
-/
theorem passes_of_parent (passes : fs.Passes p.parent)
    (there : fs.entryAt? (fs.locate p.parent) = some .directory) : fs.Passes p := by
  by_cases nil : p.segments = []
  · exact .of_no_segments nil
  · obtain ⟨x, eq⟩ := Path.exists_eq_parent_child nil
    rw [eq]
    exact passes.child fun _ => there

/-- **A directory can be made, with those above it, where no file stands on the way.**  The induction is on the
number of segments that may still be missing: either the directory can be made at once, or something is missing
and the directory above it comes first, behind which the path can be followed. -/
theorem makeDirectoriesFrom_ok {above : Nat} (wf : fs.WellFormed) (usable : isUsable p = true)
    (way : ∀ q ∈ p.ancestry, fs.Clear (fs.locate q)) (enough : p.segments.length ≤ above) :
    ∃ fs', fs.makeDirectoriesFrom p above = .ok fs' ∧ DirectoryMade fs p fs' := by
  have clear := way p p.self_mem_ancestry
  fun_induction makeDirectoriesFrom fs p above with
  | case1 p above missing ih =>
      have shorter : p.parent.segments.length ≤ above := by
        rw [Path.parent, List.length_dropLast]
        omega
      obtain ⟨around, outer, made⟩ := ih (isUsable_parent usable)
        (fun q mem => way q (p.ancestry_parent_subset mem)) shorter
        (way _ (p.ancestry_parent_subset p.parent.self_mem_ancestry))
      have place : around.locate = fs.locate := funext fun q => locate_congr made.cwd q
      have clear' : around.Clear (around.locate p) := by
        rw [place]
        exact made.clear clear
      have there : around.entryAt? (around.locate p.parent) = some .directory := by
        rw [place]
        exact made.there
      obtain ⟨fs', last, made'⟩ := ensureDirectory_ok made.wellFormed usable (passes_of_parent made.passes there)
        clear' (near_of_parent made.wellFormed there)
      exact ⟨fs', bind_eq_ok_iff.mpr ⟨around, outer, last⟩, made.trans made' p.ancestry_parent_subset⟩
  | case2 above p notMissing =>
      have above' : fs.Clear (fs.locate p).dropLast :=
        fun front first => clear front (first.trans (List.dropLast_prefix _))
      by_cases shut : fs.ensureDirectory p = .error .notFound
      · cases above with
        | succ above => exact absurd shut (notMissing above rfl)
        | zero =>
            -- A path without segments is the root or the current directory, and both are there.
            have nil : p.segments = [] := List.length_eq_zero_iff.mp (Nat.le_zero.mp enough)
            have there : fs.entryAt? (fs.locate p) ≠ none := by
              by_cases absolute : p.isAbsolute = true
              · simp [locate, Path.join, absolute, Path.normalize, nil, entryAt?]
              · have place : fs.locate p = fs.cwd.normalize.segments := by
                  simp [locate, Path.join, absolute, nil]
                simp [place, wf.here]
            exact ensureDirectory_ok wf usable (.of_no_segments nil) clear (Or.inl there)
      · have passes : fs.Passes p := by
          by_contra closed
          refine shut ?_
          rw [ensureDirectory, makeOneDirectory_of_impasse usable (impasse?_of_clear way closed)]
        refine ensureDirectory_ok wf usable passes clear ?_
        by_contra far
        rw [not_or, not_not, not_not] at far
        refine shut ?_
        rw [ensureDirectory, makeOneDirectory_of_parent_missing usable passes far.1 above' far.2]

/-! ## Files of given names -/

/-- The entry at a path is another one, or none, and everything else is what it was. -/
structure Changed (fs : FileSystem) (p : Path) (left : Option Entry) (fs' : FileSystem) : Prop where
  frame : fs' = { fs with entries := fs'.entries }
  wellFormed : fs'.WellFormed
  /-- The entry at the path is what was asked for, -/
  here : fs'.entryAt? (fs.locate p) = left
  /-- and every other entry is what it was. -/
  elsewhere : ∀ segments, segments ≠ fs.locate p → fs'.entryAt? segments = fs.entryAt? segments

namespace Changed

variable {left left' : Option Entry}

/-- The current directory is the same, -/
theorem cwd (h : Changed fs p left fs') : fs'.cwd = fs.cwd := by rw [h.frame]

/-- and so is what the file system is on. -/
theorem medium (h : Changed fs p left fs') : fs'.medium = fs.medium := by rw [h.frame]

/-- Of two changes in one place the last one counts. -/
theorem again (h : Changed fs p left fs') (h' : Changed fs' p left' fs'') : Changed fs p left' fs'' where
  frame := by rw [h'.frame, h.frame]
  wellFormed := h'.wellFormed
  here := by
    have here := h'.here
    rwa [locate_congr h.cwd] at here
  elsewhere := by
    intro segments other
    rw [h'.elsewhere segments (by rwa [locate_congr h.cwd]), h.elsewhere segments other]

/-- Where no directory was, all directories stay what they are. -/
theorem directory (h : Changed fs p left fs') (free : fs.entryAt? (fs.locate p) ≠ some .directory)
    (there : fs.entryAt? segments = some .directory) : fs'.entryAt? segments = some .directory := by
  have other : segments ≠ fs.locate p := fun eq => free (eq ▸ there)
  rw [h.elsewhere segments other, there]

end Changed

/-- A file that is put into a directory that is there, unless a directory is in its place. -/
theorem changed_insert (wf : fs.WellFormed) (parent : fs.entryAt? (fs.locate p).dropLast = some .directory)
    (free : fs.entryAt? (fs.locate p) ≠ some .directory) (content : ByteArray) :
    Changed fs p (some (.file content)) (fs.insert (fs.locate p) (.file content)) := by
  have ne : fs.locate p ≠ [] := fun root => free (by rw [root, entryAt?, if_pos rfl])
  refine ⟨frame_insert _ _ _, wf.insert ne parent fun there => absurd there free, ?_, ?_⟩
  · rw [entryAt?_insert ne, if_pos rfl]
  · intro segments other
    rw [entryAt?_insert ne, if_neg other]

/-- **A file can be opened** in a directory that is there, unless a directory is in its place. -/
theorem create_ok (wf : fs.WellFormed) (usable : isUsable p = true) (passes : fs.Passes p)
    (parent : fs.entryAt? (fs.locate p).dropLast = some .directory)
    (free : fs.entryAt? (fs.locate p) ≠ some .directory) :
    ∃ fs', fs.create p = .ok fs' ∧ Changed fs p (some (.file .empty)) fs' := by
  have noDirectory : fs.isDirectory p = false := by
    unfold isDirectory
    rw [entry?_of_passes passes]
    split
    · next there => exact absurd there free
    · rfl
  refine ⟨fs.insert (fs.locate p) (.file .empty), ?_, changed_insert wf parent free .empty⟩
  simp [create, checkPath_of_usable usable passes, noDirectory, not_blocked (wf.clear_of_directory parent), parent,
    bind, Except.bind, pure, Except.pure]

/-- **A file that has been opened is filled** where there is room for any content. -/
theorem fill_ok (wf : fs.WellFormed) (parent : fs.entryAt? (fs.locate p).dropLast = some .directory)
    (free : fs.entryAt? (fs.locate p) ≠ some .directory) (room : fs.medium.room (fs.locate p) = none)
    (content : ByteArray) :
    ∃ fs', fs.fill p content = (fs', .ok ()) ∧ Changed fs p (some (.file content)) fs' := by
  refine ⟨fs.insert (fs.locate p) (.file content), ?_, changed_insert wf parent free content⟩
  simp [fill, taken, holds, room]

/-- An entry that is taken out of a list is not found in it any more, and the others are. -/
theorem lookup_filter_ne (entries : List (List String × Entry)) (segments other : List String) :
    (entries.filter fun e => e.1 != segments).lookup other
      = if other = segments then none else entries.lookup other := by
  induction entries with
  | nil => simp
  | cons e rest ih =>
      obtain ⟨key, value⟩ := e
      rw [List.filter_cons]
      by_cases here : key = segments
      · subst here
        rw [if_neg (by simp), ih, List.lookup_cons]
        by_cases asked : other = key
        · simp [asked]
        · simp [asked, beq_false_of_ne asked]
      · rw [if_pos (by simpa using here), List.lookup_cons, ih, List.lookup_cons]
        by_cases asked : other = segments
        · subst asked
          simp [beq_false_of_ne (Ne.symm here)]
        · simp [asked]

/-- A file system without the entry under given segments. -/
def without (fs : FileSystem) (segments : List String) : FileSystem :=
  { fs with entries := fs.entries.filter fun e => e.1 != segments }

/-- An entry that is taken away leaves all others. -/
theorem entryAt?_without (fs : FileSystem) (ne : segments ≠ []) (other : List String) :
    (fs.without segments).entryAt? other = if other = segments then none else fs.entryAt? other := by
  unfold entryAt?
  by_cases root : other = []
  · rw [if_pos root, if_pos root, root, if_neg ne.symm]
  · rw [if_neg root, if_neg root, without, lookup_filter_ne]

/-- **A file can be removed**, and then it is gone. -/
theorem erase_ok (wf : fs.WellFormed) (usable : isUsable p = true) (passes : fs.Passes p) {content : ByteArray}
    (there : fs.entryAt? (fs.locate p) = some (.file content)) :
    ∃ fs', fs.erase p = .ok fs' ∧ Changed fs p none fs' := by
  have ne : fs.locate p ≠ [] := fun root => by simp [root, entryAt?] at there
  have noDirectory : ∀ segments, fs.entryAt? segments = some .directory → segments ≠ fs.locate p := by
    intro segments directory eq
    rw [eq, there] at directory
    cases directory
  refine ⟨fs.without (fs.locate p), ?_, rfl, ⟨wf.rooted, ?_, ?_⟩, ?_, ?_⟩
  · simp [erase, checkPath_of_usable usable passes, there, bind, Except.bind, pure, Except.pure, without]
  · exact (entryAt?_without fs ne _).trans ((if_neg (noDirectory _ wf.here)).trans wf.here)
  · intro segments stays
    rw [entryAt?_without fs ne] at stays
    have above := wf.above segments fun missing => by simp [missing] at stays
    rw [entryAt?_without fs ne, if_neg (noDirectory _ above)]
    exact above
  · rw [entryAt?_without fs ne, if_pos rfl]
  · intro segments other
    rw [entryAt?_without fs ne, if_neg other]

/-- **What files of some names in a directory need**: nothing blocks the way to the directory, the files stand neither
on this way nor in the place of a directory, and there is room for them.  It is the invariant of all that is done to
the files, and says nothing of what is in them. -/
structure Unblocked (fs : FileSystem) (directory : Path) (names : List String) : Prop where
  wellFormed : fs.WellFormed
  /-- The directory and the files have paths that the file system takes. -/
  usable : isUsable directory = true ∧ ∀ x ∈ names, isUsable (directory.child x) = true
  /-- No file stands on the way to the directory, as it is written, and none in its place. -/
  way : ∀ q ∈ directory.ancestry, fs.Clear (fs.locate q)
  /-- The files do not stand on this way themselves, so that one that is written does not block it. -/
  apart : ∀ x ∈ names, ∀ q ∈ directory.ancestry, ¬ fs.locate (directory.child x) <+: fs.locate q
  /-- No directory stands in the place of a file. -/
  free : ∀ x ∈ names, fs.entryAt? (fs.locate (directory.child x)) ≠ some .directory
  /-- There is room for any content of the files. -/
  room : ∀ x ∈ names, fs.medium.room (fs.locate (directory.child x)) = none

namespace Unblocked

variable {directory : Path} {names : List String} {x y : String}

/-- No file of the names is called as the way up, -/
theorem ne_up (h : fs.Unblocked directory names) (mem : x ∈ names) : x ≠ ".." := by
  intro up
  have apart := h.apart x mem directory directory.self_mem_ancestry
  rw [FileSystem.locate_child h.wellFormed, if_pos up] at apart
  exact apart (List.dropLast_prefix _)

/-- so that they stand in the directory, -/
theorem locate_child (h : fs.Unblocked directory names) (mem : x ∈ names) :
    fs.locate (directory.child x) = fs.locate directory ++ [x] := by
  rw [FileSystem.locate_child h.wellFormed, if_neg (h.ne_up mem)]

/-- and are reached through it. -/
theorem passes_child (h : fs.Unblocked directory names) (mem : x ∈ names) (passes : fs.Passes directory) :
    fs.Passes (directory.child x) := passes.child fun up => absurd up (h.ne_up mem)

/-- The files can be written and removed. -/
theorem changed (h : fs.Unblocked directory names) (mem : x ∈ names) {left : Option Entry}
    (change : Changed fs (directory.child x) left fs') (file : left ≠ some .directory) :
    fs'.Unblocked directory names where
  wellFormed := change.wellFormed
  usable := h.usable
  way := by
    intro q above front first
    rw [locate_congr change.cwd] at first
    have other : front ≠ fs.locate (directory.child x) :=
      fun eq => h.apart x mem q above (eq ▸ first)
    rw [fileAt, change.elsewhere front other]
    exact h.way q above front first
  apart := by
    intro y mem' q above
    rw [locate_congr change.cwd, locate_congr change.cwd]
    exact h.apart y mem' q above
  free := by
    intro y mem'
    rw [locate_congr change.cwd]
    by_cases eq : fs.locate (directory.child y) = fs.locate (directory.child x)
    · rw [eq, change.here]
      exact file
    · rw [change.elsewhere _ eq]
      exact h.free y mem'
  room := by
    intro y mem'
    rw [change.medium, locate_congr change.cwd]
    exact h.room y mem'

/-- The places of the names are what they were once the directory has been made, -/
theorem entryAt?_of_made (h : fs.Unblocked directory names) (made : DirectoryMade fs directory fs')
    (mem : x ∈ names) :
    fs'.entryAt? (fs'.locate (directory.child x)) = fs.entryAt? (fs.locate (directory.child x)) := by
  rw [locate_congr made.cwd]
  rcases made.entries (fs.locate (directory.child x)) with same | ⟨-, -, q, above, place⟩
  · exact same
  · exact absurd (place ▸ List.prefix_refl _) (h.apart x mem q above)

/-- and so is all that they need. -/
theorem made (h : fs.Unblocked directory names) (made : DirectoryMade fs directory fs') :
    fs'.Unblocked directory names where
  wellFormed := made.wellFormed
  usable := h.usable
  way := by
    intro q above
    rw [locate_congr made.cwd]
    exact made.clear (h.way q above)
  apart := by
    intro x mem q above
    rw [locate_congr made.cwd, locate_congr made.cwd]
    exact h.apart x mem q above
  free := by
    intro x mem
    rw [h.entryAt?_of_made made mem]
    exact h.free x mem
  room := by
    intro x mem
    rw [made.medium, locate_congr made.cwd]
    exact h.room x mem

/-- **The directory can be made.** -/
theorem makeDirectory_ok (h : fs.Unblocked directory names) :
    ∃ fs', fs.makeDirectory directory = .ok fs' ∧ DirectoryMade fs directory fs' :=
  makeDirectoriesFrom_ok h.wellFormed h.usable.1 h.way (Nat.le_refl _)

end Unblocked

/-! ## Paths that can name something -/

/-- Whether a fault is of the path, and not of what is there. -/
def IsOfPath (f : FileFault) : Prop := ∃ problem, f = .unusablePath problem

/-- That a path cannot be followed is not a fault of the path. -/
theorem not_isOfPath_of_impasse (closed : fs.impasse? p = some f) : ¬ IsOfPath f := by
  rintro ⟨problem, rfl⟩
  unfold impasse? at closed
  split at closed
  · cases closed
  · obtain ⟨q, -, missing⟩ := List.exists_of_findSome?_eq_some closed
    split at missing
    · cases missing
    · cases missing
    · unfold absence at missing
      split at missing <;> cases missing

/-- A path that can name something may be refused, but not for itself. -/
theorem checkPath_error (usable : isUsable p = true) (refused : fs.checkPath p = .error f) : ¬ IsOfPath f := by
  rw [checkPath, if_pos usable] at refused
  split at refused
  · cases refused
  · next fault closed =>
      obtain rfl := Except.error.inj refused
      exact not_isOfPath_of_impasse closed

/-- Neither is what keeps a directory from being made at one that can name something, -/
theorem makeOneDirectory_error (usable : isUsable p = true) (refused : fs.makeOneDirectory p = .error f) :
    ¬ IsOfPath f := by
  simp only [makeOneDirectory, bind_eq_error_iff, ite_throw_eq_error_iff, pure, Except.pure, reduceCtorEq,
    and_false, or_false] at refused
  rcases refused with closed | ⟨-, -, ⟨-, rfl⟩ | ⟨-, ⟨-, rfl⟩ | ⟨-, -, rfl⟩⟩⟩
  · exact checkPath_error usable closed
  all_goals
    rintro ⟨problem, eq⟩
    cases eq

/-- also where it need not be made, -/
theorem ensureDirectory_error (usable : isUsable p = true) (refused : fs.ensureDirectory p = .error f) :
    ¬ IsOfPath f := by
  unfold ensureDirectory at refused
  split at refused
  · split at refused
    · cases refused
    · obtain rfl := Except.error.inj refused
      rintro ⟨problem, eq⟩
      cases eq
  · exact makeOneDirectory_error usable refused

/-- nor what keeps those above it from being made: by induction on how far up the making goes. -/
theorem makeDirectoriesFrom_error {above : Nat} (usable : isUsable p = true)
    (refused : fs.makeDirectoriesFrom p above = .error f) : ¬ IsOfPath f := by
  fun_induction makeDirectoriesFrom fs p above with
  | case1 p above missing ih =>
      cases outer : fs.makeDirectoriesFrom p.parent above with
      | error f' =>
          rw [outer] at refused
          obtain rfl : f' = f := Except.error.inj refused
          exact ih (isUsable_parent usable) outer
      | ok around =>
          rw [outer] at refused
          exact ensureDirectory_error usable refused
  | case2 above p last => exact ensureDirectory_error usable refused

/-- **A directory at a path that can name one** may be refused, but not for its path. -/
theorem makeDirectory_error (usable : isUsable p = true) (refused : fs.makeDirectory p = .error f) : ¬ IsOfPath f :=
  makeDirectoriesFrom_error usable refused

/-- **A file at a path that can name one** may be refused, but not for its path. -/
theorem create_error (usable : isUsable p = true) (refused : fs.create p = .error f) : ¬ IsOfPath f := by
  simp only [create, bind_eq_error_iff, ite_throw_eq_error_iff, pure, Except.pure, reduceCtorEq, and_false,
    or_false] at refused
  rcases refused with closed | ⟨-, -, ⟨-, rfl⟩ | ⟨-, ⟨-, rfl⟩ | ⟨-, -, rfl⟩⟩⟩
  · exact checkPath_error usable closed
  all_goals
    rintro ⟨problem, eq⟩
    cases eq

/-- **A file at a path that can name one** may not be found, but not for its path. -/
theorem read_error (usable : isUsable p = true) (refused : fs.read p = .error f) : ¬ IsOfPath f := by
  rw [read, bind_eq_error_iff] at refused
  rcases refused with closed | ⟨-, -, absent⟩
  · exact checkPath_error usable closed
  · rintro ⟨problem, rfl⟩
    split at absent
    · cases absent
    · cases absent
    · have fault : fs.absence (fs.locate p) = .unusablePath problem := Except.error.inj absent
      unfold absence at fault
      split at fault <;> cases fault

end CodeAtlas.FileSystem
