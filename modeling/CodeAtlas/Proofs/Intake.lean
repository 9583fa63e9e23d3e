import CodeAtlas.Build.Intake
import CodeAtlas.Proofs.Path
import CodeAtlas.Proofs.Steps

/-!
# What a build takes in

A source is placed under an entity or skipped.  Only a record with an infinite line number is neither, and
then the whole build fails.  `intake_eq_ok_iff` says what is taken in otherwise: the placed entities, in the
order of their sources, and the number of the skipped ones.

An entity is placed under the text of an absolute path.  Reading this text again gives a plain path
(`plain_of_placed?`), which is what tells files apart by their texts from there on.
-/

namespace CodeAtlas

variable {workspace : Path}

/-- The entity that a source is placed under; none for one that is skipped. -/
def Source.placed? (workspace : Path) (source : Source) : Option Entity :=
  match locate workspace source with
  | .ok e? => e?
  | .error _ => none

/-- The entities that some sources are placed under. -/
def placedEntities (workspace : Path) (sources : List Source) : List Entity :=
  sources.filterMap (·.placed? workspace)

/-- The number of sources that are skipped. -/
def skippedSources (workspace : Path) (sources : List Source) : Nat :=
  sources.countP fun source => (source.placed? workspace).isNone

/-- What comes behind is placed behind. -/
theorem placedEntities_append (workspace : Path) (sources more : List Source) :
    placedEntities workspace (sources ++ more)
      = placedEntities workspace sources ++ placedEntities workspace more := List.filterMap_append

/-- Of fewer sources no other entities are placed. -/
theorem placedEntities_subset {sources more : List Source} (sub : more ⊆ sources) :
    placedEntities workspace more ⊆ placedEntities workspace sources := by
  intro e mem
  obtain ⟨source, given, placed⟩ := List.mem_filterMap.mp mem
  exact List.mem_filterMap.mpr ⟨source, sub given, placed⟩

/-- Only a record with an infinite line number is neither placed nor skipped. -/
theorem exists_locate_iff {source : Source} :
    (∃ e?, locate workspace source = .ok e?)
      ↔ ∀ r, source = .record r → Entity.ofRecord r ≠ .error .infiniteLine := by
  rw [locate, exists_map_eq_ok_iff]
  cases source with
  | draft d => simp [Source.entity?]
  | record r =>
      simp only [Source.entity?, Source.record.injEq, forall_eq']
      split <;> simp_all

/-- **What is taken in**, once every source can be read: the placed entities, in the order of their sources, and the
number of the skipped ones.  Where no source is at fault, what each is located under is what `placed?` answers, and
the program goes through these answers once more for either of the two. -/
theorem intake_eq_ok_iff {sources : List Source} {taken : Intake} :
    intake workspace sources = .ok taken ↔
      (∀ source ∈ sources, ∃ e?, locate workspace source = .ok e?) ∧
        taken = ⟨placedEntities workspace sources, skippedSources workspace sources⟩ := by
  -- What the sources are located under is what `placed?` answers for each of them.
  have read : ∀ {located : List (Option Entity)},
      sources.map (locate workspace) = located.map .ok →
        located = sources.map (·.placed? workspace) := by
    intro located eq
    have results := congrArg (List.map fun
      | .ok e? => e?
      | .error (_ : Fault) => none) eq
    rw [List.map_map, List.map_map] at results
    exact (results.trans (List.map_id _)).symm
  rw [intake, map_eq_ok_iff, ← exists_mapM_eq_ok_iff]
  constructor
  · rintro ⟨located, run, rfl⟩
    refine ⟨⟨located, run⟩, ?_⟩
    rw [read (mapM_eq_ok_iff.mp run), List.filterMap_map, List.countP_map]
    rfl
  · rintro ⟨⟨located, run⟩, rfl⟩
    refine ⟨located, run, ?_⟩
    rw [read (mapM_eq_ok_iff.mp run), List.filterMap_map, List.countP_map]
    rfl

/-- The whole intake fails for such a record alone. -/
theorem exists_intake_iff {sources : List Source} :
    (∃ taken, intake workspace sources = .ok taken)
      ↔ ∀ r, .record r ∈ sources → Entity.ofRecord r ≠ .error .infiniteLine := by
  simp only [intake_eq_ok_iff, exists_and_left, exists_eq, and_true,
    exists_locate_iff]
  constructor
  · intro all r mem
    exact all _ mem r rfl
  · rintro all source mem r rfl
    exact all r mem

/-- An entity is placed under the text of an absolute path, also one that was given ready-made. -/
theorem absolute_of_placed? (absolute : workspace.isAbsolute = true) {source : Source} {e : Entity}
    (h : source.placed? workspace = some e) :
    ∃ path : Path, path.isAbsolute = true ∧ e.filePath = path.text := by
  unfold Source.placed? at h
  split at h
  · next e? run =>
      obtain ⟨given, -, rfl⟩ := map_eq_ok_iff.mp run
      obtain ⟨entity, -, placed⟩ := Option.bind_eq_some_iff.mp h
      obtain ⟨-, moved⟩ := Option.ite_none_right_eq_some.mp placed
      obtain rfl := Option.some.inj moved
      exact ⟨_, Path.isAbsolute_absolute absolute _, rfl⟩
  · cases h

/-- Reading this text again gives a plain path, which is the one it was made of. -/
theorem plain_of_placed? (absolute : workspace.isAbsolute = true) {source : Source} {e : Entity}
    (h : source.placed? workspace = some e) : Path.Plain (workspace.absolute e.filePath).segments := by
  obtain ⟨path, rooted, text⟩ := absolute_of_placed? absolute h
  rw [text, Path.absolute_text rooted]
  exact (Path.plain_parse _).normalize

/-- So it is for all entities that are placed.  Every result about paths of nodes begins with this. -/
theorem plain_of_mem_placedEntities (absolute : workspace.isAbsolute = true)
    {sources : List Source} :
    ∀ e ∈ placedEntities workspace sources,
      Path.Plain (workspace.absolute e.filePath).segments := by
  intro e mem
  obtain ⟨source, -, placed⟩ := List.mem_filterMap.mp mem
  exact plain_of_placed? absolute placed

/-! ## File maps -/

/-- The members of an object; any other value has none. -/
def Json.entries : Json → Members
  | .obj members => members
  | _ => []

/-- A file map gives a value for a path. -/
def FileMap.Gives (map : FileMap) (path value : String) : Prop :=
  ∃ values, (path, values) ∈ map ∧ value ∈ values

/-- An empty file map gives nothing. -/
theorem not_gives_nil (path value : String) : ¬ FileMap.Gives [] path value := by
  rintro ⟨values, mem, -⟩
  cases mem

/-- The values of one file that is given under several paths are joined. -/
theorem gives_extendFile_iff {map : FileMap} {path key value : String} {values : List String} :
    (extendFile map key values).Gives path value
      ↔ map.Gives path value ∨ key = path ∧ value ∈ values := by
  unfold extendFile FileMap.Gives
  split
  · next known =>
      simp only [List.mem_map, Prod.exists]
      constructor
      · rintro ⟨joined, ⟨path', given, mem, eq⟩, there⟩
        split at eq
        · next same =>
            obtain ⟨rfl, rfl⟩ := Prod.mk.inj eq
            obtain rfl : path' = key := by simpa using same
            exact (List.mem_append.mp there).imp (fun old => ⟨given, mem, old⟩) fun new => ⟨rfl, new⟩
        · obtain ⟨rfl, rfl⟩ := Prod.mk.inj eq
          exact Or.inl ⟨given, mem, there⟩
      · rintro (⟨given, mem, there⟩ | ⟨rfl, there⟩)
        · by_cases same : path = key
          · exact ⟨_, ⟨path, given, mem, by rw [if_pos (by simpa using same), same]⟩,
              List.mem_append_left _ there⟩
          · exact ⟨given, ⟨path, given, mem, if_neg (by simpa using same)⟩, there⟩
        · obtain ⟨⟨path', given⟩, mem, same⟩ := List.any_eq_true.mp known
          obtain rfl : path' = key := by simpa using same
          exact ⟨_, ⟨path', given, mem, if_pos same⟩, List.mem_append_right _ there⟩
  · simp only [List.mem_append, List.mem_singleton, Prod.mk.injEq]
    constructor
    · rintro ⟨given, old | ⟨rfl, rfl⟩, there⟩
      · exact Or.inl ⟨given, old, there⟩
      · exact Or.inr ⟨rfl, there⟩
    · rintro (⟨given, old, there⟩ | ⟨rfl, there⟩)
      · exact ⟨given, Or.inl old, there⟩
      · exact ⟨values, Or.inr ⟨rfl, rfl⟩, there⟩

/-- **What a file map gives** for a path are the values of all entries whose keys name this path.  An empty key names
none.  By induction over the entries that have been read, where the entries of one path are joined. -/
theorem gives_fileMap_iff {given : Json} {map : FileMap} (h : fileMap workspace given = .ok map)
    {path value : String} : map.Gives path value ↔ ∃ entry ∈ given.entries, entry.1 ≠ "" ∧
      (workspace.absolute entry.1).text = path ∧ value ∈ fileMapValues entry.2 := by
  have fold : ∀ (members : Members) (map : FileMap),
      (members.foldl (fun (map : FileMap) (entry : String × Json) =>
        if entry.1 = "" || (fileMapValues entry.2).isEmpty then map
        else extendFile map (workspace.absolute entry.1).text (fileMapValues entry.2)) map).Gives
          path value
        ↔ map.Gives path value ∨ ∃ entry ∈ members, entry.1 ≠ "" ∧
          (workspace.absolute entry.1).text = path ∧ value ∈ fileMapValues entry.2 := by
    intro members
    induction members with
    | nil => simp
    | cons entry rest ih =>
        intro map
        rw [List.foldl_cons, ih]
        simp only [List.mem_cons, exists_eq_or_imp, ← or_assoc]
        refine or_congr_left ?_
        split
        · next passed =>
            -- An entry without a name or without values adds nothing.
            rw [Bool.or_eq_true, decide_eq_true_iff, List.isEmpty_iff] at passed
            refine (or_iff_left ?_).symm
            rintro ⟨named, -, there⟩
            simp [passed.resolve_left named] at there
        · next taken =>
            rw [Bool.or_eq_true, decide_eq_true_iff, not_or] at taken
            rw [gives_extendFile_iff]
            exact or_congr_right ⟨fun new => ⟨taken.1, new⟩, And.right⟩
  unfold fileMap at h
  split at h
  · next absent =>
      obtain rfl := Except.ok.inj h
      have none : given.entries = [] := by
        cases given with
        | obj members => simpa [Json.truthy, Json.entries] using absent
        | _ => rfl
      simp [none, not_gives_nil]
  · split at h
    · obtain rfl := Except.ok.inj h
      exact (fold _ []).trans (or_iff_right (not_gives_nil path value))
    · cases h

/-- File maps that are given as objects can be read. -/
theorem exists_fileMap (workspace : Path) (members : Members) :
    ∃ map, fileMap workspace (.obj members) = .ok map := by
  unfold fileMap
  split <;> exact ⟨_, rfl⟩

end CodeAtlas
