import CodeAtlas.Proofs.Directories
import CodeAtlas.Proofs.Store

/-!
# What is saved, and what is read back

A graph and its written form are saved alike (`Store.save_graph`): both ways of making a summary come to the
same one.  More generally, data of the outer shape of a graph whose nodes have texts for ids (`GraphData`) can be
saved and can be indexed, and then a node is found by its id, the last one if there are several
(`GraphData.exists_index`).

Where nothing blocks the way to a directory, files of given names are written and removed there, one without the
other (`Store.writeJson_ok`, `Store.discard_ok`), and a value is read back if its text is
(`FileSystem.readJson_of_entry`).  The summary stands beside the graph, under a name that can be used if that of the
graph can (`Store.isUsable_summaryPath`).
-/

namespace CodeAtlas

/-! ## Nodes by id -/

/-- The only key that is the same as a text is this text. -/
theorem Json.sameKey_str {a : Json} {t : String} : a.sameKey (.str t) = true ↔ a = .str t := by
  cases a <;> simp [Json.sameKey, Json.keyInt?, Json.whole?]

/-- The id of a node, if it is a text. -/
def Json.nodeId? (node : Json) : Option String := (node.getD "id").text?

/-- A node has a text for its id if it has it as a member. -/
theorem Json.nodeId?_eq_some_iff {node : Json} {id : String} :
    node.nodeId? = some id ↔ node.member "id" = .ok (.str id) := by
  rw [Json.member_eq_ok_iff]
  constructor
  · intro h
    unfold Json.nodeId? Json.getD Json.text? at h
    split at h
    · next eq =>
        obtain rfl := Option.some.inj h
        unfold Json.get? at eq
        split at eq
        · next members =>
            cases found : Members.get? members "id" with
            | none => simp [found] at eq
            | some value =>
                rw [found, Option.getD_some] at eq
                exact ⟨members, rfl, by rw [found, eq]⟩
        · cases eq
    · cases h
  · rintro ⟨members, rfl, found⟩
    simp [Json.nodeId?, Json.getD, Json.get?, found, Json.text?]

/-- The last of some nodes that has an id. -/
def lastWithId (nodes : List Json) (id : String) : Option Json :=
  nodes.reverse.find? fun node => node.nodeId? == some id

/-- A further node is the last one with its id. -/
theorem lastWithId_concat (nodes : List Json) (node : Json) (id : String) :
    lastWithId (nodes ++ [node]) id = if node.nodeId? = some id then some node else lastWithId nodes id := by
  rw [lastWithId, List.reverse_concat, List.find?_cons, lastWithId]
  by_cases own : node.nodeId? = some id
  · simp [own]
  · simp [own, beq_false_of_ne own]

namespace NodeIndex

/-- **What is put under an id is found there**, and under every other id what was there before. -/
theorem find?_insert (index : NodeIndex) (a b : String) (node : Json) :
    (insert index (.str a) node).find? (.str b) = if a = b then some node else index.find? (.str b) := by
  unfold insert NodeIndex.find?
  by_cases known : index.any (fun entry => entry.1.sameKey (.str a)) = true
  · -- The keys stay what they are, so that the same entry is found.
    have keys : (fun entry : Json × Json => entry.1.sameKey (.str b)) ∘
        (fun entry : Json × Json => if entry.1.sameKey (.str a) then (entry.1, node) else entry)
          = fun entry => entry.1.sameKey (.str b) := by
      funext entry
      simp only [Function.comp_apply]
      split <;> rfl
    rw [if_pos known, List.find?_map, keys, Option.map_map]
    cases found : List.find? (fun entry => entry.1.sameKey (.str b)) index with
    | none =>
        have ne : a ≠ b := by
          rintro rfl
          obtain ⟨entry, mem, same⟩ := List.any_eq_true.mp known
          exact absurd same (List.find?_eq_none.mp found entry mem)
        rw [if_neg ne]
        rfl
    | some entry =>
        have same := List.find?_some found
        have key := Json.sameKey_str.mp same
        by_cases eq : a = b
        · simp [eq, key, Json.sameKey_str]
        · simp [eq, key, Json.sameKey_str, Ne.symm eq]
  · rw [if_neg known, List.find?_append, Option.map_or]
    by_cases eq : a = b
    · subst eq
      have none : List.find? (fun entry => entry.1.sameKey (.str a)) index = none := by
        rw [List.find?_eq_none]
        intro entry mem same
        exact known (List.any_eq_true.mpr ⟨entry, mem, same⟩)
      simp [none, Json.sameKey_str]
    · simp [eq, Json.sameKey_str]

end NodeIndex

/-! ## The data of a graph -/

/-- The items of an array among the members. -/
def Members.itemsOf (members : Members) (key : String) : List Json :=
  match members.get? key with
  | some (.arr items) => items
  | _ => []

/-- **Data of the outer shape of a graph**: its nodes are an array of objects with texts for ids, and its edges and
its communities, if it has any, are arrays. -/
structure GraphData (data : Members) : Prop where
  /-- Its nodes are there, as an array, -/
  nodes : Members.get? data "nodes" = some (.arr (data.itemsOf "nodes"))
  /-- and each of them has a text for an id. -/
  ids : ∀ node ∈ data.itemsOf "nodes", ∃ id, node.nodeId? = some id
  /-- Its edges are an array, or are not given and count as an empty one, -/
  edges : Store.listOf data "edges" = .arr (data.itemsOf "edges")
  /-- and so are its communities. -/
  communities : Store.listOf data "communities" = .arr (data.itemsOf "communities")

namespace GraphData

variable {data : Members}

/-- The data without a graph is as good as any. -/
theorem empty : GraphData Store.emptyData := ⟨rfl, fun _ mem => (nomatch mem), rfl, rfl⟩

/-- **Of several nodes with one id the last one is found.**  By induction over the nodes from the last one: it is put
under its id in the index that the nodes in front of it have made, and takes the place of an earlier one. -/
theorem exists_index (h : GraphData data) : ∃ index, NodeIndex.ofData data = .ok index ∧
    ∀ id, NodeIndex.find? index (.str id) = lastWithId (data.itemsOf "nodes") id := by
  have given : ((Members.get? data "nodes").getD (.arr [])).items = .ok (data.itemsOf "nodes") := by
    rw [h.nodes]
    rfl
  have ids := h.ids
  simp only [NodeIndex.ofData, bind_eq_ok_iff, given, Except.ok.injEq, exists_eq_left']
  generalize data.itemsOf "nodes" = nodes at ids ⊢
  -- Node by node, the last one after those in front of it.
  clear given
  induction nodes using List.reverseRecOn with
  | nil => exact ⟨[], rfl, fun _ => rfl⟩
  | append_singleton front last ih =>
      obtain ⟨index, indexed, found⟩ := ih fun node mem => ids node (by simp [mem])
      obtain ⟨own, eq⟩ := ids last (by simp)
      refine ⟨NodeIndex.insert index (.str own) last, ?_, ?_⟩
      · rw [List.foldlM_append, indexed]
        simp [Json.nodeId?_eq_some_iff.mp eq, Json.asKey, Json.isKey, bind, Except.bind, pure, Except.pure]
      · intro id
        simp only [NodeIndex.find?_insert, found, lastWithId_concat, eq, Option.some.injEq]

end GraphData

/-- The members of the written form of a graph. -/
def Graph.data (g : Graph Float) : Members :=
  [("metadata", g.metadata.toJson), ("nodes", .arr (g.nodes.map Node.toJson)),
    ("edges", .arr (g.edges.map Edge.toJson)), ("communities", .arr (g.communities.map Community.toJson))]

/-- The written form of a graph is the object of its data. -/
theorem Graph.toJson_eq (g : Graph Float) : g.toJson = .obj g.data := rfl

/-- The written form of a node has the text of its id. -/
theorem Node.nodeId?_toJson (n : Node) : n.toJson.nodeId? = some n.id := rfl

/-- The data of a graph have its outer shape. -/
theorem Graph.graphData (g : Graph Float) : GraphData g.data where
  nodes := rfl
  ids := by
    intro node mem
    obtain ⟨n, -, rfl⟩ := List.mem_map.mp mem
    exact ⟨n.id, n.nodeId?_toJson⟩
  edges := rfl
  communities := rfl

/-! ## Values that are read back -/

/-- A text is read back from its bytes. -/
theorem Text.decode?_encode (s : String) : Text.decode? (Text.encode s) = some s := by
  simp only [Text.decode?, Text.encode, String.fromUTF8?, String.toUTF8_eq_toByteArray,
    dif_pos s.isValidUTF8]
  rfl

namespace Json

/-- A value can be written to a medium, and its text is read as this value there. -/
structure ReadsBack (medium : Medium) (j : Json) : Prop where
  /-- All of it is written, -/
  writable : j.Writable medium.writingDepth
  /-- and what is written is read as the value. -/
  read : Json.parse j.pretty medium.readingDepth = .ok j

mutual

/-- Whether two values without floats are the same. -/
def alike : Json → Json → Bool
  | null, null => true
  | bool b, bool c => b == c
  | int m, int n => m == n
  | str s, str t => s == t
  | arr items, arr items' => alikeItems items items'
  | obj members, obj members' => alikeMembers members members'
  | _, _ => false

/-- Item by item. -/
def alikeItems : List Json → List Json → Bool
  | [], [] => true
  | j :: rest, k :: rest' => alike j k && alikeItems rest rest'
  | _, _ => false

/-- Member by member. -/
def alikeMembers : List (String × Json) → List (String × Json) → Bool
  | [], [] => true
  | (key, j) :: rest, (key', k) :: rest' => key == key' && alike j k && alikeMembers rest rest'
  | _, _ => false

end

mutual

/-- Values that are alike are the same: by the recursion of the test, -/
theorem eq_of_alike {j k : Json} (h : alike j k = true) : j = k := by
  cases j <;> cases k <;> simp only [alike, Bool.false_eq_true, beq_iff_eq] at h
  all_goals first | rw [h] | rfl | rw [eq_of_alikeItems h] | rw [eq_of_alikeMembers h]

/-- through items, -/
theorem eq_of_alikeItems {items items' : List Json} (h : alikeItems items items' = true) : items = items' := by
  cases items <;> cases items' <;> simp only [alikeItems, Bool.false_eq_true, Bool.and_eq_true] at h
  · rfl
  · rw [eq_of_alike h.1, eq_of_alikeItems h.2]

/-- and through members. -/
theorem eq_of_alikeMembers {members members' : List (String × Json)}
    (h : alikeMembers members members' = true) : members = members' := by
  cases members <;> cases members' <;>
    simp only [alikeMembers, Bool.false_eq_true, Bool.and_eq_true, beq_iff_eq] at h
  · rfl
  · rw [Prod.ext h.1.1 (eq_of_alike h.1.2), eq_of_alikeMembers h.2]

end

/-- Whether a value is read back can be found out by reading it, if there are no floats in it. -/
theorem readsBack_of_alike {medium : Medium} {j : Json} (writable : j.Writable medium.writingDepth)
    (h : (Json.parse j.pretty medium.readingDepth).toOption.any (alike j) = true) : j.ReadsBack medium := by
  obtain ⟨k, read, same⟩ := exists_ok_of_any_toOption h
  exact ⟨writable, by rw [read, eq_of_alike same]⟩

end Json

namespace FileSystem

variable {fs : FileSystem} {p : Path}

/-- **A value that has been written is read back**, if its text is. -/
theorem readJson_of_entry {j : Json} (usable : isUsable p = true) (passes : fs.Passes p)
    (there : fs.entryAt? (fs.locate p) = some (.file (Text.encode j.pretty))) (back : j.ReadsBack fs.medium) :
    fs.readJson p = .ok j := by
  have bytes : fs.read p = .ok (Text.encode j.pretty) := by
    simp [read, checkPath_of_usable usable passes, there, bind, Except.bind, pure, Except.pure]
  simp [readJson, bytes, liftFile, Text.decode?_encode, back.read, bind, Except.bind, Except.mapError]

/-- Nothing is read where nothing is. -/
theorem exists_readJson_of_absent (absent : fs.entry? p = none) : ∃ f, fs.readJson p = .error (.file f) := by
  obtain ⟨f, refused⟩ : ∃ f, fs.read p = .error f := by
    rw [exists_eq_error_iff]
    intro content found
    obtain ⟨⟨⟩, passed, found⟩ := bind_eq_ok_iff.mp found
    rw [← entry?_of_checkPath passed, absent] at found
    cases found
  exact ⟨f, by simp [readJson, refused, liftFile, bind, Except.bind, Except.mapError]⟩

end FileSystem

namespace Store

variable {fs fs' fs'' : FileSystem} {path summaryPath directory : Path} {data : Members} {names : List String}
  {x y : String}

/-! ## Payloads -/

/-- The summary that data of a graph calls for: its metadata, how many nodes, edges and communities it has, and its
first five communities. -/
def summaryOf (data : Members) : Json := .obj [
  ("metadata", (Members.get? data "metadata").getD (.obj [])),
  ("node_count", .int (data.itemsOf "nodes").length),
  ("edge_count", .int (data.itemsOf "edges").length),
  ("community_count", .int (data.itemsOf "communities").length),
  ("top_communities", .arr ((data.itemsOf "communities").take 5))]

/-- The data of a graph can be saved. -/
theorem payload_of_graphData (h : GraphData data) :
    payload (.value (.obj data)) = .ok (data, summaryOf data) := by
  have nodes : listOf data "nodes" = .arr (data.itemsOf "nodes") := by
    rw [listOf, h.nodes]
    rfl
  simp only [payload, nodes, h.edges, h.communities, Json.size, Json.front, bind, Except.bind, pure,
    Except.pure]
  rfl

/-- What is written of a graph are its data and its summary. -/
theorem payload_graph (g : Graph Float) : payload (.graph g) = .ok (g.data, SummaryView.ofGraph g) := rfl

/-- **Both ways of making a summary come to the same one.**  A graph is summed up from its own fields and an object
from its members, and either way nodes, edges and communities are counted and the first five of these are shown. -/
theorem summaryOf_data (g : Graph Float) : summaryOf g.data = SummaryView.ofGraph g := by
  have shown : (front SummaryView.shownCommunities g.communities).map Community.toJson
      = (g.communities.map Community.toJson).take 5 := by
    rw [front, if_pos (by decide), List.map_take]
    rfl
  calc summaryOf g.data
      = SummaryView.ofParts g.metadata.toJson (g.nodes.map Node.toJson).length
          (g.edges.map Edge.toJson).length (g.communities.map Community.toJson).length
          (.arr ((g.communities.map Community.toJson).take 5)) := rfl
    _ = SummaryView.ofGraph g := by
      rw [SummaryView.ofGraph, shown, List.length_map, List.length_map, List.length_map]

/-- **A graph and its written form are saved alike.** -/
theorem save_graph (fs : FileSystem) (s : Store) (g : Graph Float) :
    s.save fs (.graph g) = s.save fs (.value g.toJson) := by
  rw [save, save, payload_graph, g.toJson_eq, payload_of_graphData g.graphData, summaryOf_data]

/-! ## The place of the summary -/

/-- The name of the summary of a graph with a given file name. -/
def summaryName (name : String) : String := Path.stemOf name ++ "_summary.json"

/-- The summary stands in the directory of the graph, under its name; a graph without a file name has none. -/
theorem summaryPathOf_eq_ok_iff : summaryPathOf path = .ok summaryPath ↔
    path.name ≠ "" ∧ path.parent.child (summaryName path.name) = summaryPath := by
  unfold summaryPathOf
  split
  · next unnamed => simp [unnamed]
  · next named => simp [named, summaryName]

/-- The name of the summary has no character that the name of the graph has not, but for those behind its stem. -/
theorem isNameCharacter_of_mem_summaryName {name : String}
    (usable : ∀ c ∈ name.toList, FileSystem.isNameCharacter c = true) :
    ∀ c ∈ (summaryName name).toList, FileSystem.isNameCharacter c = true := by
  obtain ⟨rest, cut, -⟩ := Path.exists_append_stemOf name
  have behind : "_summary.json".toList.all FileSystem.isNameCharacter = true := by decide
  intro c mem
  rw [summaryName, String.toList_append, List.mem_append] at mem
  rcases mem with stem | added
  · exact usable c (by simp [cut, stem])
  · exact List.all_eq_true.mp behind c added

/-- **The place of the summary can be used** if that of the graph can. -/
theorem isUsable_summaryPath (usable : FileSystem.isUsable path = true)
    (beside : summaryPathOf path = .ok summaryPath) : FileSystem.isUsable summaryPath = true := by
  obtain ⟨named, rfl⟩ := summaryPathOf_eq_ok_iff.mp beside
  have own : path.name ∈ path.segments := by
    rw [Path.name] at named ⊢
    cases last : path.segments.getLast? with
    | none => simp [last] at named
    | some segment => exact List.mem_of_getLast? last
  rw [FileSystem.isUsable, List.all_eq_true] at usable ⊢
  intro segment mem
  rcases List.mem_append.mp mem with above | here
  · exact usable segment (List.dropLast_subset _ above)
  · obtain rfl := List.mem_singleton.mp here
    rw [List.all_eq_true]
    exact isNameCharacter_of_mem_summaryName (List.all_eq_true.mp (usable _ own))

/-! ## Writing and removing -/

/-- The entry of a name in a directory is another one, or none, and the entries of the other names are what they were.
The directory is as easy to reach as before.  Entries are told by their places, so that this says something of files
also where the way to them is not there yet. -/
structure Replaced (fs : FileSystem) (directory : Path) (names : List String) (x : String)
    (left : Option Entry) (fs' : FileSystem) : Prop where
  /-- What files of these names need is there as before. -/
  unblocked : fs'.Unblocked directory names
  medium : fs'.medium = fs.medium
  /-- A directory that could be reached can be reached, -/
  passes : fs.Passes directory → fs'.Passes directory
  /-- the entry of the one name is what was asked for, -/
  here : fs'.entryAt? (fs'.locate (directory.child x)) = left
  /-- and those of the other names are what they were. -/
  others : ∀ y ∈ names, y ≠ x →
    fs'.entryAt? (fs'.locate (directory.child y)) = fs.entryAt? (fs.locate (directory.child y))

/-- What two changes leave, one of each entry. -/
theorem Replaced.both {left left' : Option Entry} (first : Replaced fs directory [x, y] x left fs')
    (second : Replaced fs' directory [x, y] y left' fs'') (ne : x ≠ y) :
    fs''.entryAt? (fs''.locate (directory.child x)) = left ∧
      fs''.entryAt? (fs''.locate (directory.child y)) = left' :=
  ⟨(second.others x (by simp) ne).trans first.here, second.here⟩

/-- A change of an entry of the directory replaces it. -/
theorem replaced_of_changed (h : fs.Unblocked directory names) (mem : x ∈ names) {left : Option Entry}
    (change : fs.Changed (directory.child x) left fs') (file : left ≠ some .directory) :
    Replaced fs directory names x left fs' where
  unblocked := h.changed mem change file
  medium := change.medium
  passes := fun passes => passes.mono change.frame fun _ there => change.directory (h.free x mem) there
  here := by rw [FileSystem.locate_congr change.cwd, change.here]
  others := by
    intro y mem' ne
    rw [FileSystem.locate_congr change.cwd, change.elsewhere]
    rw [h.locate_child mem, h.locate_child mem']
    simpa using ne

/-- **A value that can be written is written** into a directory that nothing blocks the way to, and then the directory
can be reached.  It is made first, then the file is opened, and at last it is filled; `Unblocked` is kept by each of
the three. -/
theorem writeJson_ok (h : fs.Unblocked directory names) (mem : x ∈ names) {j : Json}
    (writable : j.Writable fs.medium.writingDepth) :
    ∃ fs', writeJson fs (directory.child x) j = (fs', .ok ()) ∧
      Replaced fs directory names x (some (.file (Text.encode j.pretty))) fs' ∧ fs'.Passes directory := by
  -- The directory, in which the file is to stand.
  obtain ⟨around, outer, made⟩ := h.makeDirectory_ok
  have h₁ := h.made made
  have above : (around.locate (directory.child x)).dropLast = fs.locate directory := by
    rw [h₁.locate_child mem, List.dropLast_concat, FileSystem.locate_congr made.cwd]
  -- The file, without content.
  obtain ⟨opened, created, first⟩ := FileSystem.create_ok h₁.wellFormed (h₁.usable.2 x mem)
    (h₁.passes_child mem made.passes) (by rw [above]; exact made.there) (h₁.free x mem)
  have h₂ := h₁.changed mem first (by simp)
  have parent : opened.entryAt? (opened.locate (directory.child x)).dropLast = some .directory := by
    rw [FileSystem.locate_congr first.cwd, above]
    exact first.directory (h₁.free x mem) made.there
  -- Its content.
  obtain ⟨fs', filled, second⟩ := FileSystem.fill_ok h₂.wellFormed parent (h₂.free x mem) (h₂.room x mem)
    (Text.encode j.pretty)
  have medium : opened.medium = fs.medium := by rw [first.medium, made.medium]
  have written : writeJson fs (directory.child x) j = (fs', .ok ()) := by
    simp only [writeJson, Path.parent_child, outer, created, fillJson, medium, writable.written_eq, filled]
  have replaced := replaced_of_changed h₁ mem (first.again second) (by simp)
  refine ⟨fs', written, ?_, replaced.passes made.passes⟩
  exact {
    unblocked := replaced.unblocked
    medium := by rw [replaced.medium, made.medium]
    passes := fun _ => replaced.passes made.passes
    here := replaced.here
    others := fun y mem' ne => by rw [replaced.others y mem' ne, h.entryAt?_of_made made mem'] }

/-- **A file is removed** from a directory that can be reached; where no file is, the directory need not be. -/
theorem discard_ok (h : fs.Unblocked directory names) (mem : x ∈ names)
    (reach : fs.entryAt? (fs.locate (directory.child x)) ≠ none → fs.Passes directory) :
    ∃ fs', discard fs (directory.child x) = (fs', .ok ()) ∧ Replaced fs directory names x none fs' := by
  have usable := h.usable.2 x mem
  cases there : fs.entryAt? (fs.locate (directory.child x)) with
  | none =>
      have gone : fs.erase (directory.child x) = .error .notFound := by
        by_cases passes : fs.Passes directory
        · have clear : fs.Clear (fs.locate (directory.child x)).dropLast := by
            rw [h.locate_child mem, List.dropLast_concat]
            exact h.way directory directory.self_mem_ancestry
          simp [FileSystem.erase, FileSystem.checkPath_of_usable usable (h.passes_child mem passes), there,
            FileSystem.absence, FileSystem.not_blocked clear, bind, Except.bind, throw, throwThe,
            MonadExceptOf.throw]
        · have closed : fs.impasse? (directory.child x) = some .notFound := by
            rw [FileSystem.impasse?_child directory (h.ne_up mem)]
            exact FileSystem.impasse?_of_clear h.way passes
          simp [FileSystem.erase, FileSystem.checkPath, usable, closed, bind, Except.bind]
      exact ⟨fs, by rw [discard, gone], h, rfl, id, there, fun _ _ _ => rfl⟩
  | some entry =>
      have passes := h.passes_child mem (reach (by simp [there]))
      cases entry with
      | directory => exact absurd there (h.free x mem)
      | file content =>
          obtain ⟨fs', erased, change⟩ := FileSystem.erase_ok h.wellFormed usable passes there
          exact ⟨fs', by rw [discard, erased], replaced_of_changed h mem change (by simp)⟩

end Store

end CodeAtlas
