import CodeAtlas.Proofs.Saving
import CodeAtlas.Store.Queries

/-!
# A store is a register

Any number of clients open, save, load and clear the store at one path, in any order.  What counts is one value,
the data of the last save that no clear has followed (`Store.lastSaved`), and what a client had in memory before
makes no difference.  `Store.Holding` says of the files that they hold this value: the graph and its summary stand in them, or
neither file is there.  Each action keeps this up (`Store.Action.apply_ok`) and leaves its client with the data and
the index of this value (`Store.Reflects`), and from that comes what any run of actions leaves
(`Store.Session.run_ok`).

The reader and the writer are the real ones, so that what is saved has to be a value that can be written and is read
back from its own text (`Json.ReadsBack`); one with half of a surrogate pair in it, or with a float that is no number,
is not.
-/

namespace CodeAtlas

/-! ## What may be saved -/

/-- The data of what is saved. -/
def Saved.data : Saved → Members
  | .graph g => g.data
  | .value (.obj data) => data
  | .value _ => []

/-- A built graph, or an object of the outer shape of one. -/
def Saved.IsGraph : Saved → Prop
  | .graph _ => True
  | .value j => ∃ data, j = .obj data ∧ GraphData data

/-- Data of a graph that is read back from a medium, and so is its summary. -/
structure Storable (medium : Medium) (data : Members) : Prop where
  /-- It has the outer shape of a graph. -/
  graph : GraphData data
  /-- It is read as itself from its own text, -/
  readBack : (Json.obj data).ReadsBack medium
  /-- and so is its summary. -/
  summaryReadBack : (Store.summaryOf data).ReadsBack medium

/-- What may be saved: a graph that is read back, and so is its summary. -/
structure Saved.Storable (medium : Medium) (saved : Saved) : Prop where
  /-- It is a graph, or a value of the outer shape of one. -/
  isGraph : saved.IsGraph
  readBack : (Json.obj saved.data).ReadsBack medium
  summaryReadBack : (Store.summaryOf saved.data).ReadsBack medium

/-- What is a graph has the outer shape of one. -/
theorem Saved.IsGraph.graphData {saved : Saved} (h : saved.IsGraph) : GraphData saved.data := by
  cases saved with
  | graph g => exact g.graphData
  | value j =>
      obtain ⟨data, rfl, graph⟩ := h
      exact graph

/-- What is written of it are its data and the summary of these, whether it was built or is given as an object. -/
theorem Saved.IsGraph.payload {saved : Saved} (h : saved.IsGraph) :
    Store.payload saved = .ok (saved.data, Store.summaryOf saved.data) := by
  cases saved with
  | graph g => rw [Store.payload_graph, Saved.data, Store.summaryOf_data]
  | value j =>
      obtain ⟨data, rfl, graph⟩ := h
      exact Store.payload_of_graphData graph

/-- What may be saved has data that may be stored. -/
theorem Saved.Storable.data {medium : Medium} {saved : Saved} (h : saved.Storable medium) :
    CodeAtlas.Storable medium saved.data :=
  ⟨h.isGraph.graphData, h.readBack, h.summaryReadBack⟩

namespace Store

variable {fs fs' : FileSystem} {medium : Medium} {path summaryPath : Path} {s : Store} {data : Members}
  {held : Option Members}

/-! ## Clients and files -/

/-- A store at a path has given data, and finds its nodes by id, the last one of each.  Its index is asked, and not
looked at: two indexes that find the same are as good as each other. -/
structure Reflects (s : Store) (path : Path) (data : Members) : Prop where
  /-- It is a store at this path. -/
  own : s.path = path
  /-- It has the data in memory, -/
  same : s.data = data
  /-- and finds its nodes: of several with one id the last one. -/
  nodes : ∀ id, s.node? (.str id) = .ok (lastWithId (data.itemsOf "nodes") id)

/-- A store takes over the data of a graph. -/
theorem exists_reflects (path : Path) (graph : GraphData data) :
    ∃ index, NodeIndex.ofData data = .ok index ∧ Reflects ⟨path, data, index⟩ path data := by
  obtain ⟨index, indexed, found⟩ := graph.exists_index
  refine ⟨index, indexed, rfl, rfl, ?_⟩
  intro id
  rw [← found id]
  rfl

/-- **The files of a register**: the graph that is held and its summary, or neither.  They can be reached where they
are there; before, the way to them may not be there.  This is the invariant of all actions.  It ties the files to one
value and to nothing that a client has in memory, which is why clients cannot get out of step with each other for
good. -/
structure Holding (fs : FileSystem) (medium : Medium) (path summaryPath : Path) (held : Option Members) : Prop where
  /-- The files are on this medium. -/
  on : fs.medium = medium
  /-- Nothing blocks the way to the two files. -/
  unblocked : fs.Unblocked path.parent [path.name, summaryName path.name]
  /-- If something is held, the directory of the two files is there. -/
  reach : held ≠ none → fs.Passes path.parent
  /-- The graph's file has the written form of what is held, or is not there. -/
  graph : fs.entryAt? (fs.locate path) = held.map fun data => .file (Text.encode (Json.obj data).pretty)
  /-- So does the file of the summary, with the summary of the same graph. -/
  summary : fs.entryAt? (fs.locate summaryPath) = held.map fun data => .file (Text.encode (summaryOf data).pretty)
  /-- What is held can be read again. -/
  storable : ∀ data, held = some data → Storable medium data

/-- The data that a client finds where a value is held: this value, or the data without a graph. -/
abbrev shown (held : Option Members) : Members := held.getD emptyData

/-- The summary has a name of its own. -/
theorem summaryName_ne (name : String) : name ≠ summaryName name :=
  (Path.stemOf_append_ne name (by decide) (by decide)).symm

namespace Holding

/-- What is shown has the outer shape of a graph, also where nothing is held. -/
theorem graphData (h : Holding fs medium path summaryPath held) : GraphData (shown held) := by
  cases held with
  | none => exact GraphData.empty
  | some data => exact (h.storable data rfl).graph

/-- The way to a file of the register, where one is there. -/
theorem passes (h : Holding fs medium path summaryPath (some data)) {x : String}
    (mem : x ∈ [path.name, summaryName path.name]) : fs.Passes (path.parent.child x) :=
  h.unblocked.passes_child mem (h.reach (by simp))

/-- **What is held is read.** -/
theorem readData (h : Holding fs medium path summaryPath held) (beside : summaryPathOf path = .ok summaryPath) :
    readData fs path = .ok (shown held) := by
  cases held with
  | none =>
      obtain ⟨f, missing⟩ := FileSystem.exists_readJson_of_absent (FileSystem.entry?_of_missing h.graph)
      simp [Store.readData, missing]
  | some data =>
      have storable := h.storable data rfl
      obtain ⟨named, -⟩ := summaryPathOf_eq_ok_iff.mp beside
      have usable := h.unblocked.usable.2 path.name (by simp)
      have passes := h.passes (x := path.name) (by simp)
      rw [Path.parent_child_name named] at usable passes
      rw [Store.readData, FileSystem.readJson_of_entry usable passes h.graph (h.on ▸ storable.readBack)]
      dsimp only
      rw [storable.graph.nodes]
      rfl

/-- The summary is read back. -/
theorem readSummary (h : Holding fs medium path summaryPath (some data))
    (beside : summaryPathOf path = .ok summaryPath) : fs.readJson summaryPath = .ok (summaryOf data) := by
  obtain ⟨-, rfl⟩ := summaryPathOf_eq_ok_iff.mp beside
  exact FileSystem.readJson_of_entry (h.unblocked.usable.2 _ (by simp)) (h.passes (by simp)) h.summary
    (h.on ▸ (h.storable data rfl).summaryReadBack)

/-- **A client that opens the store** has what is held, -/
theorem openAt (h : Holding fs medium path summaryPath held) (beside : summaryPathOf path = .ok summaryPath) :
    ∃ opened, openAt fs path = .ok opened ∧ opened.Reflects path (shown held) := by
  obtain ⟨index, indexed, reflects⟩ := exists_reflects path h.graphData
  exact ⟨_, openAt_eq_ok_iff.mpr ⟨_, h.readData beside, index, indexed, rfl⟩, reflects⟩

/-- and so has one that loads it again, whatever it had before. -/
theorem load (h : Holding fs medium path summaryPath held) (beside : summaryPathOf path = .ok summaryPath)
    (own : s.path = path) :
    ∃ s', s.load fs = (s', .ok (shown held)) ∧ s'.Reflects path (shown held) := by
  obtain ⟨index, indexed, reflects⟩ := exists_reflects path h.graphData
  subst own
  refine ⟨_, ?_, reflects⟩
  rw [Store.load, h.readData beside]
  dsimp only
  rw [withData_of_ok indexed]
  rfl

/-- **A client that saves a graph** leaves the files with this graph, and has it itself.  Both files are written into
a directory that nothing blocks the way to, first the graph and then the summary; as they have two names, the second
writing leaves the first one. -/
theorem save {saved : Saved} (h : Holding fs medium path summaryPath held)
    (beside : summaryPathOf path = .ok summaryPath) (own : s.path = path) (storable : saved.Storable medium) :
    ∃ fs' s', s.save fs saved = (fs', s', .ok path) ∧ Holding fs' medium path summaryPath (some saved.data) ∧
      s'.Reflects path saved.data := by
  obtain ⟨named, place⟩ := summaryPathOf_eq_ok_iff.mp beside
  have here := Path.parent_child_name named
  obtain ⟨around, graph, first, -⟩ := writeJson_ok h.unblocked (x := path.name) (by simp)
    (h.on ▸ storable.readBack.writable)
  have on : around.medium = medium := first.medium.trans h.on
  obtain ⟨fs', summary, second, passes⟩ := writeJson_ok first.unblocked (x := summaryName path.name) (by simp)
    (on ▸ storable.summaryReadBack.writable)
  obtain ⟨graph', summary'⟩ := first.both second (summaryName_ne path.name)
  rw [here] at graph graph'
  rw [place] at summary summary'
  obtain ⟨index, indexed, reflects⟩ := exists_reflects path storable.data.graph
  refine ⟨fs', _, ?_, ⟨second.medium.trans on, second.unblocked, fun _ => passes, graph', summary', ?_⟩, reflects⟩
  · subst own
    have both : writeBoth fs s.path saved.data (summaryOf saved.data) = (fs', .ok ()) := by
      rw [writeBoth, graph]
      dsimp only
      rw [beside]
      exact summary
    rw [Store.save, storable.isGraph.payload]
    dsimp only
    rw [both]
    dsimp only
    rw [withData_of_ok indexed]
    rfl
  · rintro data eq
    obtain rfl := Option.some.inj eq
    exact storable.data

/-- **A client that clears the store** leaves neither file, and has no graph.  Files that are not there need not be
removed, and where neither is there the directory need not be either. -/
theorem clear (h : Holding fs medium path summaryPath held) (beside : summaryPathOf path = .ok summaryPath)
    (own : s.path = path) :
    ∃ fs' s', s.clear fs = (fs', s', .ok ()) ∧ Holding fs' medium path summaryPath none ∧
      s'.Reflects path emptyData := by
  obtain ⟨named, place⟩ := summaryPathOf_eq_ok_iff.mp beside
  have here := Path.parent_child_name named
  -- A file that is there can be reached, the second one also after the first one has been removed.
  have reach : ∀ p, fs.entryAt? (fs.locate p) ≠ none → p = path ∨ p = summaryPath → fs.Passes path.parent := by
    rintro p there (rfl | rfl) <;> refine h.reach ?_ <;> rintro rfl
    · exact there h.graph
    · exact there h.summary
  obtain ⟨around, graph, first⟩ := discard_ok h.unblocked (x := path.name) (by simp)
    fun there => reach _ there (Or.inl here)
  obtain ⟨fs', summary, second⟩ := discard_ok first.unblocked (x := summaryName path.name) (by simp) fun there => by
    rw [first.others _ (by simp) (summaryName_ne path.name).symm] at there
    exact first.passes (reach _ there (Or.inr place))
  obtain ⟨graph', summary'⟩ := first.both second (summaryName_ne path.name)
  rw [here] at graph graph'
  rw [place] at summary summary'
  have on : fs'.medium = medium := second.medium.trans (first.medium.trans h.on)
  refine ⟨fs', { s with data := emptyData, index := [] }, ?_,
    ⟨on, second.unblocked, fun some => absurd rfl some, graph', summary', ?_⟩, own, rfl, fun id => rfl⟩
  · subst own
    rw [Store.clear, Store.summaryPath, beside]
    dsimp only
    rw [graph]
    dsimp only
    rw [summary]
  · rintro data ⟨⟩

end Holding

/-! ## Runs -/

/-- What a client does. -/
inductive Action where
  | start
  | save (saved : Saved)
  | load
  | clear

namespace Action

/-- An action of a client, on its files and its own memory.  A fault ends it. -/
def apply (path : Path) (action : Action) (fs : FileSystem) (s : Store) : Except Fault (FileSystem × Store) :=
  match action with
  | start => (openAt fs path).map fun opened => (fs, opened)
  | save saved => (s.save fs saved).2.2.map fun _ => ((s.save fs saved).1, (s.save fs saved).2.1)
  | load => (s.load fs).2.map fun _ => (fs, (s.load fs).1)
  | clear => (s.clear fs).2.2.map fun _ => ((s.clear fs).1, (s.clear fs).2.1)

/-- What a register holds after an action. -/
def next (held : Option Members) : Action → Option Members
  | start => held
  | save saved => some saved.data
  | load => held
  | clear => none

/-- **One action** succeeds, leaves the files with what the register holds then, and its client with the same. -/
theorem apply_ok (action : Action) (h : Holding fs medium path summaryPath held)
    (beside : summaryPathOf path = .ok summaryPath) (own : s.path = path)
    (storable : ∀ saved, action = .save saved → saved.Storable medium) :
    ∃ fs' s', action.apply path fs s = .ok (fs', s') ∧ Holding fs' medium path summaryPath (action.next held) ∧
      s'.Reflects path (shown (action.next held)) := by
  cases action with
  | start =>
      obtain ⟨opened, eq, reflects⟩ := h.openAt beside
      exact ⟨fs, opened, by rw [apply, eq]; rfl, h, reflects⟩
  | save saved =>
      obtain ⟨fs', s', eq, holding, reflects⟩ := h.save beside own (storable saved rfl)
      exact ⟨fs', s', by rw [apply, eq]; rfl, holding, reflects⟩
  | load =>
      obtain ⟨s', eq, reflects⟩ := h.load beside own
      exact ⟨fs, s', by rw [apply, eq]; rfl, h, reflects⟩
  | clear =>
      obtain ⟨fs', s', eq, holding, reflects⟩ := h.clear beside own
      exact ⟨fs', s', by rw [apply, eq]; rfl, holding, reflects⟩

end Action

/-- An action, and the number of the client that takes it. -/
abbrev Move := Nat × Action

/-- What a register holds after some moves: the data of the last save that no clear has followed. -/
def lastSaved (moves : List Move) : Option Members :=
  moves.foldl (fun held move => move.2.next held) none

/-- A further move acts on what was held before it. -/
theorem lastSaved_concat (moves : List Move) (move : Move) :
    lastSaved (moves ++ [move]) = move.2.next (lastSaved moves) := by
  rw [lastSaved, List.foldl_concat, lastSaved]

/-- Files, and the clients that use them, by number. -/
structure Session where
  /-- The files are shared, -/
  files : FileSystem
  /-- and each client has a store of its own, with what it last read. -/
  clients : Nat → Store

namespace Session

/-- All clients open the store. -/
def start (fs : FileSystem) (path : Path) : Except Fault Session :=
  (Store.openAt fs path).map fun opened => ⟨fs, fun _ => opened⟩

/-- One client acts. -/
def step (path : Path) (t : Session) (move : Move) : Except Fault Session :=
  (move.2.apply path t.files (t.clients move.1)).map fun after =>
    ⟨after.1, Function.update t.clients move.1 after.2⟩

/-- The clients act in turn. -/
def run (fs : FileSystem) (path : Path) (moves : List Move) : Except Fault Session := do
  moves.foldlM (step path) (← start fs path)

/-- What holds between files and clients after some moves: the files hold what was saved last, and so does the
client that has acted last, or each of them if none has acted. -/
structure Follows (t : Session) (medium : Medium) (path summaryPath : Path) (moves : List Move) : Prop where
  /-- The files hold what was saved last. -/
  holding : Holding t.files medium path summaryPath (lastSaved moves)
  /-- All clients keep to the path. -/
  own : ∀ client, (t.clients client).path = path
  /-- The client that has acted last has it in memory, and all of them if none has acted. -/
  last : ∀ client, (∀ move, moves.getLast? = some move → move.1 = client) →
    (t.clients client).Reflects path (shown (lastSaved moves))

/-- Before the first move nothing is held, and all clients have the data without a graph. -/
theorem start_ok (h : Holding fs medium path summaryPath none) (beside : summaryPathOf path = .ok summaryPath) :
    ∃ t, start fs path = .ok t ∧ t.Follows medium path summaryPath [] := by
  obtain ⟨opened, eq, reflects⟩ := h.openAt beside
  exact ⟨⟨fs, fun _ => opened⟩, by rw [start, eq]; rfl, h, fun _ => reflects.own, fun _ _ => reflects⟩

/-- **A move keeps files and clients together**: the one that has moved has what is held then, and the others keep
their path. -/
theorem step_ok {t : Session} {moves : List Move} (h : t.Follows medium path summaryPath moves)
    (beside : summaryPathOf path = .ok summaryPath) (move : Move)
    (storable : ∀ saved, move.2 = .save saved → saved.Storable medium) :
    ∃ t', step path t move = .ok t' ∧ t'.Follows medium path summaryPath (moves ++ [move]) := by
  obtain ⟨fs', s', eq, holding, reflects⟩ := move.2.apply_ok h.holding beside (h.own move.1) storable
  refine ⟨⟨fs', Function.update t.clients move.1 s'⟩, by rw [step, eq]; rfl, ?_, ?_, ?_⟩
  · rwa [lastSaved_concat]
  · intro client
    by_cases acts : client = move.1
    · subst acts
      simpa using reflects.own
    · simpa [acts] using h.own client
  · intro client acts
    obtain rfl := acts move (by simp)
    simpa [lastSaved_concat] using reflects

/-- **After any run** the files hold what was saved last.  By induction over the moves from the last one, with
`Follows` for the moves before it. -/
theorem run_ok (h : Holding fs medium path summaryPath none) (beside : summaryPathOf path = .ok summaryPath)
    (moves : List Move) (storable : ∀ client saved, (client, .save saved) ∈ moves → saved.Storable medium) :
    ∃ t, run fs path moves = .ok t ∧ t.Follows medium path summaryPath moves := by
  induction moves using List.reverseRecOn with
  | nil =>
      obtain ⟨t, eq, follows⟩ := start_ok h beside
      exact ⟨t, by rw [run, eq]; rfl, follows⟩
  | append_singleton moves move ih =>
      obtain ⟨t, eq, follows⟩ := ih fun client saved mem => storable client saved (by simp [mem])
      obtain ⟨t', eq', follows'⟩ := step_ok follows beside move fun saved saves =>
        storable move.1 saved (by simp [← saves])
      refine ⟨t', ?_, follows'⟩
      obtain ⟨t₀, started, ran⟩ := bind_eq_ok_iff.mp eq
      refine bind_eq_ok_iff.mpr ⟨t₀, started, ?_⟩
      rw [List.foldlM_append]
      refine bind_eq_ok_iff.mpr ⟨t, ran, ?_⟩
      rw [List.foldlM_cons]
      exact bind_eq_ok_iff.mpr ⟨t', eq', rfl⟩

/-- **What a session shows after some moves.** -/
structure Shows (t : Session) (path : Path) (moves : List Move) : Prop where
  /-- A client that loads the store, whatever it had before, gets what was saved last. -/
  load : ∀ s : Store, s.path = path → ∃ s', s.load t.files = (s', .ok (shown (lastSaved moves))) ∧
    s'.Reflects path (shown (lastSaved moves))
  /-- So does one that opens it. -/
  opens : ∃ opened, Store.openAt t.files path = .ok opened ∧
    opened.Reflects path (shown (lastSaved moves))
  /-- The client that has acted last has it, and each of them if none has acted. -/
  last : ∀ client, (∀ move, moves.getLast? = some move → move.1 = client) →
    (t.clients client).Reflects path (shown (lastSaved moves))
  /-- The summary is there if a graph is, and then it is the summary of this graph. -/
  summary : ∀ summaryPath, summaryPathOf path = .ok summaryPath →
    (lastSaved moves = none → t.files.entry? summaryPath = none) ∧
      ∀ data, lastSaved moves = some data → t.files.readJson summaryPath = .ok (summaryOf data)

/-- What holds between files and clients is what can be seen of them. -/
theorem Follows.shows {t : Session} {moves : List Move} (h : t.Follows medium path summaryPath moves)
    (beside : summaryPathOf path = .ok summaryPath) : t.Shows path moves where
  load s own := h.holding.load beside own
  opens := h.holding.openAt beside
  last := h.last
  summary := by
    intro summaryPath' beside'
    obtain rfl : summaryPath = summaryPath' := Except.ok.inj (beside.symm.trans beside')
    refine ⟨?_, ?_⟩
    · intro none
      have gone := h.holding.summary
      rw [none] at gone
      exact FileSystem.entry?_of_missing gone
    · intro data some
      have holding := h.holding
      rw [some] at holding
      exact holding.readSummary beside

end Session

/-- Neither a graph nor its summary is where a path leads that names a file, and nothing blocks the way there. -/
structure Vacant (fs : FileSystem) (path : Path) : Prop where
  named : path.name ≠ ""
  unblocked : fs.Unblocked path.parent [path.name, summaryName path.name]
  graph : fs.entryAt? (fs.locate path) = none
  summary : fs.entryAt? (fs.locate (path.parent.child (summaryName path.name))) = none

/-- **A store is a register.**  Whatever its clients do, all of it succeeds, and at each moment what they find is the
data of the last save that no clear has followed.  A graph and its written form are saved alike.

The moves are any list, so that what is said of their end is said of each moment on the way.  What carries the proof
is `Holding`: each action asks nothing else of the files, and leaves it for the value that it makes the register hold.
-/
theorem run_shows_last_saved (vacant : Vacant fs path) (moves : List Move)
    (storable : ∀ client saved, (client, .save saved) ∈ moves → saved.Storable fs.medium) :
    (∃ t, Session.run fs path moves = .ok t ∧ t.Shows path moves) ∧
      ∀ (files : FileSystem) (s : Store) (g : Graph Float),
        s.save files (.graph g) = s.save files (.value g.toJson) := by
  have beside := summaryPathOf_eq_ok_iff.mpr ⟨vacant.named, rfl⟩
  have holding : Holding fs fs.medium path (path.parent.child (summaryName path.name)) none :=
    ⟨rfl, vacant.unblocked, fun some => absurd rfl some, vacant.graph, vacant.summary, fun _ none => (nomatch none)⟩
  obtain ⟨t, eq, follows⟩ := Session.run_ok holding beside moves storable
  exact ⟨⟨t, eq, follows.shows beside⟩, save_graph⟩

/-- A file system that has nothing but the root. -/
def bare : FileSystem := { cwd := ⟨.single, []⟩, entries := [] }

/-- Nothing but the root is there. -/
theorem entryAt?_bare (segments : List String) :
    bare.entryAt? segments = if segments = [] then some .directory else none := rfl

/-- A file in a directory that is not there yet. -/
def samplePath : Path := ⟨.single, ["w", "kg.json"]⟩

/-- So nothing blocks the way to the sample path, and neither file is there. -/
theorem vacant_bare : Vacant bare samplePath where
  named := by decide
  unblocked := {
    wellFormed := ⟨rfl, rfl, by
      intro segments there
      rw [entryAt?_bare] at there
      split at there
      · next root =>
          rw [root]
          rfl
      · exact absurd rfl there⟩
    usable := by decide
    way := by
      intro q _ front _
      unfold FileSystem.fileAt
      rw [entryAt?_bare]
      by_cases root : front = [] <;> simp [root]
    apart := by decide
    free := by
      have below : ∀ x ∈ [samplePath.name, summaryName samplePath.name],
          bare.locate (samplePath.parent.child x) ≠ [] := by decide
      intro x mem
      rw [entryAt?_bare, if_neg (below x mem)]
      simp
    room := fun _ _ => rfl }
  graph := rfl
  summary := rfl

/-- Two nodes with one id, and six communities. -/
def twins : Saved := .value (.obj [
  ("nodes", .arr [.obj [("id", .str "a")], .obj [("id", .str "a"), ("name", .str "x")]]),
  ("edges", .arr []),
  ("communities", .arr [.str "c0", .str "c1", .str "c2", .str "c3", .str "c4", .str "c5"])])

/-- The twins may be saved: they are read back from their own text, and so is their summary. -/
theorem storable_twins : twins.Storable {} where
  isGraph := by
    refine ⟨_, rfl, rfl, ?_, rfl, rfl⟩
    intro node mem
    refine ⟨"a", ?_⟩
    rcases List.mem_cons.mp mem with rfl | mem
    · rfl
    · obtain rfl := List.mem_singleton.mp mem
      rfl
  readBack := Json.readsBack_of_alike (by decide +kernel) (by decide +kernel)
  summaryReadBack := Json.readsBack_of_alike (by decide +kernel) (by decide +kernel)

/-- One client saves the two nodes, another one clears the store and saves them again, and the first one loads. -/
def sampleMoves : List Move := [(0, .save twins), (1, .clear), (1, .save twins), (0, .load)]

/-- The client that loads finds the second of the two nodes, and the summary has the first five of the six
communities. -/
theorem run_shows_last_saved_of_twins : ∃ t, Session.run bare samplePath sampleMoves = .ok t ∧
    t.Shows samplePath sampleMoves ∧
      (t.clients 0).node? (.str "a") = .ok (some (.obj [("id", .str "a"), ("name", .str "x")])) ∧
      t.files.readJson ⟨.single, ["w", "kg_summary.json"]⟩ = .ok (.obj [
        ("metadata", .obj []), ("node_count", .int 2), ("edge_count", .int 0), ("community_count", .int 6),
        ("top_communities", .arr [.str "c0", .str "c1", .str "c2", .str "c3", .str "c4"])]) := by
  have storable : ∀ client saved, (client, .save saved) ∈ sampleMoves → saved.Storable {} := by
    intro client saved mem
    have eq : saved = twins := by
      simp only [sampleMoves, List.mem_cons, Prod.mk.injEq, Action.save.injEq, reduceCtorEq, and_false,
        List.not_mem_nil, or_false, false_or] at mem
      rcases mem with ⟨-, eq⟩ | ⟨-, eq⟩ <;> exact eq
    rw [eq]
    exact storable_twins
  obtain ⟨⟨t, ran, shows⟩, -⟩ := run_shows_last_saved vacant_bare sampleMoves storable
  have last := shows.last 0 fun move eq => by
    obtain rfl := Option.some.inj eq
    rfl
  exact ⟨t, ran, shows, last.nodes "a", (shows.summary _ rfl).2 _ rfl⟩

end Store

end CodeAtlas
