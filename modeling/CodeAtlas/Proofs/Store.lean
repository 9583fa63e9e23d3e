import CodeAtlas.Proofs.Writing
import CodeAtlas.Store.Queries

/-!
# Opening a store, and saves that fail

A store is opened on whatever its file has in it.  The content counts if it is an object whose nodes are an array
(`Store.Holds`), and everything else, a missing file among it, is as good as the empty graph.  But content that
counts is taken as it is, and its nodes are indexed: `Store.open_outcome` says that a store is opened, and read
again, iff each of these nodes has an id that can be a key, and the file is not nested too deep to be read.

A save has four parts, one after the other: what it is given is made into data and a summary, the data is written,
the summary is written, and the data takes the place of the old one.  Writing has parts of its own.  A file that
cannot be opened stays as it is; one that is opened is empty, and takes the value as far as it can be written, so
that a fault leaves the front part of it (`Store.Writing`).  `Store.save_failure` goes through all of them and says
what each fault leaves.  The index is replaced last, so that nodes are found as before in any case.
-/

namespace CodeAtlas

/-- A node can be found by its id. -/
def Indexable (node : Json) : Prop :=
  ∃ members id, node = .obj members ∧ Members.get? members "id" = some id ∧ id.isKey = true

namespace Json

theorem member_eq_ok_iff {j value : Json} {key : String} :
    j.member key = .ok value ↔ ∃ members, j = .obj members ∧ Members.get? members key = some value := by
  cases j with
  | obj members =>
      simp only [member, obj.injEq, exists_eq_left']
      split <;> simp_all
  | _ => simp [member]

theorem asKey_eq_ok_iff {j key : Json} : j.asKey = .ok key ↔ j.isKey = true ∧ j = key := by
  unfold asKey
  split <;> simp_all

end Json

/-- **Data can be indexed iff each of its nodes can.**  The index is made by a fold over the nodes, and whether a step
of it can be taken depends on the node alone: it is an object, it has an id, and this can be a key. -/
theorem NodeIndex.exists_ofData_iff {data : Members} {nodes : List Json}
    (given : ((Members.get? data "nodes").getD (.arr [])).items = .ok nodes) :
    (∃ index, ofData data = .ok index) ↔ ∀ node ∈ nodes, Indexable node := by
  unfold ofData
  simp only [bind_eq_ok_iff, given, Except.ok.injEq, exists_eq_left']
  refine exists_foldlM_eq_ok_iff ?_ nodes []
  intro index node
  simp only [bind_eq_ok_iff, Json.member_eq_ok_iff, Json.asKey_eq_ok_iff, pure, Except.pure,
    Except.ok.injEq, Indexable]
  constructor
  · rintro ⟨next, id, ⟨members, rfl, found⟩, key, ⟨isKey, -⟩, -⟩
    exact ⟨members, id, rfl, found, isKey⟩
  · rintro ⟨members, id, rfl, found, isKey⟩
    exact ⟨_, id, ⟨members, rfl, found⟩, id, ⟨isKey, rfl⟩, rfl⟩

namespace Store

variable {fs : FileSystem} {path : Path} {s : Store} {data : Members}

/-! ## Opening -/

/-- The file at a path has a graph in it, with certain nodes. -/
def Holds (fs : FileSystem) (path : Path) (graph : Members) (nodes : List Json) : Prop :=
  fs.readJson path = .ok (.obj graph) ∧ Members.get? graph "nodes" = some (.arr nodes)

/-- The data of a store that is opened at a path: the graph in the file, or the empty one if there is none.  That
there is none is said of the content and not of why, be it that the file is missing, is no text, is no JSON, or is
JSON of another form. -/
inductive Stored (fs : FileSystem) (path : Path) : Members → Prop
  | graph {graph : Members} {nodes : List Json} (held : Holds fs path graph nodes) : Stored fs path graph
  | empty (none : ∀ graph nodes, ¬ Holds fs path graph nodes) : Stored fs path emptyData

/-- A store can be opened at a path.  What stands in its way are the two faults that the program catches nowhere: one
of reading the file, and one of indexing what is read. -/
structure Openable (fs : FileSystem) (path : Path) : Prop where
  /-- The file is not nested too deep to be read. -/
  shallow : fs.readJson path ≠ .error (.json .tooDeep)
  /-- If there is a graph in it, all nodes of this graph can be indexed. -/
  indexable : ∀ graph nodes, Holds fs path graph nodes → ∀ node ∈ nodes, Indexable node

/-- **What is read**: the graph or the empty one, unless the file is nested too deep.  The cases are those of what the
file gives: an object with or without an array of nodes, the one fault that is passed on, and everything else. -/
theorem readData_eq_ok_iff :
    readData fs path = .ok data ↔ fs.readJson path ≠ .error (.json .tooDeep) ∧ Stored fs path data := by
  constructor
  · intro h
    unfold readData at h
    split at h
    · next graph read =>
        refine ⟨by simp [read], ?_⟩
        split at h
        · next nodes array =>
            obtain rfl := Except.ok.inj h
            exact .graph ⟨read, array⟩
        · next noArray =>
            obtain rfl := Except.ok.inj h
            refine .empty ?_
            rintro graph' nodes ⟨read', array⟩
            obtain rfl : graph = graph' := Json.obj.inj (Except.ok.inj (read.symm.trans read'))
            exact noArray nodes array
    · cases h
    · next noObject notTooDeep =>
        obtain rfl := Except.ok.inj h
        refine ⟨notTooDeep, .empty ?_⟩
        rintro graph nodes ⟨read, -⟩
        exact noObject graph read
  · rintro ⟨shallow, stored⟩
    cases stored with
    | graph held =>
        unfold readData
        rw [held.1]
        dsimp only
        rw [held.2]
    | empty none =>
        unfold readData
        split
        · next graph read =>
            split
            · next nodes array => exact absurd ⟨read, array⟩ (none graph nodes)
            · rfl
        · next tooDeep => exact absurd tooDeep shallow
        · rfl

/-- What is read can be indexed iff the nodes of the graph in the file can.  The empty graph has none. -/
theorem Stored.exists_ofData_iff (stored : Stored fs path data) :
    (∃ index, NodeIndex.ofData data = .ok index) ↔
      ∀ graph nodes, Holds fs path graph nodes → ∀ node ∈ nodes, Indexable node := by
  cases stored with
  | @graph data nodes held =>
      have given : ((Members.get? data "nodes").getD (.arr [])).items = .ok nodes := by
        rw [held.2]
        rfl
      rw [NodeIndex.exists_ofData_iff given]
      constructor
      · intro indexable graph nodes' held'
        -- A file has at most one graph in it.
        obtain rfl : data = graph := Json.obj.inj (Except.ok.inj (held.1.symm.trans held'.1))
        obtain rfl : nodes = nodes' := Json.arr.inj (Option.some.inj (held.2.symm.trans held'.2))
        exact indexable
      · intro indexable
        exact indexable data nodes held
  | empty none =>
      have given : ((Members.get? emptyData "nodes").getD (.arr [])).items = .ok [] := rfl
      rw [NodeIndex.exists_ofData_iff given]
      refine iff_of_true (by simp) fun graph nodes held => absurd held (none graph nodes)

/-- What is read and can be indexed is there exactly where a store can be opened. -/
theorem exists_readable_iff :
    (∃ data, readData fs path = .ok data ∧ ∃ index, NodeIndex.ofData data = .ok index) ↔
      Openable fs path := by
  constructor
  · rintro ⟨data, read, indexed⟩
    obtain ⟨shallow, stored⟩ := readData_eq_ok_iff.mp read
    exact ⟨shallow, stored.exists_ofData_iff.mp indexed⟩
  · rintro ⟨shallow, indexable⟩
    obtain ⟨data, stored⟩ : ∃ data, Stored fs path data := by
      by_cases held : ∃ graph nodes, Holds fs path graph nodes
      · obtain ⟨graph, nodes, held⟩ := held
        exact ⟨graph, .graph held⟩
      · exact ⟨emptyData, .empty fun graph nodes h => held ⟨graph, nodes, h⟩⟩
    exact ⟨data, readData_eq_ok_iff.mpr ⟨shallow, stored⟩, stored.exists_ofData_iff.mpr indexable⟩

/-- A store is opened by reading its data and indexing it. -/
theorem openAt_eq_ok_iff {opened : Store} :
    openAt fs path = .ok opened ↔ ∃ data, readData fs path = .ok data ∧
      ∃ index, NodeIndex.ofData data = .ok index ∧ ⟨path, data, index⟩ = opened := by
  simp only [openAt, bind_eq_ok_iff, pure, Except.pure, Except.ok.injEq]

theorem withData_of_ok {index : NodeIndex} (indexed : NodeIndex.ofData data = .ok index) :
    s.withData data = ({ s with data, index }, .ok ()) := by
  rw [withData, indexed]

theorem withData_of_error {f : Fault} (refused : NodeIndex.ofData data = .error f) :
    s.withData data = ({ s with data }, .error f) := by
  rw [withData, refused]

/-- Reading again gives the data under the same conditions.  It has put the data into the store before it is indexed,
so that a fault of indexing leaves it there; but no data is given then. -/
theorem load_eq_ok_iff : (s.load fs).2 = .ok data ↔
    readData fs s.path = .ok data ∧ ∃ index, NodeIndex.ofData data = .ok index := by
  unfold load
  cases readData fs s.path with
  | error f => simp
  | ok read =>
      dsimp only
      cases indexed : NodeIndex.ofData read with
      | ok index =>
          rw [withData_of_ok indexed]
          constructor
          · intro same
            obtain rfl : read = data := Except.ok.inj same
            exact ⟨rfl, index, indexed⟩
          · rintro ⟨same, -⟩
            exact same
      | error f =>
          rw [withData_of_error indexed]
          refine iff_of_false (fun answer => nomatch answer) ?_
          rintro ⟨same, index, indexed'⟩
          rw [← Except.ok.inj same, indexed] at indexed'
          cases indexed'

/-- **When a store can be opened, and read again,** and what it has then.

The condition `Openable` is one on the file system alone, so that opening a store and reading it again later agree
wherever the file has not changed.  Both come down to the same question, whether there is data that is read and can be
indexed (`exists_readable_iff`). -/
theorem open_outcome (fs : FileSystem) (path : Path) :
    ((∃ opened, openAt fs path = .ok opened) ↔ Openable fs path) ∧
      (∀ opened, openAt fs path = .ok opened → opened.path = path ∧ Stored fs path opened.data) ∧
      ∀ s : Store, s.path = path →
        ((∃ data, (s.load fs).2 = .ok data) ↔ Openable fs path) ∧
          ∀ data, (s.load fs).2 = .ok data → Stored fs path data := by
  refine ⟨?_, ?_, ?_⟩
  · rw [← exists_readable_iff]
    simp only [openAt_eq_ok_iff]
    constructor
    · rintro ⟨opened, data, read, index, indexed, rfl⟩
      exact ⟨data, read, index, indexed⟩
    · rintro ⟨data, read, index, indexed⟩
      exact ⟨_, data, read, index, indexed, rfl⟩
  · intro opened h
    obtain ⟨data, read, index, -, rfl⟩ := openAt_eq_ok_iff.mp h
    exact ⟨rfl, (readData_eq_ok_iff.mp read).2⟩
  · rintro s rfl
    simp only [load_eq_ok_iff]
    exact ⟨exists_readable_iff, fun data loaded => (readData_eq_ok_iff.mp loaded.1).2⟩

/-- A file system with one file, in which a text stands. -/
def singleFile (text : String) : FileSystem where
  cwd := ⟨.single, []⟩
  entries := [(["kg.json"], .file (Text.encode text))]

/-- A number among the nodes of a graph ends the opening.  In the place of the nodes it would not, as then there is
no graph. -/
theorem number_among_nodes_ends_opening :
    (∀ s, openAt (singleFile "\x7b\"nodes\": [1]\x7d") ⟨.single, ["kg.json"]⟩ ≠ .ok s) ∧
      ∃ s, openAt (singleFile "\x7b\"nodes\": 1\x7d") ⟨.single, ["kg.json"]⟩ = .ok s ∧
        s.index = [] := by
  have fails : (openAt (singleFile "\x7b\"nodes\": [1]\x7d") ⟨.single, ["kg.json"]⟩).toOption.isNone
      = true := by
    decide +kernel
  have finishes : (openAt (singleFile "\x7b\"nodes\": 1\x7d") ⟨.single, ["kg.json"]⟩).toOption.any
      (fun s => s.index.isEmpty) = true := by
    decide +kernel
  refine ⟨?_, ?_⟩
  · intro s opened
    rw [opened] at fails
    cases fails
  · obtain ⟨s, opened, none⟩ := exists_ok_of_any_toOption finishes
    exact ⟨s, opened, List.isEmpty_iff.mp none⟩

/-! ## Saves that fail -/

variable {fs' : FileSystem} {s' : Store} {saved : Saved} {summary : Json} {f : Fault}

/-- The summary never stands in the place of the graph. -/
theorem locate_summary_ne {summaryPath : Path} (h : summaryPathOf path = .ok summaryPath) :
    fs.locate summaryPath ≠ fs.locate path := by
  unfold summaryPathOf at h
  split at h
  · cases h
  · next named =>
      obtain rfl := Except.ok.inj h
      have other : Path.stemOf path.name ++ "_summary.json" ≠ path.name :=
        Path.stemOf_append_ne path.name (by decide) (by decide)
      have up : Path.stemOf path.name ++ "_summary.json" ≠ ".." := by
        intro eq
        have := congrArg (fun text => text.toList.getLast?) eq
        simp at this
      have apart := fs.locate_child_ne path.parent up other
      rwa [Path.parent_child_name named] at apart

/-! ### Writing a value -/

/-- A file can be opened for writing, in a directory that is made for it. -/
def Opens (fs : FileSystem) (path : Path) : Prop :=
  ∃ around opened, fs.makeDirectory path.parent = .ok around ∧ around.create path = .ok opened

/-- **What writing a value comes to**: the file cannot be opened, and all files are as they were; or it has been
opened, and has the front part of the value in it, or all of it.

A file that is opened has lost what was in it, so there is no fourth case, in which it is opened and has its old
content: the front part may be empty, and never has anything of the old content behind it. -/
inductive Writing (fs : FileSystem) (path : Path) (j : Json) : FileSystem → Except Fault Unit → Prop
  | unopened {fs' : FileSystem} {f : Fault} (closed : ¬ Opens fs path) (same : fs.SameFiles fs') :
      Writing fs path j fs' (.error f)
  | broken {fs' : FileSystem} {f : Fault} {part : ByteArray} (opened : Opens fs path)
      (front : Front part (Text.encode j.pretty)) (wrote : fs.Wrote path part fs') : Writing fs path j fs' (.error f)
  | whole {fs' : FileSystem} (opened : Opens fs path) (wrote : fs.Wrote path (Text.encode j.pretty) fs') :
      Writing fs path j fs' (.ok ())

/-- A file that has been opened is filled with the front part of a value.  Both a piece that cannot be written and
room that is missing cut off an end, and a front part of a front part is one of the whole.  All of it is there if
neither has happened. -/
theorem exists_front_of_fillJson (there : fs.content? path ≠ none) (j : Json) :
    ∃ part, Front part (Text.encode j.pretty) ∧ fs.Wrote path part (fillJson fs path j).1 ∧
      ((fillJson fs path j).2 = .ok () → part = Text.encode j.pretty) := by
  have front := Json.front_written fs.medium.writingDepth j
  cases value : j.written fs.medium.writingDepth with
  | mk text fault =>
      cases filled : fs.fill path (Text.encode text) with
      | mk filledFs result =>
          have wrote := FileSystem.wrote_of_fill there (Text.encode text)
          rw [filled] at wrote
          rw [value] at front
          refine ⟨_, (fs.front_taken path _).trans front, ?_, ?_⟩
          · simp only [fillJson, value, filled]
            cases result <;> cases fault <;> exact wrote
          · intro done
            simp only [fillJson, value, filled] at done
            cases result with
            | error f => cases done
            | ok _ =>
                cases fault with
                | some f => cases done
                | none =>
                    have all := FileSystem.taken_of_fill_ok (congrArg Prod.snd filled)
                    have writable : j.Writable fs.medium.writingDepth := congrArg Prod.snd value
                    obtain rfl : j.pretty = text := congrArg Prod.fst (writable.written_eq.symm.trans value)
                    exact all

/-- **The three ways of writing a value**: its directory cannot be made, or the file cannot be opened there, or it is
opened and then filled. -/
theorem writeJson_cases {j : Json} {result : Except Fault Unit} (h : writeJson fs path j = (fs', result)) :
    (∃ reason, fs.makeDirectory path.parent = .error reason ∧ ¬ Opens fs path ∧
        fs' = fs ∧ result = .error (.file reason)) ∨
      (∃ around reason, fs.makeDirectory path.parent = .ok around ∧ around.create path = .error reason ∧
        ¬ Opens fs path ∧ fs' = around ∧ result = .error (.file reason)) ∨
      ∃ around opened, fs.makeDirectory path.parent = .ok around ∧ around.create path = .ok opened ∧
        fillJson opened path j = (fs', result) := by
  unfold writeJson at h
  cases made : fs.makeDirectory path.parent with
  | error reason =>
      rw [made] at h
      obtain ⟨rfl, rfl⟩ := Prod.mk.inj h
      refine Or.inl ⟨reason, rfl, ?_, rfl, rfl⟩
      rintro ⟨around, opened, made', -⟩
      rw [made] at made'
      cases made'
  | ok around =>
      rw [made] at h
      dsimp only at h
      cases created : around.create path with
      | error reason =>
          rw [created] at h
          obtain ⟨rfl, rfl⟩ := Prod.mk.inj h
          refine Or.inr (Or.inl ⟨around, reason, rfl, created, ?_, rfl, rfl⟩)
          rintro ⟨around', opened, made', created'⟩
          obtain rfl : around = around' := Except.ok.inj (made.symm.trans made')
          rw [created] at created'
          cases created'
      | ok opened =>
          rw [created] at h
          exact Or.inr (Or.inr ⟨around, opened, rfl, created, h⟩)

/-- **Writing leaves the file as it is, or with the front part of the value.**  Making the directory changes no file,
and what comes behind it changes no other one: opening empties the file, and filling it writes to the same place
again, so that both together are one change of one file (`FileSystem.Wrote.again`). -/
theorem writeJson_outcome {j : Json} {result : Except Fault Unit} (h : writeJson fs path j = (fs', result)) :
    Writing fs path j fs' result := by
  rcases writeJson_cases h with ⟨reason, -, closed, rfl, rfl⟩ | ⟨around, reason, made, -, closed, rfl, rfl⟩ |
    ⟨around, opened, made, created, run⟩
  · exact .unopened closed (.refl _)
  · exact .unopened closed (FileSystem.sameFiles_of_makeDirectory made)
  · have opens : Opens fs path := ⟨around, opened, made, created⟩
    have emptied := FileSystem.wrote_of_create created
    have there : opened.content? path ≠ none := by simp [emptied.here]
    obtain ⟨part, front, filled, all⟩ := exists_front_of_fillJson there j
    rw [run] at filled all
    have wrote := (FileSystem.sameFiles_of_makeDirectory made).wrote (emptied.again filled)
    cases result with
    | error f => exact .broken opens front wrote
    | ok _ =>
        obtain rfl := all rfl
        exact .whole opens wrote

/-! ### Saving a graph -/

/-- **What a save that fails leaves** of the files and of the store, by what made it fail.

The cases come in the order in which a save goes on.  In each of the first five the store is the one that was there;
in the last one it has new data and the old index, as the index is replaced only when it has been made.  Which file
has what follows from the case: none is written by `refused` and `unopened`, the graph's file in part by `broken`, the
graph's file alone by `summaryUnopened`, and both files by the other two, of which `summaryBroken` has the summary in
part. -/
inductive SaveFailure (fs : FileSystem) (s : Store) (saved : Saved) : FileSystem → Store → Prop
  /-- What is no graph is not written at all. -/
  | refused (none : ∀ data summary, payload saved ≠ .ok (data, summary)) : SaveFailure fs s saved fs s
  /-- If the graph's file cannot be opened, all files stay. -/
  | unopened {fs' : FileSystem} {data : Members} {summary : Json} (given : payload saved = .ok (data, summary))
      (closed : ¬ Opens fs s.path) (same : fs.SameFiles fs') : SaveFailure fs s saved fs' s
  /-- If writing the graph breaks off, its file has the front part of it, and all others stay. -/
  | broken {fs' : FileSystem} {data : Members} {summary : Json} {part : ByteArray}
      (given : payload saved = .ok (data, summary)) (opened : Opens fs s.path)
      (front : Front part (Text.encode (Json.obj data).pretty)) (wrote : fs.Wrote s.path part fs') :
      SaveFailure fs s saved fs' s
  /-- If the summary's file cannot be opened, the graph is there, and all other files stay. -/
  | summaryUnopened {around fs' : FileSystem} {data : Members} {summary : Json}
      (given : payload saved = .ok (data, summary)) (graph : writeJson fs s.path (.obj data) = (around, .ok ()))
      (closed : ∀ summaryPath, s.summaryPath = .ok summaryPath → ¬ Opens around summaryPath)
      (wrote : fs.Wrote s.path (Text.encode (Json.obj data).pretty) fs')
      (summaryKept : ∀ summaryPath, s.summaryPath = .ok summaryPath →
        fs'.content? summaryPath = fs.content? summaryPath) : SaveFailure fs s saved fs' s
  /-- If writing the summary breaks off, the graph is there, and the summary's file has the front part of it. -/
  | summaryBroken {around fs' : FileSystem} {data : Members} {summary : Json} {summaryPath : Path} {part : ByteArray}
      (given : payload saved = .ok (data, summary)) (graph : writeJson fs s.path (.obj data) = (around, .ok ()))
      (named : s.summaryPath = .ok summaryPath) (opened : Opens around summaryPath)
      (front : Front part (Text.encode summary.pretty))
      (wrote : fs.WroteBoth s.path (Text.encode (Json.obj data).pretty) summaryPath part fs') :
      SaveFailure fs s saved fs' s
  /-- If only the new nodes cannot be indexed, both files are there, and the store has the new data. -/
  | unindexed {fs' : FileSystem} {data : Members} {summary : Json} {summaryPath : Path}
      (given : payload saved = .ok (data, summary)) (odd : ∀ index, NodeIndex.ofData data ≠ .ok index)
      (named : s.summaryPath = .ok summaryPath)
      (wrote : fs.WroteBoth s.path (Text.encode (Json.obj data).pretty) summaryPath
        (Text.encode summary.pretty) fs') :
      SaveFailure fs s saved fs' { s with data }

/-- Behind a graph that is written comes its summary. -/
theorem writeBoth_of_graph {around : FileSystem} (graph : writeJson fs path (.obj data) = (around, .ok ())) :
    writeBoth fs path data summary = match summaryPathOf path with
      | .error f => (around, .error f)
      | .ok summaryPath => writeJson around summaryPath summary := by
  cases named : summaryPathOf path <;> simp only [writeBoth, graph, named]

/-- What is left where one of the two files cannot be written.  The graph is written first, and each way in which this
may end is a case of its own; only where it is written there is a summary to be written, and its place is not that of
the graph (`locate_summary_ne`). -/
theorem saveFailure_of_writeBoth (given : payload saved = .ok (data, summary))
    (h : writeBoth fs s.path data summary = (fs', .error f)) : SaveFailure fs s saved fs' s := by
  cases graph : writeJson fs s.path (.obj data) with
  | mk around result =>
      cases writeJson_outcome graph with
      | unopened closed same =>
          obtain ⟨rfl, -⟩ : around = fs' ∧ _ := by simpa [writeBoth, graph] using h
          exact .unopened given closed same
      | broken opened front wrote =>
          obtain ⟨rfl, -⟩ : around = fs' ∧ _ := by simpa [writeBoth, graph] using h
          exact .broken given opened front wrote
      | whole opened wrote =>
          rw [writeBoth_of_graph graph] at h
          split at h
          · next unnamed =>
              obtain ⟨rfl, -⟩ := Prod.mk.inj h
              have none : ∀ summaryPath, s.summaryPath ≠ .ok summaryPath := by simp [Store.summaryPath, unnamed]
              exact .summaryUnopened given graph (fun _ named => absurd named (none _)) wrote
                fun _ named => absurd named (none _)
          · next summaryPath named =>
              have apart : fs.locate summaryPath ≠ fs.locate s.path := locate_summary_ne named
              have only : ∀ q, s.summaryPath = .ok q → q = summaryPath :=
                fun q named' => Except.ok.inj (named'.symm.trans named)
              cases writeJson_outcome h with
              | unopened closed same =>
                  refine .summaryUnopened given graph (fun q named' => only q named' ▸ closed) (wrote.sameFiles same) ?_
                  intro q named'
                  obtain rfl := only q named'
                  exact (wrote.sameFiles same).content?_ne apart
              | broken opened front wrote' =>
                  exact .summaryBroken given graph named opened front (wrote.both wrote' apart)

/-- What is there where both files are written.  The summary does not replace the graph, since it stands in another
place. -/
theorem wroteBoth_of_writeBoth (h : writeBoth fs path data summary = (fs', .ok ())) :
    ∃ summaryPath, summaryPathOf path = .ok summaryPath ∧
      fs.WroteBoth path (Text.encode (Json.obj data).pretty) summaryPath (Text.encode summary.pretty) fs' := by
  cases graph : writeJson fs path (.obj data) with
  | mk around result =>
      cases writeJson_outcome graph with
      | unopened => simp [writeBoth, graph] at h
      | broken => simp [writeBoth, graph] at h
      | whole _ wrote =>
          rw [writeBoth_of_graph graph] at h
          split at h
          · cases h
          · next summaryPath named =>
              cases writeJson_outcome h with
              | whole _ wrote' => exact ⟨summaryPath, named, wrote.both wrote' (locate_summary_ne named)⟩

/-- **What is left by a save that fails.**  Each step of a save leaves what it has done, so that the cases are those
of where it ends.  That a file which cannot be opened is as it was, and one that has been opened has the front part of
what it was to have, comes from `writeJson_outcome` for either file.

Nodes are found by the index, which is the last thing that a save replaces.  A save that fails has not come to that,
and so every node is found that was found before, and as it was, although the graph in the file may be another one by
then, or none at all. -/
theorem save_failure (h : s.save fs saved = (fs', s', .error f)) :
    (∀ id, s'.node? id = s.node? id) ∧ SaveFailure fs s saved fs' s' := by
  unfold save at h
  cases given : payload saved with
  | error f' =>
      rw [given] at h
      cases h
      exact ⟨fun _ => rfl, .refused (by simp [given])⟩
  | ok both =>
      obtain ⟨data, summary⟩ := both
      rw [given] at h
      dsimp only at h
      split at h
      · next written =>
          obtain ⟨rfl, rfl, -⟩ : _ ∧ _ ∧ _ := by simpa using h
          exact ⟨fun _ => rfl, saveFailure_of_writeBoth given written⟩
      · next written =>
          obtain ⟨summaryPath, named, wrote⟩ := wroteBoth_of_writeBoth written
          cases indexed : NodeIndex.ofData data with
          | ok index =>
              rw [withData_of_ok indexed] at h
              cases h
          | error f' =>
              rw [withData_of_error indexed] at h
              cases h
              exact ⟨fun _ => rfl, .unindexed given (by simp [indexed]) named wrote⟩

/-- A text with half of a surrogate pair in it ends the writing of a graph.  The graph is there up to this text, and
what the file had in it before is lost. -/
example :
    let s : Store := ⟨⟨.single, ["kg.json"]⟩, emptyData, []⟩
    let halved : Saved := .value (.obj [("nodes", .arr []), ("name", .str (String.ofList [Text.half 0xD800]))])
    let saved := s.save (singleFile "\x7b\"nodes\": []\x7d") halved
    saved.2.2.toOption = none ∧
      saved.1.content? s.path = some (Text.encode "\x7b\n  \"nodes\": [],\n  \"name\": ") := by
  decide +kernel

/-- A file system that has a directory where a summary is to be written. -/
def blockedSummary : FileSystem where
  cwd := ⟨.single, []⟩
  entries := [(["w"], .directory), (["w", "kg_summary.json"], .directory)]

/-- A store without a graph whose summary cannot be written. -/
def blockedStore : Store := ⟨⟨.single, ["w", "kg.json"]⟩, emptyData, []⟩

/-- A graph without nodes. -/
def bareGraph : Saved := .value (.obj [("nodes", .arr [])])

/-- Saving to it fails when the graph has been written. -/
theorem exists_failure_of_blockedSummary :
    ∃ fs' s' f, blockedStore.save blockedSummary bareGraph = (fs', s', .error f) ∧
      (fs'.content? blockedStore.path).isSome = true := by
  have fails : (blockedStore.save blockedSummary bareGraph).2.2.toOption.isNone = true := by
    decide +kernel
  have written : ((blockedStore.save blockedSummary bareGraph).1.content? blockedStore.path).isSome = true := by
    decide +kernel
  obtain ⟨f, failed⟩ := exists_error_of_isNone_toOption fails
  exact ⟨_, _, f, by rw [← failed], written⟩

/-- The store is what it was, and so is the place of the summary. -/
theorem save_failure_of_blocked_summary :
    ∃ fs' s' f, blockedStore.save blockedSummary bareGraph = (fs', s', .error f) ∧
      (∀ id, s'.node? id = blockedStore.node? id) ∧ SaveFailure blockedSummary blockedStore bareGraph fs' s' := by
  obtain ⟨fs', s', f, run, -⟩ := exists_failure_of_blockedSummary
  exact ⟨fs', s', f, run, save_failure run⟩

/-- The graph is there all the same, where there was none. -/
theorem failed_save_writes_graph :
    ∃ fs' s' f, blockedStore.save blockedSummary bareGraph = (fs', s', .error f) ∧
      blockedSummary.content? blockedStore.path = none ∧
        (fs'.content? blockedStore.path).isSome = true := by
  obtain ⟨fs', s', f, run, written⟩ := exists_failure_of_blockedSummary
  exact ⟨fs', s', f, run, rfl, written⟩

end Store

end CodeAtlas
