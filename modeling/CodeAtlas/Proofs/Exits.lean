import CodeAtlas.CommandLine.Run
import CodeAtlas.Proofs.Saving

/-!
# How a run ends

A run opens its log, reads its input, builds the graph, opens the store and saves the graph, one after the other.  An
input that cannot be read ends it with a failure before anything but the log has been touched.  Once there is a graph
and the store can be opened, the run has an exit code in any case, and `Ending` lists what is left of the files: both
written, or one that is there as far as the run has come, or neither.

That is what a save does that fails half-way (`Store.writeJson_outcome`): a run does not take back what it has written,
so that the exit code for a failure does not mean that the files are as before (`failure_leaves_graph`).

The log may be any that keeps to files of its own (`Log.KeepsTo`).  It is written to all along, so that everything
else is said of the files but its own; as long as neither output is among these, what the log does before and after a
file is written makes no difference to it (`FileSystem.Wrote.within`).  `run_outcome` puts the parts together.

## Outline

* What the log does is put into one relation, that files differ in some places at most (`FileSystem.SameFilesBut`),
  and this composes with itself.
* Writing a value is taken from `Store.writeJson_outcome`, and what a failure of it is answered with from the kinds
  of faults that a file system has: those of the path, which a usable one excludes, and those that the program
  catches (`exists_fault_of_writeJson`).
* `exists_ending` goes through the places where storing a graph may end, and `run_outcome` puts what comes before in
  front of it.
-/

namespace CodeAtlas

namespace Store

variable {fs fs' : FileSystem} {path : Path} {j : Json} {f : Fault}

/-- A directory cannot be opened as a file. -/
theorem not_opens_of_directory (there : fs.entryAt? (fs.locate path) = some .directory) : ¬ Opens fs path := by
  rintro ⟨around, opened, made, created⟩
  have same := FileSystem.sameFiles_of_makeDirectory made
  refine (FileSystem.insert_of_create created).1 ?_
  rw [same.locate]
  exact same.directory _ there

/-- **A value that could be written** and is not, at a path that can name a file, is refused by the file system; where
the file can be opened, for want of room.  Both are faults that a run answers with an exit code. -/
theorem exists_fault_of_writeJson (usable : FileSystem.isUsable path = true)
    (writable : j.Writable fs.medium.writingDepth) (h : writeJson fs path j = (fs', .error f)) :
    ∃ reason, f = .file reason ∧ ¬ FileSystem.IsOfPath reason ∧ (Opens fs path → reason = .noSpace) := by
  rcases writeJson_cases h with ⟨reason, made, closed, -, eq⟩ | ⟨around, reason, made, created, closed, -, eq⟩ |
    ⟨around, opened, made, created, run⟩
  · obtain rfl := Except.error.inj eq
    exact ⟨reason, rfl, FileSystem.makeDirectory_error (FileSystem.isUsable_parent usable) made,
      fun opens => absurd opens closed⟩
  · obtain rfl := Except.error.inj eq
    exact ⟨reason, rfl, FileSystem.create_error usable created, fun opens => absurd opens closed⟩
  · have medium : opened.medium = fs.medium := by
      rw [(FileSystem.wrote_of_create created).elsewhere.medium,
        (FileSystem.sameFiles_of_makeDirectory made).medium]
    cases filled : opened.fill path (Text.encode j.pretty) with
    | mk fs'' result =>
        simp only [fillJson, medium, writable.written_eq, filled] at run
        cases result with
        | ok _ => cases run
        | error reason =>
            obtain ⟨-, rfl⟩ : fs'' = fs' ∧ Fault.file reason = f := by simpa using run
            obtain rfl := FileSystem.fill_error (congrArg Prod.snd filled)
            refine ⟨.noSpace, rfl, ?_, fun _ => rfl⟩
            rintro ⟨problem, eq⟩
            cases eq

end Store

namespace CommandLine

variable {log : Log} {fs fs' fs'' fs₀ met : FileSystem} {own : Set (List String)} {path : Path} {g : Graph Float}
  {settings : Settings} {level now : String} {arguments : List String} {r : Request} {j : Json} {f : Fault}
  {given : Members}

/-! ## Logs that keep to their files -/

/-- A log at a path changes no files but some of its own, whatever it reports, and takes no directory away.  This is
all that is asked of a log: what it writes, when it does, and in how many files is left open. -/
structure Log.KeepsTo (log : Log) (cwd path : Path) (own : Set (List String)) : Prop where
  /-- Opening the log changes its own files at most, whether or not it can be opened, -/
  attach : ∀ fs : FileSystem, fs.cwd = cwd → fs.SameFilesBut own (log.attach path fs).1
  /-- and so does reporting a message. -/
  record : ∀ (fs : FileSystem) (level : String) (m : Message), fs.cwd = cwd →
    fs.SameFilesBut own (log.record level path m fs)

/-- Writing behind what a file has in it changes no other file. -/
theorem Log.sameFilesBut_append (fs : FileSystem) (path : Path) (content : ByteArray) :
    fs.SameFilesBut {fs.locate path} (Log.append path content fs).1 := by
  unfold Log.append
  cases created : fs.create path with
  | error f => exact .refl fs _
  | ok opened =>
      have emptied := FileSystem.wrote_of_create created
      have there : opened.content? path ≠ none := by simp [emptied.here]
      exact (emptied.again (FileSystem.wrote_of_fill there _)).elsewhere

/-- **A log that writes lines keeps to its file.** -/
theorem Log.keepsTo_lines (cwd path : Path) : Log.lines.KeepsTo cwd path {(cwd.join path).normalize.segments} where
  attach := by
    rintro fs rfl
    exact sameFilesBut_append fs path .empty
  record := by
    rintro fs level m rfl
    show fs.SameFilesBut _ (if _ then _ else _)
    split
    · exact sameFilesBut_append fs path _
    · exact .refl fs _

/-- The log of a run keeps to its files, if it has one. -/
def KeepsLog (log : Log) (settings : Settings) (cwd : Path) (own : Set (List String)) : Prop :=
  ∀ path, settings.logPath? = some path → log.KeepsTo cwd path own

namespace KeepsLog

/-- Opening the log once, with the directory that is made for it, changes no other files, -/
theorem attachLog (keeps : KeepsLog log settings fs.cwd own) : fs.SameFilesBut own (attachLog log settings fs).1 := by
  unfold CommandLine.attachLog
  split
  · exact .refl fs own
  · next path logged =>
      split
      · exact .refl fs own
      · next around made =>
          have same := FileSystem.sameFiles_of_makeDirectory made
          have attached := (keeps path logged).attach around same.cwd
          exact same.before attached

/-- nor does opening it for a level that may not exist, -/
theorem openLog (keeps : KeepsLog log settings fs.cwd own) (level : String) :
    fs.SameFilesBut own (openLog log settings level fs).1 := by
  unfold CommandLine.openLog
  split
  · exact .refl fs own
  · exact keeps.attachLog

/-- and the settings that a run begins with. -/
theorem prepare (keeps : KeepsLog log settings fs.cwd own) : fs.SameFilesBut own (prepare log settings fs).1 := by
  unfold CommandLine.prepare
  split
  · exact .refl fs own
  · next around ensured =>
      have same : fs.SameFiles around := by
        unfold Settings.ensureDirectories at ensured
        split at ensured
        · obtain rfl := Except.ok.inj ensured
          exact .refl _
        · exact FileSystem.sameFiles_of_makeDirectory ensured
      have keeps' : KeepsLog log settings around.cwd own := same.cwd ▸ keeps
      exact same.before (keeps'.openLog settings.logLevel)

/-- What is reported stays in the files of the log: the induction is on the messages. -/
theorem note (keeps : KeepsLog log settings fs.cwd own) (level : String) (messages : List Message) :
    fs.SameFilesBut own (note log settings level messages fs) := by
  unfold CommandLine.note
  split
  · exact .refl fs own
  · next path logged =>
      induction messages generalizing fs with
      | nil => exact .refl fs own
      | cons m rest ih =>
          have first := (keeps path logged).record fs level m rfl
          have later := ih (first.cwd ▸ keeps)
          exact first.again later

end KeepsLog

/-! ## Storing a graph -/

/-- What is left of the files by a run that has made a graph, and how it ends.  The run has started from the file
system `fs`, and has come to `met` when it stores the graph; `own` are the files of its log.  In each case the last
field says that nothing else has changed. -/
inductive Ending (own : Set (List String)) (fs met : FileSystem) (path : Path) (g : Graph Float) :
    FileSystem → Exit → Prop
  /-- Both files are written, and nothing else has changed. -/
  | stored {fs' : FileSystem} {summaryPath : Path} (beside : Store.summaryPathOf path = .ok summaryPath)
      (graph : fs'.content? path = some (Text.encode g.toJson.pretty))
      (summary : fs'.content? summaryPath = some (Text.encode (Store.summaryOf g.data).pretty))
      (elsewhere : fs.SameFilesBut (own ∪ {fs.locate path, fs.locate summaryPath}) fs') :
      Ending own fs met path g fs' .success
  /-- The graph's file cannot be opened, and nothing has changed. -/
  | unopened {fs' : FileSystem} (closed : ¬ Store.Opens met path) (same : fs.SameFilesBut own fs') :
      Ending own fs met path g fs' .failure
  /-- There is no room for all of the graph; its front part is there, and nothing else has changed. -/
  | broken {fs' : FileSystem} {part : ByteArray}
      (full : (Store.writeJson met path g.toJson).2 = .error (.file .noSpace))
      (front : Front part (Text.encode g.toJson.pretty)) (graph : fs'.content? path = some part)
      (elsewhere : fs.SameFilesBut (own ∪ {fs.locate path}) fs') : Ending own fs met path g fs' .failure
  /-- The graph is written, the summary's file cannot be opened, and nothing else has changed. -/
  | summaryUnopened {around fs' : FileSystem} {summaryPath : Path}
      (beside : Store.summaryPathOf path = .ok summaryPath)
      (written : Store.writeJson met path g.toJson = (around, .ok ())) (closed : ¬ Store.Opens around summaryPath)
      (graph : fs'.content? path = some (Text.encode g.toJson.pretty))
      (elsewhere : fs.SameFilesBut (own ∪ {fs.locate path}) fs') : Ending own fs met path g fs' .failure
  /-- The graph is written, there is no room for all of the summary, and nothing else has changed. -/
  | summaryBroken {around fs' : FileSystem} {summaryPath : Path} {part : ByteArray}
      (beside : Store.summaryPathOf path = .ok summaryPath)
      (written : Store.writeJson met path g.toJson = (around, .ok ()))
      (full : (Store.writeJson around summaryPath (Store.summaryOf g.data)).2 = .error (.file .noSpace))
      (front : Front part (Text.encode (Store.summaryOf g.data).pretty))
      (graph : fs'.content? path = some (Text.encode g.toJson.pretty)) (summary : fs'.content? summaryPath = some part)
      (elsewhere : fs.SameFilesBut (own ∪ {fs.locate path, fs.locate summaryPath}) fs') :
      Ending own fs met path g fs' .failure

/-- A run stays in its directory. -/
theorem Ending.cwd {exit : Exit} (h : Ending own fs met path g fs' exit) : fs'.cwd = fs.cwd := by
  cases h with
  | stored _ _ _ elsewhere => exact elsewhere.cwd
  | unopened _ same => exact same.cwd
  | broken _ _ _ elsewhere => exact elsewhere.cwd
  | summaryUnopened _ _ _ _ elsewhere => exact elsewhere.cwd
  | summaryBroken _ _ _ _ _ _ elsewhere => exact elsewhere.cwd

/-- What storing a graph answers, as the end of a run. -/
def exitOf : Except Fault Unit → Exit
  | .ok _ => .success
  | .error _ => .failure

/-- A graph that a run has made can be encoded, and so can its summary: no text in them has half of a surrogate pair,
no integer is too long, and nothing stands too deep. -/
structure Encodable (medium : Medium) (g : Graph Float) : Prop where
  /-- The written form of the graph can be encoded, -/
  graph : g.toJson.Writable medium.writingDepth
  /-- and so can the summary that is written beside it. -/
  summary : (Store.summaryOf g.data).Writable medium.writingDepth

/-- A graph can be stored at a path as far as it depends on the path: it can name a file, and neither this file nor
the summary beside it is one of the log's. -/
structure Storage (fs : FileSystem) (path : Path) (own : Set (List String)) : Prop where
  /-- The path of the output can name a file. -/
  usable : FileSystem.isUsable path = true
  /-- The log is not written where the graph goes, -/
  apart : fs.locate path ∉ own
  /-- nor where its summary goes. -/
  summaryApart : ∀ summaryPath, Store.summaryPathOf path = .ok summaryPath → fs.locate summaryPath ∉ own

/-- Storing a graph is writing both files, once the store has been opened: what it held before is replaced. -/
theorem storeGraph_of_opened {store : Store} (opened : Store.openAt fs path = .ok store) :
    storeGraph fs path g = Store.writeBoth fs path g.data (Store.summaryOf g.data) := by
  obtain ⟨data, -, index, -, rfl⟩ := Store.openAt_eq_ok_iff.mp opened
  obtain ⟨index', indexed, -⟩ := g.graphData.exists_index
  rw [storeGraph, opened]
  dsimp only
  rw [Store.save, Store.payload_graph, ← Store.summaryOf_data]
  dsimp only
  rcases both : Store.writeBoth fs path g.data (Store.summaryOf g.data) with ⟨fs', f | ⟨⟩⟩
  · rfl
  · dsimp only
    rw [Store.withData_of_ok indexed]
    rfl

/-- Every fault of the file system that is not one of the path is answered with an exit code. -/
theorem isWriteFailure_of_not_isOfPath {reason : FileFault} (h : ¬ FileSystem.IsOfPath reason) :
    isWriteFailure (.file reason) = true := by
  cases reason with
  | unusablePath problem => exact absurd ⟨problem, rfl⟩ h
  | _ => rfl

/-- **Behind a graph that is written** the summary may not be opened, be filled in part, or be filled.  What the log
does afterwards changes neither file, as both stand outside of its own. -/
theorem ending_of_summary {around left : FileSystem} {summaryPath : Path} {result : Except Fault Unit}
    (before : fs.SameFilesBut own met) (storage : Storage fs path own) (encodable : Encodable met.medium g)
    (graph : Store.writeJson met path (.obj g.data) = (around, .ok ()))
    (wrote : met.Wrote path (Text.encode (Json.obj g.data).pretty) around)
    (beside : Store.summaryPathOf path = .ok summaryPath)
    (summary : Store.writeJson around summaryPath (Store.summaryOf g.data) = (left, result)) :
    (∀ f, result = .error f → isWriteFailure f = true) ∧
      ∀ fs', left.SameFilesBut own fs' → Ending own fs met path g fs' (exitOf result) := by
  have apart : met.locate summaryPath ≠ met.locate path := Store.locate_summary_ne beside
  have out := storage.summaryApart summaryPath beside
  have usable := Store.isUsable_summaryPath storage.usable beside
  have medium : around.medium = met.medium := wrote.elsewhere.medium
  refine ⟨?_, ?_⟩
  · rintro f rfl
    obtain ⟨reason, rfl, notPath, -⟩ :=
      Store.exists_fault_of_writeJson usable (medium ▸ encodable.summary) summary
    exact isWriteFailure_of_not_isOfPath notPath
  · intro fs' after
    cases Store.writeJson_outcome summary with
    | unopened closed same =>
        obtain ⟨here, elsewhere⟩ := (wrote.sameFiles same).within before after storage.apart
        exact .summaryUnopened beside graph closed here elsewhere
    | broken opens front wrote' =>
        obtain ⟨reason, rfl, -, full⟩ :=
          Store.exists_fault_of_writeJson usable (medium ▸ encodable.summary) summary
        obtain rfl := full opens
        obtain ⟨here, there, elsewhere⟩ := (wrote.both wrote' apart).within before after storage.apart out
        exact .summaryBroken beside graph (congrArg Prod.snd summary) front here there elsewhere
    | whole opens wrote' =>
        obtain ⟨here, there, elsewhere⟩ := (wrote.both wrote' apart).within before after storage.apart out
        exact .stored beside here there elsewhere

/-- **Storing a graph ends a run with an exit code**, if the store can be opened and the graph can be encoded, and
leaves what `Ending` says, whatever the log does behind it.  There is one case for each place where writing may end:
the graph's file, not opened or filled in part, or behind it the summary's (`ending_of_summary`).  What carries the
proof through all of them is that changes compose (`SameFilesBut`): those of the log before, those of the two files,
those of the log behind. -/
theorem exists_ending (before : fs.SameFilesBut own met) (storage : Storage fs path own)
    (openable : Store.Openable met path) (encodable : Encodable met.medium g)
    (named : path.name = "" → met.entryAt? (met.locate path) = some .directory) :
    ∃ left result, storeGraph met path g = (left, result) ∧ (∀ f, result = .error f → isWriteFailure f = true) ∧
      ∀ fs', left.SameFilesBut own fs' → Ending own fs met path g fs' (exitOf result) := by
  obtain ⟨store, opened⟩ := ((Store.open_outcome met path).1).mpr openable
  rw [storeGraph_of_opened opened]
  cases graph : Store.writeJson met path (.obj g.data) with
  | mk around result =>
      cases Store.writeJson_outcome graph with
      | unopened closed same =>
          obtain ⟨reason, rfl, notPath, -⟩ := Store.exists_fault_of_writeJson storage.usable encodable.graph graph
          refine ⟨around, .error (.file reason), by rw [Store.writeBoth, graph], ?_, ?_⟩
          · rintro f ⟨⟩
            exact isWriteFailure_of_not_isOfPath notPath
          · intro fs' after
            exact .unopened closed (before.again (same.before after))
      | broken opens front wrote =>
          obtain ⟨reason, rfl, notPath, full⟩ := Store.exists_fault_of_writeJson storage.usable encodable.graph graph
          refine ⟨around, .error (.file reason), by rw [Store.writeBoth, graph], ?_, ?_⟩
          · rintro f ⟨⟩
            exact isWriteFailure_of_not_isOfPath notPath
          · intro fs' after
            obtain ⟨here, elsewhere⟩ := wrote.within before after storage.apart
            obtain rfl := full opens
            exact .broken (by rw [Graph.toJson_eq, graph]) front here elsewhere
      | whole opens wrote =>
          cases beside : Store.summaryPathOf path with
          | error f =>
              -- A path without a file name leads to a directory, where no graph can have been written.
              have unnamed : path.name = "" := by
                by_contra name
                rw [Store.summaryPathOf, if_neg name] at beside
                cases beside
              exact absurd opens (Store.not_opens_of_directory (named unnamed))
          | ok summaryPath =>
              rw [Store.writeBoth_of_graph graph, beside]
              dsimp only
              cases summary : Store.writeJson around summaryPath (Store.summaryOf g.data) with
              | mk left result =>
                  exact ⟨left, result, rfl, ending_of_summary before storage encodable graph wrote beside summary⟩

/-! ## Whole runs -/

/-- A run has been started for a request: its log has been prepared, and opened again for the level that the command
line asks for, in the file system `fs₀` that this leaves. -/
structure Started (log : Log) (settings : Settings) (fs : FileSystem) (arguments : List String) (r : Request)
    (fs₀ : FileSystem) : Prop where
  /-- The arguments ask for a build. -/
  command : Command.ofArguments arguments = .ok (.build r)
  /-- The log has been prepared by the settings, and opened for the request. -/
  opened : ∃ prepared, prepare log settings fs = (prepared, .ok ()) ∧
    openLog log settings (r.logLevel settings) prepared = (fs₀, .ok ())
  /-- The current directory is there. -/
  here : fs.entryAt? (fs.locate (Path.parse ".")) = some .directory

namespace Started

/-- Opening the log changes no files but its own. -/
theorem sameFilesBut (h : Started log settings fs arguments r fs₀) (keeps : KeepsLog log settings fs.cwd own) :
    fs.SameFilesBut own fs₀ := by
  obtain ⟨prepared, first, second⟩ := h.opened
  have before := keeps.prepare
  rw [first] at before
  have keeps' : KeepsLog log settings prepared.cwd own := before.cwd ▸ keeps
  have after := keeps'.openLog (r.logLevel settings)
  rw [second] at after
  exact before.again after

/-- What is left of a run then is the request. -/
theorem run_eq (h : Started log settings fs arguments r fs₀) (now : String) :
    run log settings now fs arguments = runRequest log settings (r.logLevel settings) now fs₀ r := by
  obtain ⟨prepared, first, second⟩ := h.opened
  simp only [run, first, h.command, second]

end Started

/-- The file system in which a run stores its graph: the log has been told of it. -/
def whenStoring (log : Log) (settings : Settings) (r : Request) (g : Graph Float) (fs₀ : FileSystem) : FileSystem :=
  note log settings (r.logLevel settings) [.built g] fs₀

/-- The path of the output is a plain one. -/
theorem plain_outputPath (settings : Settings) (r : Request) :
    Path.Plain (r.outputPath settings).segments := by
  have join : ∀ p q : Path, Path.Plain p.segments → Path.Plain q.segments →
      Path.Plain (p.join q).segments := by
    intro p q hp hq
    unfold Path.join
    split
    · exact hq
    · exact Path.plain_append.mpr ⟨hp, hq⟩
  unfold Request.outputPath
  split
  · exact join _ _ (join _ _ (Path.plain_parse _) (Path.plain_parse _)) (Path.plain_parse _)
  · exact Path.plain_parse _

/-- An output without a file name is a root or the current directory. -/
theorem unnamed_outputPath (here : fs.entryAt? (fs.locate (Path.parse ".")) = some .directory)
    (unnamed : (r.outputPath settings).name = "") :
    fs.entryAt? (fs.locate (r.outputPath settings)) = some .directory := by
  have nil : (r.outputPath settings).segments = [] := by
    rcases List.eq_nil_or_concat' (r.outputPath settings).segments with nil | ⟨front, last, eq⟩
    · exact nil
    · have plain := plain_outputPath settings r
      rw [eq, Path.plain_append, Path.plain_cons] at plain
      exact absurd (by simpa [Path.name, eq] using unnamed) plain.2.1.ne_empty
  by_cases absolute : (r.outputPath settings).isAbsolute = true
  · simp [FileSystem.locate, Path.join, absolute, Path.normalize, nil, FileSystem.entryAt?]
  · have place : fs.locate (r.outputPath settings) = fs.locate (Path.parse ".") := by
      rw [FileSystem.locate, Path.join, if_neg absolute, nil]
      rfl
    rw [place, here]

/-- **How a run ends.**  Opening the log changes no files but its own.  An input that cannot be read, or does not hold
what it should, ends the run with a failure, and nothing else has changed.  If it is read, its graph can be made and
encoded and the store can be opened, the run has an exit code, and its end is one of those that `Ending` lists.

The log is written to between all of these, and what it writes is never read again by the run; so the clauses are
about the files outside of `own` only, and for the output the theorem asks that it is not among the log's files. -/
theorem run_outcome (keeps : KeepsLog log settings fs.cwd own) (started : Started log settings fs arguments r fs₀)
    (now : String) :
    fs.SameFilesBut own fs₀ ∧
      (∀ f, readInput fs₀ r.input = .error f → isReadFailure f = true →
        ∃ fs', run log settings now fs arguments = (fs', .ok .failure) ∧ fs.SameFilesBut own fs') ∧
      ∀ given g, readInput fs₀ r.input = .ok given → r.graph settings now fs₀ given = .ok g →
        Storage fs (r.outputPath settings) own → Encodable fs.medium g →
        Store.Openable (whenStoring log settings r g fs₀) (r.outputPath settings) →
          ∃ fs' exit, run log settings now fs arguments = (fs', .ok exit) ∧
            Ending own fs (whenStoring log settings r g fs₀) (r.outputPath settings) g fs' exit := by
  have before := started.sameFilesBut keeps
  have keeps₀ : KeepsLog log settings fs₀.cwd own := before.cwd ▸ keeps
  rw [started.run_eq now]
  refine ⟨before, ?_, ?_⟩
  · intro f refused failure
    refine ⟨note log settings (r.logLevel settings) [.unreadable r.input f.message] fs₀, ?_,
      before.again (keeps₀.note _ _)⟩
    rw [runRequest, refused]
    dsimp only
    rw [if_pos failure]
  · intro given g read made storage encodable openable
    have told : fs.SameFilesBut own (whenStoring log settings r g fs₀) := before.again (keeps₀.note _ _)
    have here := told.directory _ started.here
    rw [← told.locate] at here
    obtain ⟨left, result, stored, failure, ending⟩ := exists_ending told storage openable (told.medium ▸ encodable)
      (unnamed_outputPath here)
    have keepsLeft : KeepsLog log settings left.cwd own := (ending left (.refl left own)).cwd ▸ keeps
    have stored' : storeGraph (note log settings (r.logLevel settings) [.built g] fs₀) (r.outputPath settings) g
        = (left, result) := stored
    cases result with
    | ok _ =>
        refine ⟨_, .success, ?_, ending _ (keepsLeft.note (r.logLevel settings)
          (Message.stored g (r.outputPath settings).text))⟩
        simp only [runRequest, read, made, stored']
    | error f =>
        refine ⟨_, .failure, ?_, ending _ (keepsLeft.note (r.logLevel settings)
          [.unwritable (r.outputPath settings).text f.message])⟩
        simp only [runRequest, read, made, stored', failure f rfl, if_true]

/-! ## Some runs -/

/-- A file system with an input file, a directory for the output, and some other entries. -/
def inputFiles (input : String) (others : List (List String × Entry)) : FileSystem where
  cwd := ⟨.single, []⟩
  entries := [(["in.json"], .file (Text.encode input)), (["w"], .directory)] ++ others

/-- A command line for a build of the input file. -/
def sampleArguments : List String := ["build", "/in.json", "--workspace", "/ws", "--output", "/w/kg.json"]

/-- What it asks for. -/
def sampleRequest : Request := ⟨"/in.json", "/ws", { output := "/w/kg.json" }⟩

/-- The path of the log that the program has if no settings are given. -/
def sampleLog : Path := ⟨.none, ["logs", "code_graph.log"]⟩

/-- Its place. -/
def sampleOwn : Set (List String) := {["logs", "code_graph.log"]}

/-- What opening this log leaves of a file system. -/
def openedFiles (fs : FileSystem) : FileSystem :=
  (openLog .lines {} (sampleRequest.logLevel {}) (prepare .lines {} fs).1).1

/-- Something that is done without a fault, decided. -/
theorem eq_ok_of_isSome {x : Except Fault Unit} (h : x.toOption.isSome = true) : x = .ok () := by
  cases x with
  | error f => cases h
  | ok _ => rfl

/-- A run of the program is started where its log can be opened. -/
theorem started_sample (first : (prepare .lines {} fs).2.toOption.isSome = true)
    (second : (openLog .lines {} (sampleRequest.logLevel {}) (prepare .lines {} fs).1).2.toOption.isSome = true)
    (here : fs.entryAt? (fs.locate (Path.parse ".")) = some .directory) :
    Started .lines {} fs sampleArguments sampleRequest (openedFiles fs) where
  command := rfl
  opened := ⟨(prepare .lines {} fs).1, Prod.ext rfl (eq_ok_of_isSome first), Prod.ext rfl (eq_ok_of_isSome second)⟩
  here := here

/-- The log of lines keeps to its place, -/
theorem keepsLog_sample (input : String) (others : List (List String × Entry)) :
    KeepsLog .lines {} (inputFiles input others).cwd sampleOwn := by
  intro path logged
  obtain rfl : sampleLog = path := Option.some.inj logged
  exact Log.keepsTo_lines _ _

/-- and the output does not stand in it. -/
theorem storage_sample : Storage (inputFiles "[]" []) (sampleRequest.outputPath {}) sampleOwn where
  usable := by decide
  apart := by
    rw [sampleOwn, Set.mem_singleton_iff]
    decide
  summaryApart := by
    intro summaryPath beside
    obtain rfl : Path.parse "/w/kg_summary.json" = summaryPath := Except.ok.inj beside
    rw [sampleOwn, Set.mem_singleton_iff]
    decide

/-- An input that is no JSON is reported in the log, and an empty one is built and stored. -/
theorem run_outcome_of_empty_input :
    (∃ fs', run .lines {} "" (inputFiles "?" []) sampleArguments = (fs', .ok .failure) ∧
      (inputFiles "?" []).SameFilesBut sampleOwn fs' ∧
      fs'.content? sampleLog = some (Text.encode "ERROR | Could not read /in.json: the text is not JSON\n")) ∧
    ∃ g fs', run .lines {} "" (inputFiles "[]" []) sampleArguments = (fs', .ok .success) ∧
      Ending sampleOwn (inputFiles "[]" [])
        (whenStoring .lines {} sampleRequest g (openedFiles (inputFiles "[]" [])))
        (sampleRequest.outputPath {}) g fs' .success := by
  constructor
  · have started : Started .lines {} (inputFiles "?" []) sampleArguments sampleRequest _ :=
      started_sample (by decide +kernel) (by decide +kernel) rfl
    have unread : readInput (openedFiles (inputFiles "?" [])) sampleRequest.input = .error (.json .malformed) := rfl
    have told : (run .lines {} "" (inputFiles "?" []) sampleArguments).1.content? sampleLog
        = some (Text.encode "ERROR | Could not read /in.json: the text is not JSON\n") := by
      decide +kernel
    obtain ⟨-, unreadable, -⟩ := run_outcome (keepsLog_sample "?" []) started ""
    obtain ⟨fs', ended, same⟩ := unreadable _ unread rfl
    rw [ended] at told
    exact ⟨fs', ended, same, told⟩
  · have started : Started .lines {} (inputFiles "[]" []) sampleArguments sampleRequest _ :=
      started_sample (by decide +kernel) (by decide +kernel) rfl
    have read : readInput (openedFiles (inputFiles "[]" [])) sampleRequest.input
        = .ok [("entities", .arr [])] := rfl
    have makes : (sampleRequest.graph {} "" (openedFiles (inputFiles "[]" [])) [("entities", .arr [])]).toOption.any
        (fun g => decide (g.toJson.Writable 990) && decide ((Store.summaryOf g.data).Writable 990)
          && (Store.openAt (whenStoring .lines {} sampleRequest g (openedFiles (inputFiles "[]" [])))
            (sampleRequest.outputPath {})).toOption.isSome) = true := by
      decide +kernel
    have succeeds : (run .lines {} "" (inputFiles "[]" []) sampleArguments).2.toOption.any (· == .success) = true := by
      decide +kernel
    obtain ⟨g, made, fine⟩ := exists_ok_of_any_toOption makes
    simp only [Bool.and_eq_true, decide_eq_true_eq] at fine
    obtain ⟨⟨graph, summary⟩, opens⟩ := fine
    obtain ⟨store, opened⟩ : ∃ store, Store.openAt _ _ = .ok store := by
      obtain ⟨store, opened, -⟩ := exists_ok_of_any_toOption (p := fun _ => true) (by simpa using opens)
      exact ⟨store, opened⟩
    have openable := ((Store.open_outcome _ _).1).mp ⟨store, opened⟩
    obtain ⟨-, -, ends⟩ := run_outcome (keepsLog_sample "[]" []) started ""
    obtain ⟨fs', exit, ended, ending⟩ := ends _ g read made storage_sample ⟨graph, summary⟩ openable
    rw [ended] at succeeds
    obtain rfl : exit = .success := beq_iff_eq.mp succeeds
    exact ⟨g, fs', ended, ending⟩

/-- A project whose name is half of a surrogate pair, with a graph where the output is to go. -/
def halfNamed : FileSystem := inputFiles "[]" [(["ws"], .directory),
  (["ws", "package.json"], .file (Text.encode "\x7b\"name\": \"\\ud800\"\x7d")),
  (["w", "kg.json"], .file (Text.encode "\x7b\"nodes\": []\x7d"))]

/-- A run that fails may leave a graph where there was none.  And a run may end without an exit code, for its
records, for what stands in the place of its output, or for a text that cannot be encoded; in the last case the
graph that was there is lost. -/
theorem failure_leaves_graph :
    (∃ fs', run .lines {} "" (inputFiles "[]" [(["w", "kg_summary.json"], .directory)]) sampleArguments
        = (fs', .ok .failure) ∧
      (inputFiles "[]" [(["w", "kg_summary.json"], .directory)]).content? (Path.parse "/w/kg.json") = none ∧
      (fs'.content? (Path.parse "/w/kg.json")).isSome = true) ∧
    (∃ fs' f, run .lines {} "" (inputFiles "\x7b\"entities\": 5\x7d" []) sampleArguments = (fs', .error f)) ∧
    (∃ fs' f, run .lines {} "" (inputFiles "[]"
      [(["w", "kg.json"], .file (Text.encode "\x7b\"nodes\": [1]\x7d"))]) sampleArguments
        = (fs', .error f)) ∧
    ∃ fs' f, run .lines {} "" halfNamed sampleArguments = (fs', .error f) ∧
      fs'.content? (Path.parse "/w/kg.json") ≠ halfNamed.content? (Path.parse "/w/kg.json") := by
  refine ⟨?_, ?_, ?_, ?_⟩
  · have fails : (run .lines {} "" (inputFiles "[]" [(["w", "kg_summary.json"], .directory)])
        sampleArguments).2.toOption.any (· == .failure) = true := by
      decide +kernel
    have written : ((run .lines {} "" (inputFiles "[]" [(["w", "kg_summary.json"], .directory)])
        sampleArguments).1.content? (Path.parse "/w/kg.json")).isSome = true := by
      decide +kernel
    obtain ⟨exit, ended, eq⟩ := exists_ok_of_any_toOption fails
    obtain rfl := beq_iff_eq.mp eq
    exact ⟨_, by rw [← ended], rfl, written⟩
  · have escapes : (run .lines {} "" (inputFiles "\x7b\"entities\": 5\x7d" []) sampleArguments).2.toOption.isNone
        = true := by
      decide +kernel
    obtain ⟨f, escaped⟩ := exists_error_of_isNone_toOption escapes
    exact ⟨_, f, by rw [← escaped]⟩
  · have escapes : (run .lines {} "" (inputFiles "[]"
        [(["w", "kg.json"], .file (Text.encode "\x7b\"nodes\": [1]\x7d"))]) sampleArguments).2.toOption.isNone
          = true := by
      decide +kernel
    obtain ⟨f, escaped⟩ := exists_error_of_isNone_toOption escapes
    exact ⟨_, f, by rw [← escaped]⟩
  · have ends : (run .lines {} "" halfNamed sampleArguments).2.toOption.isNone = true ∧
        (run .lines {} "" halfNamed sampleArguments).1.content? (Path.parse "/w/kg.json")
          ≠ halfNamed.content? (Path.parse "/w/kg.json") := by
      decide +kernel
    obtain ⟨f, escaped⟩ := exists_error_of_isNone_toOption ends.1
    exact ⟨_, f, by rw [← escaped], ends.2⟩

end CommandLine

end CodeAtlas
