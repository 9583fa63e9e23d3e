import CodeAtlas.Build.Builder
import CodeAtlas.CommandLine.Log
import CodeAtlas.CommandLine.Request
import CodeAtlas.Settings
import CodeAtlas.Store.Basic

/-!
# A run of the program

A run opens its log, reads its command line, builds the graph of an input file and stores it.  It ends with
an exit code: for success, for files that cannot be read or written, or for a command line that is refused.
Any other fault leaves the run without an exit code.  What the run does is reported to the log as it goes on.
What the parts of a build and the store report besides, such as a source that is skipped or a graph that has
been loaded, is left out: it goes to the same log, and nothing that the run does depends on it.

## Main definitions

* `openLog`, `note`: the log of a run.
* `readInput`: the input file of a build.
* `Request.builder`: the builder that a request and the settings ask for.
* `run`: the whole program, as a function of the log, the settings, the time and the file system.
-/

namespace CodeAtlas

/-- The input in the members of an object; what is absent is not given. -/
def BuildInput.ofMembers (given : Members) : Except Fault BuildInput :=
  let member (key : String) : Json := (Members.get? given key).getD .null
  (member "entities").elements.map fun records =>
    { sources := records.map .record
      imports := member "file_imports"
      exports := member "file_exports" }

namespace CommandLine

/-- How a run ends. -/
inductive Exit where
  | success
  /-- a file could not be read or written -/
  | failure
  /-- the command line was refused -/
  | usage
  deriving DecidableEq, Repr

/-- The exit code. -/
def Exit.code : Exit → Nat
  | success => 0
  | failure => 1
  | usage => 2

/-! ## The log -/

/-- Refuses a level that the log does not have. -/
def checkLogLevel (log : Log) (level : String) : Except Fault Unit :=
  if log.levels.contains level then .ok () else .error (.unknownLogLevel level)

/-- Opens the file of the log, if there is to be one, and makes the directory that it stands in. -/
def attachLog (log : Log) (settings : Settings) (fs : FileSystem) : FileSystem × Except Fault Unit :=
  match settings.logPath? with
  | none => (fs, .ok ())
  | some path =>
    match fs.makeDirectory path.parent with
    | .error f => (fs, .error (.file f))
    | .ok fs =>
      let (fs, result) := log.attach path fs
      (fs, liftFile result)

/-- Opens the log for messages from a level on. -/
def openLog (log : Log) (settings : Settings) (level : String) (fs : FileSystem) :
    FileSystem × Except Fault Unit :=
  match checkLogLevel log level with
  | .error f => (fs, .error f)
  | .ok () => attachLog log settings fs

/-- Reports some messages. -/
def note (log : Log) (settings : Settings) (level : String) (messages : List Message) (fs : FileSystem) :
    FileSystem :=
  match settings.logPath? with
  | none => fs
  | some path => messages.foldl (fun fs m => log.record level path m fs) fs

/-! ## The parts of a run -/

/-- Whether a text asks for a directory: it ends in a slash, or in the name that a directory has for itself. -/
def asksForDirectory (text : String) : Bool :=
  match text.toList.reverse with
  | '/' :: _ => true
  | ['.'] => true
  | '.' :: '/' :: _ => true
  | _ => false

/-- The value in a file.  A file is not what a text names that asks for a directory, unless all that counts is
the path. -/
def readNamed (fs : FileSystem) (text : String) : Except Fault Json :=
  let path := Path.parse text
  if !fs.medium.lexical && asksForDirectory text && fs.isFile path then .error (.file .notDirectory)
  else fs.readJson path

/-- The content of an input file: an object, or a list of records on its own. -/
def readInput (fs : FileSystem) (path : String) : Except Fault Members :=
  (readNamed fs path).bind fun
    | .obj members => .ok members
    | .arr records => .ok [("entities", .arr records)]
    | _ => .error .inputShape

/-- The filters of the settings, with what the request adds to them. -/
def Preferences.filters (settings : Settings) (p : Preferences) : Filters Float :=
  let base := settings.filters
  { base with
    enableImportsExports := base.enableImportsExports || p.enableImports
    enableCalls := base.enableCalls || p.enableCalls
    enableSemanticRelated := base.enableSemanticRelated || p.enableSemantic
    minRelationWeight := p.minWeight.getD base.minRelationWeight }

/-- The builder that a request asks for. -/
def Request.builder (settings : Settings) (fs : FileSystem) (r : Request) :
    Except Fault (Builder Float) :=
  let strategy : Except Fault Strategy := match r.preferences.strategy with
    | some s => .ok s
    | none => Strategy.read settings.communityStrategy
  strategy.map fun strategy =>
    { workspace := fs.cwd.absolute r.workspace
      filters := r.preferences.filters settings
      strategy }

/-- Where the graph of a request is stored. -/
def Request.outputPath (settings : Settings) (r : Request) : Path :=
  if r.preferences.output = "" then settings.graphPath r.workspace
  else Path.parse r.preferences.output

/-- The graph that a request asks for. -/
def Request.graph (settings : Settings) (now : String) (fs : FileSystem) (r : Request)
    (given : Members) : Except Fault (Graph Float) := do
  let builder ← r.builder settings fs
  builder.build fs now (← BuildInput.ofMembers given)

/-- Whether a fault means that a file could not be read or written, or does not hold what it should.  It
does not when the nesting of a file is too deep. -/
def isReadFailure : Fault → Bool
  | .json .tooDeep => false
  | _ => true

/-- Whether a fault means that a file could not be written.  It does not when the path cannot name one. -/
def isWriteFailure : Fault → Bool
  | .file (.unusablePath _) => false
  | .file _ => true
  | _ => false

/-- Stores a graph.  A file that cannot be written is a failure; what has been written stays. -/
def storeGraph (fs : FileSystem) (path : Path) (g : Graph Float) : FileSystem × Except Fault Unit :=
  match Store.openAt fs path with
  | .error f => (fs, .error f)
  | .ok store =>
    let (fs, _, result) := store.save fs (.graph g)
    (fs, result.map fun _ => ())

/-- Does what a request asks for, and reports it to a log that takes messages from a level on. -/
def runRequest (log : Log) (settings : Settings) (level now : String) (fs : FileSystem) (r : Request) :
    FileSystem × Except Fault Exit :=
  let note := note log settings level
  match readInput fs r.input with
  | .error f =>
    if isReadFailure f then (note [.unreadable r.input f.message] fs, .ok .failure) else (fs, .error f)
  | .ok given =>
    match r.graph settings now fs given with
    | .error f => (fs, .error f)
    | .ok g =>
      let path := r.outputPath settings
      match storeGraph (note [.built g] fs) path g with
      | (fs, .ok ()) => (note (Message.stored g path.text) fs, .ok .success)
      | (fs, .error f) =>
        if isWriteFailure f then (note [.unwritable path.text f.message] fs, .ok .failure) else (fs, .error f)

/-- Prepares the log: its directory is made, and it is opened with the level of the settings. -/
def prepare (log : Log) (settings : Settings) (fs : FileSystem) : FileSystem × Except Fault Unit :=
  match settings.ensureDirectories fs with
  | .error f => (fs, .error (.file f))
  | .ok fs => openLog log settings settings.logLevel fs

/-- The places that a run looks at one by one: its input, its output, its log, and the directories above
them. -/
def places (settings : Settings) (command : Except UsageFault Command) : List Path :=
  let named := match command with
    | .ok (.build r) =>
      let output := r.outputPath settings
      [Path.parse r.input, output] ++ (Store.summaryPathOf output).toOption.toList
    | _ => []
  (named ++ settings.logPath?.toList).flatMap Path.ancestry

/-- How the program is called. -/
def usage : String :=
  "usage: code-atlas build INPUT --workspace PATH [--output FILE]\n"
    ++ "         [--strategy connectivity|directory] [--enable-imports] [--enable-calls]\n"
    ++ "         [--enable-semantic] [--min-weight WEIGHT] [--log-level LEVEL]"

/-- The level from which on a request wants messages. -/
def Request.logLevel (settings : Settings) (r : Request) : String := r.preferences.logLevel.getD settings.logLevel

/-- Runs the program.  The log is prepared before the command line is looked at, and opened again with the level
that the command line asks for. -/
def run (log : Log) (settings : Settings) (now : String) (fs : FileSystem) (arguments : List String) :
    FileSystem × Except Fault Exit :=
  match prepare log settings fs with
  | (fs, .error f) => (fs, .error f)
  | (fs, .ok ()) =>
    match Command.ofArguments arguments with
    | .error _ => (fs, .ok .usage)
    | .ok .help => (fs, .ok .success)
    | .ok (.build r) =>
      match openLog log settings (r.logLevel settings) fs with
      | (fs, .error f) => (fs, .error f)
      | (fs, .ok ()) => runRequest log settings (r.logLevel settings) now fs r

end CommandLine

end CodeAtlas
