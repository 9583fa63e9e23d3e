import CodeAtlas.Build.State
import CodeAtlas.Graph.Tags
import CodeAtlas.Json.Reader

/-!
# The nodes of a build

The project has one node; every file that an entity stands in has one, and so has every directory on
the way from the workspace to it; and every entity has one.  The file system is only asked for what it
can add (the package manifest, the size of a file, the number of a directory's entries), and where it
fails a default stands in; only a manifest that is nested too deep and a path that cannot name a file are
faults.

## Main definitions

* `projectNode`, `fileNode`, `directoryNode`, `entityNode`: the nodes.
* `BuildState.addProject`, `BuildState.addFiles`, `BuildState.addEntities`: the steps.
-/

namespace CodeAtlas

open Tags

/-- The id of the project's node. -/
def projectId : String := "project_root"

/-- The content of a file as JSON. -/
def FileSystem.readJson (fs : FileSystem) (p : Path) : Except Fault Json := do
  let bytes ← liftFile (fs.read p)
  match Text.decode? bytes with
  | none => .error .malformedText
  | some text => (Json.parse text fs.medium.readingDepth).mapError Fault.json

/-- The members of the package manifest of a workspace, if there is a readable one. -/
def manifest? (fs : FileSystem) (workspace : Path) : Except Fault (Option Json) :=
  match fs.readJson (workspace.child "package.json") with
  | .ok (.obj members) => .ok (some (.obj members))
  | .error (.json .tooDeep) => .error (.json .tooDeep)
  | _ => .ok none

/-- The tech stack of a manifest; none when its dependencies are not given as objects. -/
def stackOf : Json → Json → List String
  | .obj dependencies, .obj development => techStack (Members.merge dependencies development)
  | _, _ => []

/-- The members of a manifest that a project shows; one that is not given is an empty object. -/
def shownManifest (manifest : Json) : Members :=
  ["dependencies", "devDependencies", "scripts"].map fun key =>
    (key, (manifest.getD key).orElse (.obj []))

/-- The node of a project with a given name, tech stack and package information. -/
def projectNodeOf (workspace : Path) (name : Json) (stack : List String) (info : Members) : Node where
  id := projectId
  kind := .project
  name := name
  absolutePath := some workspace.text
  tags := (uniqueTexts ("project" :: "root" :: stack)).map .str
  techStack := some stack
  properties := [
    ("package_json", .obj info),
    ("workspace_path", .str workspace.text)]

/-- The node of the project: as its manifest says, or named after the workspace. -/
def projectNode (fs : FileSystem) (workspace : Path) : Except Fault Node :=
  (manifest? fs workspace).map fun
  | none => projectNodeOf workspace (.str workspace.name) [] []
  | some manifest =>
    let info := shownManifest manifest
    let shown (key : String) : Json := (Members.get? info key).getD .null
    projectNodeOf workspace ((manifest.getD "name").orElse (.str workspace.name))
      (stackOf (shown "dependencies") (shown "devDependencies")) info

/-- The kinds of files that are known by their extension. -/
def fileTypes : List (String × String) := [
  (".js", "javascript"),
  (".ts", "typescript"),
  (".vue", "vue"),
  (".jsx", "jsx"),
  (".tsx", "tsx"),
  (".json", "json"),
  (".md", "markdown"),
  (".css", "css"),
  (".scss", "scss"),
  (".html", "html"),
  (".py", "python")]

/-- The size of a file and its number of lines; an unreadable one is empty and has one line. -/
def fileFigures (fs : FileSystem) (p : Path) : Except Fault (Nat × Nat) :=
  match fs.read p with
  | .ok content => .ok (content.size, Text.lineEnds (Text.decodeLenient content.toList) + 1)
  | .error (.unusablePath problem) => .error (.file (.unusablePath problem))
  | .error _ => .ok (0, 1)

/-- A language that counts as given, or the word for none. -/
def knownLanguage (language : Json) : Json := language.orElse (.str "unknown")

/-- The node of a file with some entities.  Its language is the first one that an entity gives, and is
a tag of the file too. -/
def fileNode {α : Type} (fs : FileSystem) (s : BuildState α) (path : Path) (entities : List Entity) :
    Except Fault Node := do
  let relative := (path.relativeTo s.workspace).text
  let extension := Path.extensionOf path.name
  let language := ((entities.map (·.language)).find? Json.truthy).getD .null
  let types := uniqueTexts (entities.map (·.elementType))
  let (size, lines) ← fileFigures fs path
  let tags ← unique (.str "file" :: language :: (types ++ ofName fileNameTable path.name).map .str)
  return {
    id := "file:" ++ relative
    kind := .file
    name := .str path.name
    absolutePath := some path.text
    relativePath := some relative
    tags
    fileType := some ((fileTypes.lookup (Text.lower extension)).getD "unknown")
    fileSize := .int size
    lineCount := .int lines
    imports := some ((s.imports.lookup path.text).getD [])
    exports := some ((s.exports.lookup path.text).getD [])
    properties := [
      ("extension", .str extension),
      ("language", knownLanguage language),
      ("entities_count", .int entities.length),
      ("element_types", .strs types)] }

/-- The node of the directory that segments lead to from the workspace. -/
def directoryNode (fs : FileSystem) (workspace : Path) (segments : List String) : Node :=
  let relative := "/".intercalate segments
  let path : Path := { workspace with segments := workspace.segments ++ segments }
  let name := segments.getLast?.getD ""
  { id := "dir:" ++ relative
    kind := .directory
    name := .str name
    absolutePath := some path.text
    relativePath := some relative
    tags := (uniqueTexts ("directory" :: ofName directoryNameTable name)).map .str
    level := .int segments.length
    childrenCount := .int ((fs.childCount? path).getD 0 : Nat)
    properties := [
      ("depth", .int segments.length),
      ("full_path", .str path.text)] }

/-- The id of an entity's node. -/
def entityId (relative : String) (e : Entity) : String :=
  "entity:" ++ relative ++ ":" ++ e.elementType ++ ":" ++ e.name ++ ":"
    ++ e.startLine.display

/-- The number of lines of an entity; one when its lines do not say. -/
def lineSpan (e : Entity) : Int :=
  match e.startLine.whole?, e.endLine.whole? with
  | some first, some last => if first ≠ 0 ∧ last ≠ 0 ∧ first ≤ last then last - first + 1 else 1
  | _, _ => 1

/-- The node of an entity. -/
def entityNode {α : Type} (s : BuildState α) (e : Entity) : Node :=
  let relative := (s.relativePath e.filePath).text
  { id := entityId relative e
    kind := .codeElement
    name := .str e.name
    absolutePath := some (s.absolutePath e.filePath).text
    relativePath := some relative
    tags := (uniqueTexts e.tags).map .str
    elementKind := some (.ofParserWord e.elementType)
    startLine := e.startLine
    endLine := e.endLine
    snippet := e.snippet
    properties := [
      ("language", knownLanguage e.language),
      ("file_name", e.fileName),
      ("raw_element_type", .str e.elementType),
      ("code_length", .int (e.snippet.getD "").length),
      ("line_count", .int (lineSpan e))] }

/-- A state, and the ids of the nodes that a step has made. -/
structure Made (α : Type) where
  state : BuildState α
  files : List String := []
  directories : List String := []
  entities : List String := []

namespace BuildState

variable {α : Type}

/-- Makes the node of the project. -/
def addProject (fs : FileSystem) (s : BuildState α) : Except Fault (BuildState α) :=
  (projectNode fs s.workspace).map s.addNode

/-- Makes the node of a directory unless there is one. -/
def addDirectory (fs : FileSystem) (m : Made α) (segments : List String) : Made α :=
  let relative := "/".intercalate segments
  if (m.state.directoryIds.lookup relative).isSome then m
  else
    let node := directoryNode fs m.state.workspace segments
    let state := m.state.addNode node
    { m with
      state := { state with directoryIds := state.directoryIds ++ [(relative, node.id)] }
      directories := m.directories ++ [node.id] }

/-- The segments of each directory on the way to a file, the outermost first. -/
def directoryChain (file : Path) : List (List String) :=
  let segments := file.segments.dropLast
  (List.range segments.length).map fun k => segments.take (k + 1)

/-- Makes the node of a file, and those of the directories on the way to it, unless the file is
known. -/
def addFile (fs : FileSystem) (m : Made α) (group : Path × List Entity) : Except Fault (Made α) :=
  let (path, entities) := group
  if (m.state.fileIds.lookup path.text).isSome then .ok m
  else
    (fileNode fs m.state path entities).map fun node =>
      let state := m.state.addNode node
      (directoryChain (path.relativeTo state.workspace)).foldl (addDirectory fs)
        { m with
          state := { state with fileIds := state.fileIds ++ [(path.text, node.id)] }
          files := m.files ++ [node.id] }

/-- The files of some entities, each with its entities, in first-seen order. -/
def byFile (s : BuildState α) (entities : List Entity) : List (Path × List Entity) :=
  let located := entities.map fun e => (s.absolutePath e.filePath, e)
  (distinct (located.map (·.1))).map fun path =>
    (path, (located.filter (·.1 == path)).map (·.2))

/-- Makes the nodes of the files of some entities, and of their directories. -/
def addFiles (fs : FileSystem) (s : BuildState α) (entities : List Entity) :
    Made α × Option Fault :=
  runUntilFault (addFile fs) { state := s } (s.byFile entities)

/-- Makes the node of an entity unless there is one with its id. -/
def addEntity (m : Made α) (e : Entity) : Made α :=
  let node := entityNode m.state e
  if m.state.nodes.contains node.id then m
  else
    let state := m.state.addNode node
    { m with
      state := { state with placed := state.placed ++ [⟨e, node.id⟩] }
      entities := m.entities ++ [node.id] }

/-- Makes the nodes of some entities. -/
def addEntities (s : BuildState α) (entities : List Entity) : Made α :=
  entities.foldl addEntity { state := s }

end BuildState

end CodeAtlas
