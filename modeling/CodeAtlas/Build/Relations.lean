import CodeAtlas.Build.State
import CodeAtlas.CallSites
import CodeAtlas.Filters
import CodeAtlas.ImportTarget
import CodeAtlas.Json.Display
import CodeAtlas.Build.Nodes
import CodeAtlas.Similarity

/-!
# The edges of a build

Each relation has a step of its own.  A step proposes edges, in a fixed order that depends on the nodes
and entities alone, and each proposal is taken up if its weight passes the filter, both its ends are
nodes, and its id is not taken.  Structural edges always pass the filter.  A step answers with the
number of edges that it added.

## Main definitions

* `BuildState.offer`: takes up a proposed edge, or not.
* `BuildState.relateContains`, `relateDefinedIn`, `relateImports`, `relateCalls`, `relateSimilar`: the
  steps.
* `BuildState.relateAll`: the steps that the filters enable.
-/

namespace CodeAtlas

open Scalar

/-- The state after a step, and how many edges it added or why it stopped. -/
abbrev StepResult (α : Type) := BuildState α × Except Fault Nat

/-- What a build of relations looks at besides its state. -/
structure Surroundings (α : Type) where
  fs : FileSystem
  filters : Filters α
  extensions : List String := ImportTarget.standardExtensions

namespace BuildState

variable {α : Type} [Scalar α]

/-- Whether a proposed edge is taken up. -/
def accepts (filters : Filters α) (s : BuildState α) (e : Edge α) : Bool :=
  (e.relation.isStructural || !lt e.weight filters.minRelationWeight)
    && s.nodes.contains e.source && s.nodes.contains e.target && !s.edges.contains e.id

/-- Takes up a proposed edge if it is acceptable, and counts it. -/
def offer (filters : Filters α) (progress : BuildState α × Nat) (e : Edge α) : BuildState α × Nat :=
  if progress.1.accepts filters e then (progress.1.addEdge e, progress.2 + 1) else progress

/-- Offers proposals in order, up to the first fault. -/
def offerAll (filters : Filters α) (s : BuildState α) (proposals : List (Except Fault (Edge α))) :
    StepResult α :=
  match runUntilFault (fun progress p => p.map (offer filters progress)) (s, 0) proposals with
  | ((s, count), none) => (s, .ok count)
  | ((s, _), some f) => (s, .error f)

/-! ## Containment -/

/-- A structural edge. -/
def structuralEdge (source target : String) (relation : Relation) (description : String)
    (line : Json := .null) : Edge α where
  source := source
  target := target
  relation := relation
  weight := ofNat 1
  properties := .containment description line

/-- The directory above a node's path in the workspace, or the fault that it has none. -/
def directoryAbove (n : Node) : Except Fault String :=
  match n.relativePath with
  | some path => .ok (Path.directoryOf path)
  | none => .error (.noRelativePath n.id)

/-- What contains a directory: the project on the first level, the directory above on others. -/
def directoryProposal (s : BuildState α) (n : Node) : Except Fault (Option (Edge α)) :=
  if n.level.sameKey (.int 1) then
    .ok ((s.nodes.find? projectId).map fun project =>
      structuralEdge project.id n.id .contains ("Project contains directory " ++ n.name.display))
  else
    (directoryAbove n).map fun path =>
      (s.directoryNode? path).map fun parent =>
        structuralEdge parent.id n.id .contains
          ("Directory " ++ parent.name.display ++ " contains subdirectory " ++ n.name.display)

/-- What contains a file: its directory, or the project. -/
def fileProposal (s : BuildState α) (n : Node) : Except Fault (Option (Edge α)) :=
  (directoryAbove n).map fun path =>
    if path = "" then
      (s.nodes.find? projectId).map fun project =>
        structuralEdge project.id n.id .contains ("Project root contains file " ++ n.name.display)
    else
      (s.directoryNode? path).map fun parent =>
        structuralEdge parent.id n.id .contains
          ("Directory " ++ parent.name.display ++ " contains file " ++ n.name.display)

/-- An edge between a code element and its file, with the word for the element's kind. -/
def elementProposal (s : BuildState α) (edge : Node → String → Edge α) (n : Node) :
    Except Fault (Option (Edge α)) :=
  match n.absolutePath.bind s.fileNode? with
  | none => .ok none
  | some file =>
    match n.elementKind with
    | some kind => .ok (some (edge file kind.text))
    | none => .error (.noElementKind n.id)

/-- A file contains an element. -/
def elementContained (s : BuildState α) (n : Node) : Except Fault (Option (Edge α)) :=
  s.elementProposal
    (fun file kind =>
      structuralEdge file.id n.id .contains
        ("File " ++ file.name.display ++ " contains " ++ kind ++ " " ++ n.name.display) n.startLine)
    n

/-- An element is defined in a file. -/
def elementDefined (s : BuildState α) (n : Node) : Except Fault (Option (Edge α)) :=
  s.elementProposal
    (fun file kind =>
      structuralEdge n.id file.id .definedIn
        (kind ++ " " ++ n.name.display ++ " is defined in file " ++ file.name.display) n.startLine)
    n

/-- Proposals that are none are left out. -/
def proposals (drafts : List (Except Fault (Option (Edge α)))) : List (Except Fault (Edge α)) :=
  drafts.filterMap fun
    | .ok (some e) => some (.ok e)
    | .ok none => none
    | .error f => some (.error f)

/-- The project contains directories, directories contain files, files contain elements. -/
def relateContains (around : Surroundings α) (s : BuildState α) : StepResult α :=
  s.offerAll around.filters <| proposals <|
    (s.nodesOf .directory).map s.directoryProposal
      ++ (s.nodesOf .file).map s.fileProposal
      ++ (s.nodesOf .codeElement).map s.elementContained

/-- Elements are defined in files. -/
def relateDefinedIn (around : Surroundings α) (s : BuildState α) : StepResult α :=
  s.offerAll around.filters <| proposals <| (s.nodesOf .codeElement).map s.elementDefined

/-! ## Imports -/

/-- The edge of one import, if its specifier names a file that has a node. -/
def importProposal (around : Surroundings α) (s : BuildState α) (importer : String) (source : Node)
    (specifier : String) : Option (Edge α) :=
  (ImportTarget.resolve? around.fs around.extensions importer specifier).bind fun resolved =>
    (s.fileNode? (Path.parse resolved).normalize.text).map fun target =>
      { source := source.id
        target := target.id
        relation := .imports
        weight := ofNat 1
        properties := .importing (source.name.display ++ " imports " ++ target.name.display) specifier
          (if ImportTarget.isRelative specifier then .importing else .requiring) }

/-- The proposals of the imports of all files that have nodes. -/
def importProposals (around : Surroundings α) (s : BuildState α) : List (Edge α) :=
  s.imports.flatMap fun (importer, specifiers) =>
    match s.fileNode? importer with
    | none => []
    | some source => specifiers.filterMap (s.importProposal around importer source)

/-- Files import files. -/
def relateImports (around : Surroundings α) (s : BuildState α) : StepResult α :=
  s.offerAll around.filters ((s.importProposals around).map .ok)

/-! ## Calls -/

/-- The placed functions. -/
def functions (s : BuildState α) : List Placed := s.placed.filter (·.entity.elementType == "function")

/-- The edge of one call. -/
def callEdge (caller callee : Placed) (name : String) : Edge α where
  source := caller.nodeId
  target := callee.nodeId
  relation := .calls
  weight := ofNat 1
  properties := .call (caller.entity.name ++ " calls " ++ callee.entity.name) name

/-- The functions with a name, without those of the same file and name as the caller. -/
def callees (s : BuildState α) (caller : Placed) (name : String) : List Placed :=
  s.functions.filter fun callee =>
    callee.entity.name == name
      && !(callee.entity.filePath == caller.entity.filePath
        && callee.entity.name == caller.entity.name)

/-- The calls of all functions, matched by name across the whole input. -/
def callProposals (s : BuildState α) : List (Edge α) :=
  s.functions.flatMap fun caller =>
    (CallSites.calledNames (caller.entity.snippet.getD "")).flatMap fun name =>
      (s.callees caller name).map fun callee => callEdge caller callee name

/-- Functions call functions. -/
def relateCalls (around : Surroundings α) (s : BuildState α) : StepResult α :=
  s.offerAll around.filters (s.callProposals.map .ok)

/-! ## Similarity -/

/-- Tags of user-interface frameworks. -/
def frameworkTags : List String := ["vue", "vue2", "vue3", "react"]

/-- All pairs of a list, the earlier member first. -/
def pairs {β : Type} : List β → List (β × β)
  | [] => []
  | b :: rest => rest.map (fun c => (b, c)) ++ pairs rest

/-- The entities of each file, in first-seen order. -/
def placedByFile (s : BuildState α) : List (String × List Placed) :=
  (distinct (s.placed.map (·.entity.filePath))).map fun path =>
    (path, s.placed.filter (·.entity.filePath == path))

/-- The segments of the directory of a file, as seen from the workspace. -/
def directorySegments (cwd workspace : Path) (filePath : String) : List String :=
  ((cwd.absolute filePath).relativeTo workspace).segments.dropLast

/-- What has been asked about the segments of files, and answered. -/
abbrev SegmentTable := List (String × List String)

/-- The segments of the directory of a file, out of the table if the same has been asked before. -/
def askSegments (cwd workspace : Path) (known : SegmentTable) (filePath : String) : List String × SegmentTable :=
  match known.lookup filePath with
  | some segments => (segments, known)
  | none =>
    let segments := directorySegments cwd workspace filePath
    (segments, known ++ [(filePath, segments)])

/-- What a score looks at in an entity. -/
def traits (cwd workspace : Path) (e : Entity) : Similarity.Traits where
  tags := e.tags
  directory := directorySegments cwd workspace e.filePath
  name := e.name

/-- The score of two entities. -/
def score (around : Surroundings α) (s : BuildState α) (a b : Placed) : α :=
  (traits around.fs.cwd s.workspace a.entity).similarity
    (traits around.fs.cwd s.workspace b.entity)

/-- What a score looks at in an entity, with segments out of the table. -/
def askTraits (cwd workspace : Path) (known : SegmentTable) (e : Entity) : Similarity.Traits × SegmentTable :=
  let (directory, known) := askSegments cwd workspace known e.filePath
  ({ tags := e.tags, directory, name := e.name }, known)

/-- The score of two entities, worked out with the table. -/
def askScore (cwd workspace : Path) (known : SegmentTable) (a b : Entity) : α × SegmentTable :=
  let (first, known) := askTraits cwd workspace known a
  let (second, known) := askTraits cwd workspace known b
  (first.similarity second, known)

/-- The edge between two similar entities. -/
def similarEdge (a b : Placed) (score : α) (crossFile : Bool) : Edge α where
  source := a.nodeId
  target := b.nodeId
  relation := .relatedTo
  weight := clamp score
  properties := .similarity
    (a.entity.name ++ " is semantically related to " ++ b.entity.name) score
    (Similarity.commonTags a.entity.tags b.entity.tags) crossFile

/-- Whether two entities of one file are compared: they share two tags, and are of one type or share
a framework. -/
def comparable (a b : Entity) : Bool :=
  2 ≤ (Similarity.commonTags a.tags b.tags).length
    && (a.elementType == b.elementType
      || frameworkTags.any fun t => a.tags.contains t && b.tags.contains t)

/-- The proposal for two entities of one file. -/
def sameFileProposal (around : Surroundings α) (s : BuildState α) (pair : Placed × Placed) :
    Option (Edge α) :=
  let (a, b) := pair
  let value := s.score around a b
  if comparable a.entity b.entity && !le value around.filters.sameFileThreshold
      && a.nodeId != b.nodeId then
    some (similarEdge a b value false)
  else none

/-- The proposal for two entities of two files. -/
def crossFileProposal (around : Surroundings α) (s : BuildState α) (pair : Placed × Placed) :
    Option (Edge α) :=
  let (a, b) := pair
  let value := s.score around a b
  if lt around.filters.crossFileThreshold value && a.nodeId != b.nodeId then
    some (similarEdge a b value true)
  else none

/-- The file nodes at either end of an import. -/
def importLinked (s : BuildState α) : List String :=
  (s.edgesOf .imports).flatMap fun e => [e.source, e.target]

/-- Whether the file of a path takes part in an import. -/
def isLinked (s : BuildState α) (filePath : String) : Bool :=
  match s.fileId? filePath with
  | some id => s.importLinked.contains id
  | none => false

/-- The pairs of entities of two files that both take part in imports. -/
def crossFilePairs (s : BuildState α) : List (Placed × Placed) :=
  (pairs (s.placedByFile.filter fun g => s.isLinked g.1)).flatMap fun (g, h) =>
    g.2.flatMap fun a => h.2.map fun b => (a, b)

/-- Offers what is proposed for a pair, unless the limit is reached. -/
def offerUpTo (filters : Filters α) (limit : Int) (propose : Placed × Placed → Option (Edge α))
    (progress : BuildState α × Nat) (pair : Placed × Placed) : BuildState α × Nat :=
  if limit ≤ (progress.2 : Int) then progress
  else
    match propose pair with
    | some e => offer filters progress e
    | none => progress

/-- Similar entities of one file. -/
def relateSameFile (around : Surroundings α) (s : BuildState α) : BuildState α × Nat :=
  ((s.placedByFile.flatMap fun g => pairs g.2).filterMap (s.sameFileProposal around)).foldl
    (offer around.filters) (s, 0)

/-- Similar entities of different files, up to the limit. -/
def relateCrossFile (around : Surroundings α) (s : BuildState α) : BuildState α × Nat :=
  s.crossFilePairs.foldl
    (offerUpTo around.filters around.filters.maxCrossFileRelations (s.crossFileProposal around))
    (s, 0)

/-- Similar entities are related. -/
def relateSimilar (around : Surroundings α) (s : BuildState α) : StepResult α :=
  let (s, same) := s.relateSameFile around
  let (s, cross) := s.relateCrossFile around
  (s, .ok (same + cross))

/-! ## All relations -/

/-- The steps that the filters enable, in order. -/
def enabledSteps (around : Surroundings α) : List (BuildState α → StepResult α) :=
  [(around.filters.enableContains, relateContains around),
    (around.filters.enableDefinedIn, relateDefinedIn around),
    (around.filters.enableImportsExports, relateImports around),
    (around.filters.enableCalls, relateCalls around),
    (around.filters.enableSemanticRelated, relateSimilar around)].filterMap fun (enabled, step) =>
      if enabled then some step else none

/-- Runs steps in order, up to the first fault. -/
def runSteps (s : BuildState α) : List (BuildState α → StepResult α) → BuildState α × Option Fault
  | [] => (s, none)
  | step :: rest =>
    match step s with
    | (s, .ok _) => runSteps s rest
    | (s, .error f) => (s, some f)

/-- Runs the enabled steps.  The answer is the number of all edges. -/
def relateAll (around : Surroundings α) (s : BuildState α) : StepResult α :=
  match s.runSteps (enabledSteps around) with
  | (s, none) => (s, .ok s.edges.size)
  | (s, some f) => (s, .error f)

end BuildState

end CodeAtlas
