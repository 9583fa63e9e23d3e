import CodeAtlas.Build.Intake
import CodeAtlas.Build.Nodes
import CodeAtlas.Build.Relations
import CodeAtlas.Community.Detection
import CodeAtlas.Graph.Basic

/-!
# Building a graph

A builder is set up for a workspace, with filters and a strategy for communities, and turns input into a
graph: it takes in the records, makes the nodes, relates them, and groups them.  It keeps nothing from
one build to the next.
-/

namespace CodeAtlas

/-- What a builder is set up with. -/
structure Builder (α : Type) where
  /-- An absolute path: the one given is resolved (`Path.absolute`) when a builder is set up. -/
  workspace : Path
  filters : Filters α
  strategy : Strategy
  extensions : List String := ImportTarget.standardExtensions

/-- The input of one build. -/
structure BuildInput where
  sources : List Source
  imports : Json := .null
  exports : Json := .null

/-- Reads a strategy, in any case. -/
def Strategy.read (word : String) : Except Fault Strategy :=
  let word := Text.lower word
  match Strategy.ofText? word with
  | some s => .ok s
  | none => .error (.unknownWord (.str word) "CommunityStrategy")

namespace Builder

variable {α : Type} [Scalar α]

/-- The state before anything is made. -/
def initialState (b : Builder α) (imports exports : FileMap) : BuildState α where
  workspace := b.workspace
  imports := imports
  exports := exports

/-- Makes all nodes. -/
def makeNodes (fs : FileSystem) (s : BuildState α) (entities : List Entity) :
    Except Fault (BuildState α) := do
  match (← s.addProject fs).addFiles fs entities with
  | (made, none) => return (made.state.addEntities entities).state
  | (_, some f) => throw f

/-- Makes all edges. -/
def makeEdges (fs : FileSystem) (b : Builder α) (s : BuildState α) : Except Fault (BuildState α) :=
  match s.relateAll ⟨fs, b.filters, b.extensions⟩ with
  | (s, .ok _) => .ok s
  | (_, .error f) => .error f

/-- The number of placed entities of a type. -/
def countOf (s : BuildState α) (elementType : String) : Nat :=
  s.placed.countP (·.entity.elementType == elementType)

/-- The figures of a build. -/
def metadata (s : BuildState α) (now : String) (skipped : Nat) : Except Fault Metadata :=
  (Tags.unique ((s.placed.map (·.entity.language)).filter Json.truthy)).map fun languages =>
    { createdAt := now
      workspacePath := s.workspace.text
      totalFiles := (s.nodesOf .file).length
      totalEntities := s.placed.length
      totalRelationships := s.edges.size
      supportedLanguages := languages
      parsedFunctions := countOf s "function"
      parsedClasses := countOf s "class"
      parsedVariables := countOf s "variable"
      parsedComponents := countOf s "component"
      skippedEntities := skipped }

/-- The state of a build after all its steps, and the number of skipped sources. -/
def run (b : Builder α) (fs : FileSystem) (input : BuildInput) :
    Except Fault (BuildState α × Nat) := do
  let taken ← intake b.workspace input.sources
  let imports ← fileMap b.workspace input.imports
  let exports ← fileMap b.workspace input.exports
  let s ← makeNodes fs (b.initialState imports exports) taken.entities
  let s ← b.makeEdges fs s
  return (s, taken.skipped)

/-- Builds a graph, at the time `now`. -/
def build (b : Builder α) (fs : FileSystem) (now : String) (input : BuildInput) :
    Except Fault (Graph α) := do
  let (s, skipped) ← b.run fs input
  let communities ← Community.detect b.strategy s.nodes s.edges.toList
  let metadata ← metadata s now skipped
  return { nodes := s.nodes.toList, edges := s.edges.toList, communities, metadata }

end Builder

end CodeAtlas
