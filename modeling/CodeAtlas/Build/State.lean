import CodeAtlas.Catalog
import CodeAtlas.Entity.Basic
import CodeAtlas.Fault
import CodeAtlas.Graph.Edge
import CodeAtlas.Graph.Node

/-!
# The state of a build

A build collects nodes and edges in catalogs and keeps track of which node stands for which path.  It
goes in steps; a step that meets a fault half-way keeps what it has done so far, which `runUntilFault`
expresses once for all steps.

## Main definitions

* `BuildState`: what a build has collected.
* `BuildState.addNode`, `BuildState.addEdge`: additions, refused when the id is taken.
* `runUntilFault`: a fold that stops at the first fault.
-/

namespace CodeAtlas

/-- An entity that has a node of its own. -/
structure Placed where
  entity : Entity
  nodeId : String

/-- For each file, by its absolute path, the specifiers that it imports or the names that it exports. -/
abbrev FileMap := List (String × List String)

/-- What a build has collected. -/
structure BuildState (α : Type) where
  workspace : Path
  nodes : Catalog Node Node.id := .empty
  edges : Catalog (Edge α) Edge.id := .empty
  /-- the entities that have nodes, in order -/
  placed : List Placed := []
  /-- the node of each file, by absolute path -/
  fileIds : List (String × String) := []
  /-- the node of each directory, by path in the workspace -/
  directoryIds : List (String × String) := []
  imports : FileMap := []
  exports : FileMap := []

namespace BuildState

variable {α : Type}

/-- Adds a node unless its id is taken. -/
def addNode (s : BuildState α) (n : Node) : BuildState α := { s with nodes := s.nodes.insertNew n }

/-- Adds an edge unless its id is taken. -/
def addEdge (s : BuildState α) (e : Edge α) : BuildState α := { s with edges := s.edges.insertNew e }

/-- The nodes of a kind, in order. -/
def nodesOf (s : BuildState α) (kind : NodeKind) : List Node :=
  s.nodes.toList.filter (·.kind == kind)

/-- The edges of a relation, in order. -/
def edgesOf (s : BuildState α) (relation : Relation) : List (Edge α) :=
  s.edges.toList.filter (·.relation == relation)

/-- The node registered for a path in one of the two tables. -/
def registered? (s : BuildState α) (ids : List (String × String)) (path : String) : Option Node :=
  (ids.lookup path).bind fun id => if id = "" then none else s.nodes.find? id

/-- The node of the file with an absolute path. -/
def fileNode? (s : BuildState α) (path : String) : Option Node := s.registered? s.fileIds path

/-- The node of the directory with a path in the workspace. -/
def directoryNode? (s : BuildState α) (path : String) : Option Node :=
  s.registered? s.directoryIds path

/-- The normalised absolute path that an entity's file path names. -/
def absolutePath (s : BuildState α) (filePath : String) : Path := s.workspace.absolute filePath

/-- The path as seen from the workspace. -/
def relativePath (s : BuildState α) (filePath : String) : Path :=
  (s.absolutePath filePath).relativeTo s.workspace

/-- The id of the node of a file. -/
def fileId? (s : BuildState α) (filePath : String) : Option String :=
  s.fileIds.lookup (s.absolutePath filePath).text

end BuildState

/-- Folds a step over a list up to the first fault, and keeps what was done before it. -/
def runUntilFault {σ β : Type} (step : σ → β → Except Fault σ) : σ → List β → σ × Option Fault
  | s, [] => (s, none)
  | s, b :: rest =>
    match step s b with
    | .ok s' => runUntilFault step s' rest
    | .error f => (s, some f)

end CodeAtlas
