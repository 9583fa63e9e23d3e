import CodeAtlas.Catalog
import CodeAtlas.Community.Basic
import CodeAtlas.Community.Components
import CodeAtlas.Graph.Tags
import CodeAtlas.Path.Basic

/-!
# Finding communities

Two strategies group the nodes of a graph.

* *Connectivity* takes the connected components of the undirected view of all edges that have at least
  two members, the best score first.
* *Directory* takes the code elements of each directory with at least three of them.

Communities are numbered in the order in which they are found, before any sorting.
-/

namespace CodeAtlas.Community

variable {α : Type} [Scalar α]

/-- The nodes of a graph, each under its id. -/
abbrev Nodes := Catalog Node Node.id

/-- The id of the community found after `found` others. -/
def numbered (found : Nat) : String := "community_" ++ toString (found + 1)

/-- What a component mainly consists of: label and description. -/
def describe (members : List Node) : Except Fault (String × String) :=
  let elements := members.filter (·.kind == .codeElement)
  if elements.isEmpty then .ok ("file structure", "Community of files and directories")
  else
    match elements.find? (·.elementKind.isNone) with
    | some n => .error (.noElementKind n.id)
    | none =>
      match mostCommon (· == ·) 1 (elements.filterMap fun n => n.elementKind.map (·.text)) with
      | (kind, count) :: _ =>
        .ok (kind ++ " community",
          "Community mainly made of " ++ toString count ++ " " ++ kind ++ " elements")
      | [] => .ok ("file structure", "Community of files and directories")

/-- The community of a component. -/
def ofComponent (nodes : Nodes) (edges : List (Edge α)) (found : Nat) (component : List String) :
    Except Fault (Community α) := do
  let members := component.filterMap nodes.find?
  let counts := edgeCounts component edges
  let (label, description) ← describe members
  let tags ← topTags members shownTags
  let language ← mainLanguage members
  return {
    id := numbered found
    label, description
    members := component
    score := counts.score
    cohesion := counts.cohesion
    coupling := counts.coupling
    tags
    primaryLanguage := language
    functionality := []
    strategy := .connectivity }

/-- The connected components of a graph. -/
def connectedComponents (nodes : Nodes) (edges : List (Edge α)) : List (List String) :=
  Components.components (nodes.toList.map (·.id)) (edges.map (·.ends))

/-- The communities of some groups, numbered in order. -/
def ofGroups {β : Type} (community : Nat → β → Except Fault (Community α)) (groups : List β) :
    Except Fault (List (Community α)) :=
  groups.zipIdx.mapM fun (group, found) => community found group

/-- The best score first; equal ones keep their order. -/
def byScore (communities : List (Community α)) : List (Community α) :=
  communities.mergeSort fun a b => !Scalar.lt a.score b.score

/-- The communities of connected nodes. -/
def connected (nodes : Nodes) (edges : List (Edge α)) : Except Fault (List (Community α)) :=
  let groups := (connectedComponents nodes edges).filter fun c => 2 ≤ c.length
  (ofGroups (ofComponent nodes edges) groups).map byScore

/-- The code elements that have a place in the workspace, with their directories. -/
def placedElements (nodes : Nodes) : List (String × Node) :=
  nodes.toList.filterMap fun n =>
    match n.kind, n.relativePath with
    | .codeElement, some path => if path = "" then none else some (Path.directoryOf path, n)
    | _, _ => none

/-- The directories that hold code elements, with their elements, in first-seen order. -/
def byDirectory (nodes : Nodes) : List (String × List Node) :=
  let placed := placedElements nodes
  (distinct (placed.map (·.1))).map fun directory =>
    (directory, (placed.filter (·.1 == directory)).map (·.2))

/-- The community of a directory. -/
def ofDirectory (edges : List (Edge α)) (found : Nat) (group : String × List Node) :
    Except Fault (Community α) := do
  let (directory, members) := group
  let ids := members.map (·.id)
  let counts := edgeCounts ids edges
  let tags ← topTags members shownTags
  let language ← mainLanguage members
  let name := Path.baseOf directory
  return {
    id := numbered found
    label := (if name = "" then "root" else name) ++ " module"
    description := "Functional module located in " ++ if directory = "" then "." else directory
    members := ids
    score := counts.score
    cohesion := counts.cohesion
    coupling := counts.coupling
    tags
    primaryLanguage := language
    functionality := Tags.functionality directory tags
    strategy := .directory }

/-- The communities of directories. -/
def directories (nodes : Nodes) (edges : List (Edge α)) : Except Fault (List (Community α)) :=
  ofGroups (ofDirectory edges) ((byDirectory nodes).filter fun g => 2 < g.2.length)

/-- The communities that a strategy finds. -/
def detect (strategy : Strategy) (nodes : Nodes) (edges : List (Edge α)) :
    Except Fault (List (Community α)) :=
  match strategy with
  | .connectivity => connected nodes edges
  | .directory => directories nodes edges

end CodeAtlas.Community
