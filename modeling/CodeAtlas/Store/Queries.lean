import CodeAtlas.Store.Basic
import CodeAtlas.Graph.Tags

/-!
# Queries

What can be asked of the data in a store: a node, its neighbourhood, the targets of its edges of one
relation, the code elements with a text, and the figures.  The data has no schema, so a query may meet a
node or an edge without the part that it needs.

## Main definitions

* `Store.node?`, `Store.details`: a node, and what surrounds it.
* `Store.outgoing`: a node with the targets of its edges of a relation.
* `Store.search`: the code elements whose snippet contains a text.
* `Store.statistics`: how many nodes and edges there are of each kind.
-/

namespace CodeAtlas.Store

/-- The nodes of the data. -/
def allNodes (s : Store) : Except Fault (List Json) := (listOf s.data "nodes").items

/-- The edges of the data. -/
def allEdges (s : Store) : Except Fault (List Json) := (listOf s.data "edges").items

/-- The node with an id, which has to be a key. -/
def node? (s : Store) (id : Json) : Except Fault (Option Json) := id.asKey.map s.index.find?

/-- Whether an edge has a node at either end. -/
def touches (id edge : Json) : Except Fault Bool := do
  if (← edge.member "source").sameKey id then return true
  return (← edge.member "target").sameKey id

/-- The elements of a list that pass a test that may fail. -/
def filterWhere {β : Type} (test : β → Except Fault Bool) (items : List β) : Except Fault (List β) :=
  items.filterMapM fun b => return if ← test b then some b else none

/-- Both ends of an edge. -/
def endsOf (edge : Json) : Except Fault (List Json) := do
  return [← edge.member "source", ← edge.member "target"]

/-- A node with its edges and the nodes at their other ends. -/
structure Neighbourhood where
  node : Json
  edges : List Json
  nodes : List Json

/-- The neighbourhood of a node. -/
def details (s : Store) (id : Json) : Except Fault (Option Neighbourhood) := do
  match ← s.node? id with
  | none => return none
  | some node =>
    let edges ← filterWhere (touches id) (← s.allEdges)
    let ends := (← edges.mapM endsOf).flatten
    let others := ends.filter fun other => !other.sameKey id
    return some { node, edges, nodes := ← (distinctBy Json.sameKey others).filterMapM s.node? }

/-- The written form. -/
def Neighbourhood.toJson (n : Neighbourhood) : Json :=
  .obj [("node", n.node), ("related_edges", .arr n.edges), ("related_nodes", .arr n.nodes)]

/-- Whether an edge leads from a node by a relation. -/
def leadsFrom (id : Json) (relation : Relation) (edge : Json) : Except Fault Bool := do
  if (← edge.member "source").sameKey id then
    return (← edge.member "relation").sameKey (.str relation.text)
  return false

/-- A node, followed by the targets of its edges of a relation, and these edges. -/
def outgoing (s : Store) (id : Json) (relation : Relation) :
    Except Fault (Option (List Json × List Json)) := do
  match ← s.node? id with
  | none => return none
  | some node =>
    let edges ← filterWhere (leadsFrom id relation) (← s.allEdges)
    let targets ← edges.filterMapM fun edge => do s.node? (← edge.member "target")
    return some (node :: targets, edges)

/-- The written form of an answer with nodes, edges and a note. -/
def answer (nodes edges : List Json) (note : Members) : Json :=
  .obj [("nodes", .arr nodes), ("edges", .arr edges), ("metadata", .obj note)]

/-- What a function calls. -/
def dependencies (s : Store) (id : Json) : Except Fault Json :=
  (s.outgoing id .calls).map fun
    | none => answer [] [] [("error", .str "Function not found")]
    | some (nodes, edges) => answer nodes edges [("query_type", .str "function_dependencies")]

/-- What a file contains. -/
def fileStructure (s : Store) (id : Json) : Except Fault Json :=
  (s.outgoing id .contains).map fun
    | none => answer [] [] [("error", .str "File not found")]
    | some (nodes, edges) =>
      answer nodes edges [("query_type", .str "file_structure"), ("file_id", id)]

/-- Whether a node is a code element whose snippet contains the lower-case characters `needle`. -/
def hasSnippet (needle : List Char) (node : Json) : Except Fault Bool :=
  match node with
  | .obj _ =>
    if !(node.getD "type").sameKey (.str NodeKind.codeElement.text) then .ok false
    else
      match (node.getD "code_snippet").orElse (.str "") with
      | .str s => .ok (Tags.occursIn needle (Text.lower s).toList)
      | j => .error (.notAText j.kindName)
  | _ => .error (.notAnObject node.kindName)

/-- Collects matching nodes up to the limit, which is looked at when a node has been taken. -/
def collect (needle : List Char) (limit : Int) (found : List Json) : List Json → Except Fault (List Json)
  | [] => .ok found
  | node :: rest => do
    if ← hasSnippet needle node then
      if limit ≤ (found.length + 1 : Nat) then return found ++ [node]
      collect needle limit (found ++ [node]) rest
    else collect needle limit found rest

/-- The first code elements whose snippet contains a text, in any case. -/
def search (s : Store) (text : String) (limit : Int) : Except Fault (List Json) := do
  collect (Text.lower text).toList limit [] (← s.allNodes)

/-- How often each value of a member occurs. -/
def countBy (key : String) (items : List Json) : Except Fault (List (Json × Nat)) := do
  let values ← items.mapM fun j => do (← j.member key).asKey
  return tally Json.sameKey values

/-- How many nodes there are of each kind, edges of each relation, and communities. -/
structure Statistics where
  nodes : List (Json × Nat)
  relationships : List (Json × Nat)
  communities : Nat

/-- The figures of the data. -/
def statistics (s : Store) : Except Fault Statistics := do
  return {
    nodes := ← countBy "type" (← s.allNodes)
    relationships := ← countBy "relation" (← s.allEdges)
    communities := ← (listOf s.data "communities").size }

end CodeAtlas.Store
