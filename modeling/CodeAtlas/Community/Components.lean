/-!
# Connected components

The components of the undirected view of a list of edges.  A component is searched depth first with
an explicit stack: a node taken from the stack for the first time is listed, the other ends of its
edges go on the stack, the last edge on top, and these edges are dropped, since every one of them now
leads back to a listed node.  Each edge is put on the stack at most once, so the number of edges and
stack entries bounds the search.

Ends of edges need not be known nodes; a component lists them too, but every component starts at a
known node.
-/

namespace CodeAtlas.Components

/-- An edge, as the pair of its ends. -/
abbrev Ends := String × String

/-- Whether an edge has the node as an end. -/
def touches (v : String) (e : Ends) : Bool := e.1 == v || e.2 == v

/-- The end of an edge that is not `v`; a loop has none. -/
def otherEnd? (v : String) (e : Ends) : Option String :=
  if e.1 = v then if e.2 = v then none else some e.2 else some e.1

/-- The other ends of the edges of `v`, the one of the last edge first. -/
def neighbours (v : String) (edges : List Ends) : List String :=
  ((edges.filter (touches v)).filterMap (otherEnd? v)).reverse

/-- The edges that do not touch `v`. -/
def avoiding (v : String) (edges : List Ends) : List Ends := edges.filter fun e => !touches v e

theorem length_neighbours_add_length_avoiding_le (v : String) (edges : List Ends) :
    (neighbours v edges).length + (avoiding v edges).length ≤ edges.length := by
  have hpush : ((edges.filter (touches v)).filterMap (otherEnd? v)).length
      ≤ (edges.filter (touches v)).length := List.length_filterMap_le _ _
  have hsplit : (edges.filter (touches v)).length
      + (edges.filter fun e => !touches v e).length = edges.length := by
    rw [← List.countP_eq_length_filter, ← List.countP_eq_length_filter,
      List.length_eq_countP_add_countP (touches v)]
    simp
  simp only [neighbours, avoiding, List.length_reverse]
  omega

/-- Searches from the nodes on the stack.  `found` holds the nodes listed so far, the last one first.
The answer is the finished list and the edges that no listed node touches. -/
def explore (edges : List Ends) (stack found : List String) : List String × List Ends :=
  match stack with
  | [] => (found.reverse, edges)
  | v :: stack =>
    if found.contains v then explore edges stack found
    else explore (avoiding v edges) (neighbours v edges ++ stack) (v :: found)
termination_by edges.length + stack.length
decreasing_by
  · simp
  · have := length_neighbours_add_length_avoiding_le v edges
    simp only [List.length_append, List.length_cons]
    omega

/-- The components of the nodes that are not among those already done. -/
def search (done : List String) (edges : List Ends) : List String → List (List String)
  | [] => []
  | v :: nodes =>
    if done.contains v then search done edges nodes
    else
      let (component, rest) := explore edges [v] []
      component :: search (component ++ done) rest nodes

/-- The connected components of a graph, in the order of the first node of each. -/
def components (nodes : List String) (edges : List Ends) : List (List String) :=
  search [] edges nodes

end CodeAtlas.Components
