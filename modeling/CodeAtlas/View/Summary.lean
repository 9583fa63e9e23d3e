import CodeAtlas.Graph.Basic

/-!
# The summary view

A small preview of a graph: its figures, how many nodes, edges and communities it has, and the first
communities.
-/

namespace CodeAtlas

/-- The front part of a list: its first `n` members, or all but the last `-n` when `n` is negative. -/
def front {β : Type} (n : Int) (items : List β) : List β :=
  if 0 ≤ n then items.take n.toNat else items.take (items.length - (-n).toNat)

namespace SummaryView

/-- The number of communities that a summary shows. -/
def shownCommunities : Int := 5

/-- The members of a summary. -/
def ofParts (metadata : Json) (nodes edges communities : Nat) (top : Json) : Json :=
  .obj [
    ("metadata", metadata),
    ("node_count", .int nodes),
    ("edge_count", .int edges),
    ("community_count", .int communities),
    ("top_communities", top)]

/-- The summary of a graph with its first `top` communities. -/
def ofGraph (g : Graph Float) (top : Int := shownCommunities) : Json :=
  ofParts g.metadata.toJson g.nodes.length g.edges.length g.communities.length
    (.arr ((front top g.communities).map Community.toJson))

end SummaryView

end CodeAtlas
