import CodeAtlas.Community.Detection
import CodeAtlas.Graph.Basic

/-!
# The legacy view

An older, flat form of a graph.  It knows three kinds of nodes, moves most fields of a node into its
properties, and always shows the communities of connected nodes, whatever strategy the graph was built
with.
-/

namespace CodeAtlas.LegacyView

/-- The kinds of nodes that the form knows. -/
def kindText : NodeKind → String
  | .project => "directory"
  | .directory => "directory"
  | .file => "file"
  | .codeElement => "entity"

/-- The fields of a node's kind that become properties. -/
def kindProperties (n : Node) : Members :=
  match n.kind with
  | .project => []
  | .directory => [("level", n.level)]
  | .file =>
    [("extension", (Members.get? n.properties "extension").getD .null),
      ("size", n.fileSize)]
      ++ match n.exports with
        | some (name :: names) => [("exports", .strs (name :: names))]
        | _ => []
  | .codeElement =>
    [("element_type", .ofOption (fun k => .str k.text) n.elementKind),
      ("start_line", n.startLine),
      ("end_line", n.endLine)]

/-- The written form of a node. -/
def node (n : Node) : Json :=
  .obj [
    ("id", .str n.id),
    ("type", .str (kindText n.kind)),
    ("name", n.name),
    ("path", .str (n.relativePath.getD "")),
    ("properties", .obj <| Members.merge n.properties <|
      [("absolute_path", .ofOption .str n.absolutePath), ("semantic_tags", .arr n.tags)] ++ kindProperties n)]

/-- The written form of a community. -/
def community (c : Community Float) : Json :=
  .obj [
    ("id", .str c.id),
    ("nodes", .strs c.members),
    ("score", .float c.score),
    ("description", .str c.description),
    ("tags", .arr c.tags)]

/-- The communities of connected nodes: those of the graph, unless some were found otherwise. -/
def communities (g : Graph Float) : Except Fault (List (Community Float)) :=
  if g.communities.any fun c => c.strategy != .connectivity then
    Community.connected (Catalog.ofList g.nodes) g.edges
  else .ok g.communities

/-- The written form of the figures. -/
def metadata (m : Metadata) : Json :=
  .obj [
    ("version", .str Metadata.version),
    ("created_at", .str m.createdAt),
    ("total_files", .int m.totalFiles),
    ("total_entities", .int m.totalEntities),
    ("total_relationships", .int m.totalRelationships),
    ("workspace_path", .str m.workspacePath)]

/-- The legacy view of a graph. -/
def ofGraph (g : Graph Float) : Except Fault Json :=
  (communities g).map fun cs =>
    .obj [
      ("nodes", .arr (g.nodes.map node)),
      ("edges", .arr (g.edges.map Edge.toJson)),
      ("communities", .arr (cs.map community)),
      ("metadata", metadata g.metadata)]

end CodeAtlas.LegacyView
