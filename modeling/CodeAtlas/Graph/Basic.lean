import CodeAtlas.Community.Basic

/-!
# Graphs

The outcome of a build: nodes, edges, communities, and the figures of the build.
-/

namespace CodeAtlas

/-- The figures of a build. -/
structure Metadata where
  createdAt : String
  workspacePath : String
  totalFiles : Nat
  totalEntities : Nat
  totalRelationships : Nat
  supportedLanguages : List Json
  parsedFunctions : Nat
  parsedClasses : Nat
  parsedVariables : Nat
  parsedComponents : Nat
  skippedEntities : Nat

namespace Metadata

/-- The version of the written form of graphs. -/
def version : String := "1.0.0"

/-- The written form.  Every file of a build counts as parsed. -/
def toJson (m : Metadata) : Json :=
  .obj [
    ("version", .str version),
    ("created_at", .str m.createdAt),
    ("updated_at", .str m.createdAt),
    ("workspace_path", .str m.workspacePath),
    ("total_files", .int m.totalFiles),
    ("total_entities", .int m.totalEntities),
    ("total_relationships", .int m.totalRelationships),
    ("supported_languages", .arr m.supportedLanguages),
    ("parsing_statistics", .obj [
      ("successful_files", .int m.totalFiles),
      ("failed_files", .int 0),
      ("parsed_functions", .int m.parsedFunctions),
      ("parsed_classes", .int m.parsedClasses),
      ("parsed_variables", .int m.parsedVariables),
      ("parsed_components", .int m.parsedComponents),
      ("skipped_entities", .int m.skippedEntities)])]

end Metadata

/-- A knowledge graph of source code. -/
structure Graph (α : Type) where
  nodes : List Node
  edges : List (Edge α)
  communities : List (Community α)
  metadata : Metadata

namespace Graph

variable {α : Type}

/-- The first node with an id. -/
def node? (g : Graph α) (id : String) : Option Node := g.nodes.find? (·.id == id)

/-- The edges of a relation. -/
def edgesOf (g : Graph α) (relation : Relation) : List (Edge α) :=
  g.edges.filter (·.relation == relation)

/-- The written form. -/
def toJson (g : Graph Float) : Json :=
  .obj [
    ("metadata", g.metadata.toJson),
    ("nodes", .arr (g.nodes.map Node.toJson)),
    ("edges", .arr (g.edges.map Edge.toJson)),
    ("communities", .arr (g.communities.map Community.toJson))]

end Graph

end CodeAtlas
