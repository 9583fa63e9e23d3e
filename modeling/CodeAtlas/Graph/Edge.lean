import CodeAtlas.Json.Access
import CodeAtlas.Numeral.Scalar
import CodeAtlas.Vocabulary

/-!
# Edges

An edge joins two nodes by a relation, with a weight and the properties of its relation.  Its id is
made of its ends and its relation.

The edges of a build have properties of known types.  An edge may also be given in its written form; then
the values of its properties are kept as they are.
-/

namespace CodeAtlas

/-- What an edge says about its relation. -/
inductive EdgeProperties (α : Type) where
  | containment (description : String) (line : Json)
  | importing (description path : String) (kind : DependencyKind)
  | call (description name : String)
  | similarity (description : String) (score : α) (commonTags : List String) (crossFile : Bool)
  /-- any of these, given in written form -/
  | written (members : Members)

namespace EdgeProperties

/-- The line number among the properties, which is left out when it is null. -/
def lineMember : Json → Members
  | .null => []
  | line => [("line_number", line)]

/-- The written form. -/
def toJson : EdgeProperties Float → Json
  | containment description line => .obj (("description", .str description) :: lineMember line)
  | importing description path kind =>
    .obj [("description", .str description), ("import_path", .str path),
      ("dependency_type", .str kind.text)]
  | call description name => .obj [("description", .str description), ("call_name", .str name)]
  | similarity description score commonTags crossFile =>
    .obj [("description", .str description), ("similarity_score", .float score),
      ("common_tags", .strs commonTags), ("cross_file", .bool crossFile)]
  | written members => .obj members

/-- Reads properties from an object that says of which kind they are.  The word for a dependency has to
be one of the vocabulary; any other value is taken as it is. -/
def ofJson {α : Type} (given : Json) : Except Fault (EdgeProperties α) := do
  let description := ("description", (given.get? "description").getD (.str ""))
  let more : Members ← match (given.getD "kind").text? with
    | some "import" => do
      let path ← given.member "import_path"
      let kind ← (← given.member "dependency_type").asWord DependencyKind.ofText? "DependencyType"
      pure [("import_path", path), ("dependency_type", .str kind.text)]
    | some "call" => do pure [("call_name", ← given.member "call_name")]
    | some "similarity" => do
      let score ← given.member "similarity_score"
      let tags ← ((given.get? "common_tags").getD (.arr [])).items
      pure [("similarity_score", score), ("common_tags", .arr tags),
        ("cross_file", (given.get? "cross_file").getD (.bool false))]
    | _ => pure (lineMember (given.getD "line_number"))
  return written (description :: more)

end EdgeProperties

/-- An edge of a graph. -/
structure Edge (α : Type) where
  source : String
  target : String
  relation : Relation
  weight : α
  properties : EdgeProperties α

namespace Edge

/-- The id of an edge between two nodes. -/
def idOf (source target : String) (relation : Relation) : String :=
  source ++ "->" ++ target ++ ":" ++ relation.text

variable {α : Type}

/-- The id of an edge. -/
def id (e : Edge α) : String := idOf e.source e.target e.relation

/-- The two ends. -/
def ends (e : Edge α) : String × String := (e.source, e.target)

/-- The written form. -/
def toJson (e : Edge Float) : Json :=
  .obj [
    ("id", .str e.id),
    ("source", .str e.source),
    ("target", .str e.target),
    ("relation", .str e.relation.text),
    ("weight", .float e.weight),
    ("properties", e.properties.toJson)]

/-- Reads an edge from its written form.  Its relation has to be one of the vocabulary; the weight is one
unless it is given. -/
def ofJson (given : Json) : Except Fault (Edge Float) := do
  let source ← given.member "source"
  let target ← given.member "target"
  let relation ← (← given.member "relation").asWord Relation.ofText? "RelationType"
  let weight ← ((given.get? "weight").getD (.float 1.0)).asDouble
  let properties ← EdgeProperties.ofJson (given.getD "properties")
  return { source := source.display, target := target.display, relation, weight, properties }

end Edge

end CodeAtlas
