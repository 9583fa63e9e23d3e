import CodeAtlas.Graph.Node
import CodeAtlas.Json.Access
import CodeAtlas.Json.Display

/-!
# Reading drafts of nodes

A draft is read from an object.  Only the id has to be there: a node is a code element unless its kind is
given, is named by its id, and lacks the other fields.  A kind, of the node or of its element, has to be
one of the vocabulary.  Where a node holds a text and another value stands in the draft, the node lacks the
field.
-/

namespace CodeAtlas.Node.Draft

/-- Reads a draft. -/
def ofJson (given : Json) : Except Fault Draft := do
  let id ← given.member "id"
  let field (key : String) (default : Json) : Json := (given.get? key).getD default
  let kind ← (field "type" (.str NodeKind.codeElement.text)).asWord NodeKind.ofText? "NodeType"
  let elementKind ← match given.getD "element_type" with
    | .null => pure none
    | word => some <$> word.asWord ElementKind.ofText? "ElementType"
  let tags ← (field "semantic_tags" (.arr [])).items
  let properties ← match field "properties" (.obj []) with
    | .obj members => pure members
    | other => throw (.notAnObject other.kindName)
  return {
    id, kind, elementKind, tags, properties
    name := field "name" id
    absolutePath := field "absolute_path" (.str "")
    relativePath := given.getD "relative_path"
    techStack := given.getD "tech_stack"
    level := given.getD "level"
    childrenCount := given.getD "children_count"
    fileType := given.getD "file_type"
    fileSize := given.getD "file_size"
    lineCount := given.getD "line_count"
    imports := given.getD "imports"
    exports := given.getD "exports"
    startLine := given.getD "start_line"
    endLine := given.getD "end_line"
    snippet := given.getD "code_snippet" }

/-- The texts of a list. -/
def texts? : Json → Option (List String)
  | .arr items => some (items.map Json.display)
  | _ => none

/-- The node of a draft. -/
def node (d : Draft) : Node where
  id := d.id.display
  kind := d.kind
  name := d.name
  absolutePath := d.absolutePath.text?
  relativePath := d.relativePath.text?
  tags := d.tags
  properties := d.properties
  techStack := texts? d.techStack
  level := d.level
  childrenCount := d.childrenCount
  fileType := d.fileType.text?
  fileSize := d.fileSize
  lineCount := d.lineCount
  imports := texts? d.imports
  exports := texts? d.exports
  elementKind := d.elementKind
  startLine := d.startLine
  endLine := d.endLine
  snippet := d.snippet.text?

end CodeAtlas.Node.Draft
