import CodeAtlas.Json.Basic
import CodeAtlas.Vocabulary

/-!
# Nodes

A node stands for the project, a directory, a file or a code element.  It has the fields of its kind
and lacks the others; a field that a node lacks is left out of its written form.

A figure of a node (a level, a size, a line) is an integer in the graphs that a build makes.  A node may also
be made by hand with any value in its place, and null stands for a figure that a node lacks.

## Main definitions

* `Node`: a node of a graph.
* `Node.Draft`: a node in which any value may stand in each field that is only shown.
* `Node.language`, `Node.toJson`: its language and its written form, by way of its draft.
-/

namespace CodeAtlas

/-- A node of a graph. -/
structure Node where
  id : String
  kind : NodeKind
  /-- a text, except that a project is named by any value that its manifest gives -/
  name : Json
  absolutePath : Option String
  relativePath : Option String := none
  /-- texts, and the language of a file as its parser gave it -/
  tags : List Json := []
  properties : Members := []
  techStack : Option (List String) := none
  level : Json := .null
  childrenCount : Json := .null
  fileType : Option String := none
  fileSize : Json := .null
  lineCount : Json := .null
  imports : Option (List String) := none
  exports : Option (List String) := none
  elementKind : Option ElementKind := none
  startLine : Json := .null
  endLine : Json := .null
  snippet : Option String := none

namespace Node

/-- A node as a caller hands it in: any value may stand in each field that is only shown. -/
structure Draft where
  id : Json
  kind : NodeKind
  name : Json
  absolutePath : Json
  relativePath : Json
  tags : List Json
  properties : Members
  techStack : Json
  level : Json
  childrenCount : Json
  fileType : Json
  fileSize : Json
  lineCount : Json
  imports : Json
  exports : Json
  elementKind : Option ElementKind
  startLine : Json
  endLine : Json
  snippet : Json

namespace Draft

/-- The language among the properties, null when there is none. -/
def language (d : Draft) : Json := (Members.get? d.properties "language").getD .null

/-- All fields, null for those that a node lacks. -/
def fields (d : Draft) : Members := [
  ("id", d.id),
  ("type", .str d.kind.text),
  ("name", d.name),
  ("absolute_path", d.absolutePath),
  ("relative_path", d.relativePath),
  ("semantic_tags", .arr d.tags),
  ("tech_stack", d.techStack),
  ("level", d.level),
  ("children_count", d.childrenCount),
  ("file_type", d.fileType),
  ("file_size", d.fileSize),
  ("line_count", d.lineCount),
  ("imports", d.imports),
  ("exports", d.exports),
  ("element_type", .ofOption (fun k => .str k.text) d.elementKind),
  ("start_line", d.startLine),
  ("end_line", d.endLine),
  ("code_snippet", d.snippet),
  ("properties", .obj d.properties)]

/-- The written form. -/
def toJson (d : Draft) : Json := .obj (d.fields.filter fun m => !m.2.isNull)

end Draft

/-- A node as a draft. -/
def draft (n : Node) : Draft where
  id := .str n.id
  kind := n.kind
  name := n.name
  absolutePath := .ofOption .str n.absolutePath
  relativePath := .ofOption .str n.relativePath
  tags := n.tags
  properties := n.properties
  techStack := .ofOption .strs n.techStack
  level := n.level
  childrenCount := n.childrenCount
  fileType := .ofOption .str n.fileType
  fileSize := n.fileSize
  lineCount := n.lineCount
  imports := .ofOption .strs n.imports
  exports := .ofOption .strs n.exports
  elementKind := n.elementKind
  startLine := n.startLine
  endLine := n.endLine
  snippet := .ofOption .str n.snippet

/-- The language among the properties, null when there is none. -/
def language (n : Node) : Json := n.draft.language

/-- The written form. -/
def toJson (n : Node) : Json := n.draft.toJson

end Node

end CodeAtlas
