import CodeAtlas.Json.Basic

/-!
# Entities

An entity is a parsed unit of source code: a function, a class, a variable, with the file and the lines
it stands in.  Entities come from a parser's records, or are handed in as drafts; the lines of a draft may
be any values, and then it cannot be placed in a graph.

## Main definitions

* `Entity`: a parsed unit of source code.
* `Entity.Draft`: an entity in which any value may stand in each field.
* `Entity.isValid`, `Entity.toJson`: whether it can be placed, and its record, by way of its draft.
-/

namespace CodeAtlas

/-- A parsed unit of source code.  The lines are integers or truth values if it can be placed in a graph.
The language is any value that the parser gave, null for none.  The file name is only shown, and may be any
value; the snippet is there in every record, and only a draft may lack it. -/
structure Entity where
  filePath : String
  fileName : Json := .str ""
  startLine : Json := .int 1
  endLine : Json := .int 1
  elementType : String := "function"
  name : String := ""
  snippet : Option String := some ""
  tags : List String := []
  language : Json := .null

namespace Entity

/-- An entity as a caller hands it in: any value may stand in each field. -/
structure Draft where
  filePath : Json
  fileName : Json
  startLine : Json
  endLine : Json
  elementType : Json
  name : Json
  snippet : Json
  tags : List Json
  language : Json

namespace Draft

/-- Whether a draft can be placed in a graph. -/
def isValid (d : Draft) : Bool :=
  d.filePath.truthy && d.name.truthy && d.elementType.truthy
    && d.startLine.whole?.isSome && d.endLine.whole?.isSome

/-- The record of a draft. -/
def toJson (d : Draft) : Json :=
  .obj [
    ("file_path", d.filePath),
    ("file_name", d.fileName),
    ("start_line", d.startLine),
    ("end_line", d.endLine),
    ("element_type", d.elementType),
    ("name", d.name),
    ("code_snippet", d.snippet),
    ("semantic_tags", .arr d.tags),
    ("language", d.language)]

end Draft

/-- An entity as a draft. -/
def draft (e : Entity) : Draft where
  filePath := .str e.filePath
  fileName := e.fileName
  startLine := e.startLine
  endLine := e.endLine
  elementType := .str e.elementType
  name := .str e.name
  snippet := .ofOption .str e.snippet
  tags := e.tags.map .str
  language := e.language

/-- Whether an entity can be placed in a graph. -/
def isValid (e : Entity) : Bool := e.draft.isValid

/-- The record of an entity. -/
def toJson (e : Entity) : Json := e.draft.toJson

end Entity

end CodeAtlas
