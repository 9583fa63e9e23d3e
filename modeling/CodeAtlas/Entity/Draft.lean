import CodeAtlas.Entity.Basic
import CodeAtlas.Json.Access

/-!
# Reading drafts

A draft is read from an object.  Only the file path has to be there; every other field has a default, which
is the one of `Entity`.  Where a text is needed and another value stands, the value is taken as running text;
a snippet that is null is none.
-/

namespace CodeAtlas.Entity.Draft

/-- Reads a draft. -/
def ofJson (given : Json) : Except Fault Draft := do
  let filePath ← given.member "file_path"
  let defaults := ({ filePath := "" } : Entity).draft
  let field (key : String) (default : Json) : Json := (given.get? key).getD default
  return {
    filePath
    fileName := field "file_name" defaults.fileName
    startLine := field "start_line" defaults.startLine
    endLine := field "end_line" defaults.endLine
    elementType := field "element_type" defaults.elementType
    name := field "name" defaults.name
    snippet := field "code_snippet" defaults.snippet
    tags := ← (field "semantic_tags" (.arr defaults.tags)).items
    language := field "language" defaults.language }

/-- The text of a field that may be null. -/
def display? (j : Json) : Option String := if j.isNull then none else some j.display

/-- The entity of a draft. -/
def entity (d : Draft) : Entity where
  filePath := d.filePath.display
  fileName := d.fileName
  startLine := d.startLine
  endLine := d.endLine
  elementType := d.elementType.display
  name := d.name.display
  snippet := display? d.snippet
  tags := d.tags.map Json.display
  language := d.language

/-- The entity of a draft that can be placed and names its file by a text. -/
def entity? (d : Draft) : Option Entity :=
  match d.isValid, d.filePath with
  | true, .str _ => some d.entity
  | _, _ => none

end CodeAtlas.Entity.Draft
