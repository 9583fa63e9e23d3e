import CodeAtlas.Fault
import CodeAtlas.Tally
import CodeAtlas.Text.Lower

/-!
# Tags

Tags are derived from names: a table gives, for each tag, the words that call for it, and a name gets
the tags of all words that occur in it, in any case and in the order of the table.  The dependencies of
a package give the tags of its tech stack, and the path and tags of a directory what it is for.
-/

namespace CodeAtlas.Tags

/-- Words, and the tag that any of them calls for. -/
abbrev Table := List (List String × String)

/-- Tags of a file, by words in its name. -/
def fileNameTable : Table := [
  (["test"], "test"),
  (["spec"], "spec"),
  (["config"], "config"),
  (["util", "helper"], "utility"),
  (["component"], "component"),
  (["service"], "service"),
  (["store"], "store")]

/-- Tags of a directory, by words in its name. -/
def directoryNameTable : Table := [
  (["component"], "components"),
  (["page", "view"], "pages"),
  (["util", "helper"], "utilities"),
  (["service", "api"], "services"),
  (["store", "state"], "state-management"),
  (["test", "spec"], "testing"),
  (["config"], "configuration"),
  (["asset", "static"], "assets"),
  (["doc"], "documentation")]

/-- What a directory is for, by words in its path. -/
def functionalityTable : Table := [
  (["component"], "ui_components"),
  (["page", "view"], "page_routing"),
  (["service", "api"], "api_integration"),
  (["store", "state"], "state_management"),
  (["util", "helper"], "utilities"),
  (["test"], "testing"),
  (["config"], "configuration")]

/-- Whether a text occurs in another one. -/
def occursIn (needle : List Char) : List Char → Bool
  | [] => needle.isEmpty
  | c :: rest => needle.isPrefixOf (c :: rest) || occursIn needle rest

/-- The tags that a name calls for. -/
def ofName (table : Table) (name : String) : List String :=
  let name := (Text.lower name).toList
  (table.filter fun row => row.1.any fun word => occursIn word.toList name).map (·.2)

/-- The distinct values of a list that count as given, in first-seen order.  All of them have to be
keys, whether they count or not. -/
def unique (items : List Json) : Except Fault (List Json) :=
  match items.find? fun j => !j.isKey with
  | some j => .error (.unhashable j.kindName)
  | none => .ok ((distinctBy Json.sameKey items).filter Json.truthy)

/-- The distinct non-empty texts of a list. -/
def uniqueTexts (texts : List String) : List String := (distinct texts).filter (· != "")

/-- Dependencies that call for a tag of the tech stack. -/
def stackTable : List (String × String) := [
  ("react", "react"),
  ("typescript", "typescript"),
  ("@types/node", "nodejs"),
  ("next", "nextjs"),
  ("nuxt", "nuxtjs"),
  ("svelte", "svelte"),
  ("@angular/core", "angular"),
  ("express", "express")]

/-- Characters in front of a version number. -/
def versionMarks : List Char := ['^', '~', '>', '=', 'v', ' ']

/-- The tag of a dependency on Vue, which depends on the version. -/
def vueTag (version : Json) : String :=
  if (version.display.toList.dropWhile versionMarks.contains).head? = some '3' then "vue3" else "vue2"

/-- The tech stack of a package with the given dependencies. -/
def techStack (dependencies : Members) : List String :=
  (match Members.get? dependencies "vue" with
    | some version => if version.truthy then [vueTag version] else []
    | none => [])
    ++ (stackTable.filter fun row => (Members.get? dependencies row.1).isSome).map (·.2)

/-- What a directory with the given path and tags is for. -/
def functionality (path : String) (tags : List Json) : List String :=
  let has (tag : String) : Bool := tags.any (Json.sameKey (.str tag))
  let found := ofName functionalityTable path
    ++ (if has "vue" || has "react" then ["frontend_framework"] else [])
    ++ (if has "function" then ["business_logic"] else [])
    ++ (if has "class" then ["object_oriented"] else [])
  if found.isEmpty then ["general"] else found

end CodeAtlas.Tags
