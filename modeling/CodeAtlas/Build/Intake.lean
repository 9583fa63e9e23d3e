import CodeAtlas.Build.State
import CodeAtlas.Entity.Draft
import CodeAtlas.Entity.Record

/-!
# Taking in the input of a build

A build is given records, and for each file what it imports and exports.  A record that cannot be placed
in the graph is skipped and counted; the input as a whole is refused only when it has no records to read
one by one, when its file maps are no objects, or when a line number is infinite.

## Main definitions

* `Source`: a record, or the draft of an entity.
* `Json.elements`: the records that a given value consists of.
* `locate`, `intake`: the entities of some sources, and the number of those skipped.
* `fileMap`: a file map with its paths made absolute.
-/

namespace CodeAtlas

/-- What a build takes for one entity. -/
inductive Source where
  | record (record : Json)
  | draft (draft : Entity.Draft)

/-- The records that a given value consists of, one by one; a value that does not count as given has
none. -/
def Json.elements (j : Json) : Except Fault (List Json) := if j.truthy then j.items else .ok []

/-- The entity of a source; none when the source is to be skipped. -/
def Source.entity? : Source → Except Fault (Option Entity)
  | draft d => .ok d.entity?
  | record r =>
    match Entity.ofRecord r with
    | .ok e => .ok (some e)
    | .error .infiniteLine => .error (.record .infiniteLine)
    | .error _ => .ok none

/-- The entity of a source under its absolute path, provided that it is complete and lies in the
workspace. -/
def locate (workspace : Path) (source : Source) : Except Fault (Option Entity) :=
  source.entity?.map fun e? => e?.bind fun e =>
    let path := workspace.absolute e.filePath
    if e.isValid && path.within workspace then some { e with filePath := path.text } else none

/-- The entities that a build works on, and how many sources it skips. -/
structure Intake where
  entities : List Entity
  skipped : Nat

/-- Takes in all sources. -/
def intake (workspace : Path) (sources : List Source) : Except Fault Intake :=
  (sources.mapM (locate workspace)).map fun located =>
    { entities := located.filterMap id
      skipped := located.countP Option.isNone }

/-- The texts that a file map gives for one file: a single text, or a list of values.  Nothing else is
taken. -/
def fileMapValues : Json → List String
  | .str s => if s = "" then [] else [s]
  | .arr items => items.map Json.display
  | _ => []

/-- Adds texts to those of a file. -/
def extendFile (map : FileMap) (path : String) (values : List String) : FileMap :=
  if map.any (·.1 == path) then
    map.map fun entry => if entry.1 == path then (path, entry.2 ++ values) else entry
  else map ++ [(path, values)]

/-- A file map with absolute paths; the texts of one file given under several paths are joined. -/
def fileMap (workspace : Path) (given : Json) : Except Fault FileMap :=
  if !given.truthy then .ok []
  else
    match given with
    | .obj members =>
      .ok <| members.foldl
        (fun map (path, j) =>
          let values := fileMapValues j
          if path = "" || values.isEmpty then map
          else extendFile map (workspace.absolute path).text values)
        []
    | _ => .error (.notAnObject given.kindName)

end CodeAtlas
