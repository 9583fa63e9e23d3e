import CodeAtlas.Build.Nodes
import CodeAtlas.Graph.Basic
import CodeAtlas.Json.Access
import CodeAtlas.Json.Piece
import CodeAtlas.View.Summary

/-!
# Stores

A store keeps one graph in a file, next to a summary of it, and the graph's data in memory, with an
index of its nodes by id.  Data that cannot be used as a graph is read as the empty graph; data of the
right outer shape is taken as it is, so that indexing its nodes may fail.  Only data that is nested too deep
is not read at all.

Saving writes the graph, then the summary, then replaces the data, then the index.  A fault leaves
what the steps before it have done.  Writing itself is such a row of steps: the directory is made, the file
is opened, which empties it, and the value goes into it piece by piece, up to one that cannot be encoded
or that there is no room for.

## Main definitions

* `Store`: the path, the data and the index.
* `Store.openAt`, `Store.load`, `Store.save`, `Store.clear`: the life of a store.
* `Store.summaryPath`: where the summary is.
-/

namespace CodeAtlas

/-- Nodes by id; of several nodes with one id the last one counts. -/
abbrev NodeIndex := List (Json × Json)

namespace NodeIndex

/-- The node with an id. -/
def find? (index : NodeIndex) (id : Json) : Option Json :=
  (List.find? (fun entry => entry.1.sameKey id) index).map (·.2)

/-- Puts a node under an id. -/
def insert (index : NodeIndex) (id node : Json) : NodeIndex :=
  if index.any fun entry => entry.1.sameKey id then
    index.map fun entry => if entry.1.sameKey id then (entry.1, node) else entry
  else index ++ [(id, node)]

/-- The index of a graph's data. -/
def ofData (data : Members) : Except Fault NodeIndex := do
  let nodes ← ((Members.get? data "nodes").getD (.arr [])).items
  nodes.foldlM
    (fun index node => do
      let id ← (← node.member "id").asKey
      return insert index id node)
    []

end NodeIndex

/-- A graph in a file. -/
structure Store where
  path : Path
  data : Members
  index : NodeIndex

/-- What a store can be asked to save. -/
inductive Saved where
  | graph (g : Graph Float)
  | value (j : Json)

namespace Store

/-- The data of a store without a graph. -/
def emptyData : Members := [
  ("metadata", .obj [("version", .str "1.0.0"), ("created_at", .null), ("updated_at", .null)]),
  ("nodes", .arr []),
  ("edges", .arr []),
  ("communities", .arr [])]

/-- The data in a file: an object whose nodes are an array, or else the empty data. -/
def readData (fs : FileSystem) (path : Path) : Except Fault Members :=
  match fs.readJson path with
  | .ok (.obj members) =>
    match Members.get? members "nodes" with
    | some (.arr _) => .ok members
    | _ => .ok emptyData
  | .error (.json .tooDeep) => .error (.json .tooDeep)
  | _ => .ok emptyData

/-- Opens the store at a path. -/
def openAt (fs : FileSystem) (path : Path) : Except Fault Store := do
  let data ← readData fs path
  return { path, data, index := ← NodeIndex.ofData data }

/-- Replaces the data, and the index if the new data can be indexed. -/
def withData (s : Store) (data : Members) : Store × Except Fault Unit :=
  match NodeIndex.ofData data with
  | .ok index => ({ s with data, index }, .ok ())
  | .error f => ({ s with data }, .error f)

/-- Reads the file again.  The answer is the data; data that is not read replaces nothing. -/
def load (fs : FileSystem) (s : Store) : Store × Except Fault Members :=
  match readData fs s.path with
  | .error f => (s, .error f)
  | .ok data =>
    let (s, result) := s.withData data
    (s, result.map fun _ => s.data)

/-- The path of the summary of the graph at a path, which has to have a file name. -/
def summaryPathOf (path : Path) : Except Fault Path :=
  if path.name = "" then .error (.unnamedPath path.text)
  else .ok (path.parent.child (Path.stemOf path.name ++ "_summary.json"))

/-- The path of the summary. -/
def summaryPath (s : Store) : Except Fault Path := summaryPathOf s.path

/-- A member of data to be saved, an empty array when it is absent. -/
def listOf (data : Members) (key : String) : Json := (Members.get? data key).getD (.arr [])

/-- The data and the summary of what is to be saved. -/
def payload : Saved → Except Fault (Members × Json)
  | .graph g =>
    match g.toJson with
    | .obj members => .ok (members, SummaryView.ofGraph g)
    | _ => .ok ([], SummaryView.ofGraph g)
  | .value (.obj data) => do
    let metadata := (Members.get? data "metadata").getD (.obj [])
    let nodes ← (listOf data "nodes").size
    let edges ← (listOf data "edges").size
    let communities ← (listOf data "communities").size
    let top ← (listOf data "communities").front SummaryView.shownCommunities.toNat
    return (data, SummaryView.ofParts metadata nodes edges communities top)
  | .value j => .error (.notAnObject j.kindName)

/-- Writes a value into a file that has been opened, as far as it can be written. -/
def fillJson (fs : FileSystem) (path : Path) (j : Json) : FileSystem × Except Fault Unit :=
  let (text, fault) := j.written fs.medium.writingDepth
  match fs.fill path (Text.encode text), fault with
  | (fs, .error f), _ => (fs, .error (.file f))
  | (fs, .ok ()), some f => (fs, .error (.content f))
  | (fs, .ok ()), none => (fs, .ok ())

/-- Writes a value, and makes the directory it goes into.  The file is opened first, so that what was in it
is gone when the value cannot be written. -/
def writeJson (fs : FileSystem) (path : Path) (j : Json) : FileSystem × Except Fault Unit :=
  match fs.makeDirectory path.parent with
  | .error f => (fs, .error (.file f))
  | .ok fs =>
    match fs.create path with
    | .error f => (fs, .error (.file f))
    | .ok fs => fillJson fs path j

/-- Writes a graph and then its summary. -/
def writeBoth (fs : FileSystem) (path : Path) (data : Members) (summary : Json) :
    FileSystem × Except Fault Unit :=
  match writeJson fs path (.obj data) with
  | (fs, .error f) => (fs, .error f)
  | (fs, .ok ()) =>
    match summaryPathOf path with
    | .error f => (fs, .error f)
    | .ok summaryPath => writeJson fs summaryPath summary

/-- Saves a graph in the place of the one that was there. -/
def save (fs : FileSystem) (s : Store) (saved : Saved) : FileSystem × Store × Except Fault Path :=
  match payload saved with
  | .error f => (fs, s, .error f)
  | .ok (data, summary) =>
    match writeBoth fs s.path data summary with
    | (fs, .error f) => (fs, s, .error f)
    | (fs, .ok ()) =>
      let (s, result) := s.withData data
      (fs, s, result.map fun _ => s.path)

/-- Removes a file; one that is not there is no fault. -/
def discard (fs : FileSystem) (path : Path) : FileSystem × Except Fault Unit :=
  match fs.erase path with
  | .ok fs => (fs, .ok ())
  | .error .notFound => (fs, .ok ())
  | .error f => (fs, .error (.file f))

/-- Forgets the graph and removes its files. -/
def clear (fs : FileSystem) (s : Store) : FileSystem × Store × Except Fault Unit :=
  let cleared : Store := { s with data := emptyData, index := [] }
  match s.summaryPath with
  | .error f => (fs, cleared, .error f)
  | .ok summaryPath =>
    match discard fs s.path with
    | (fs, .error f) => (fs, cleared, .error f)
    | (fs, .ok ()) =>
      let (fs, result) := discard fs summaryPath
      (fs, cleared, result)

end Store

end CodeAtlas
