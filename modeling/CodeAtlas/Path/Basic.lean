/-!
# Paths

A path is a root and a list of segments.  Reading a path drops empty segments and single dots; two
slashes in front are a root of their own, any other number of them is one.  Every part of the library
that compares, joins or relates paths does so on this type, so that there is one notion of path.

## Main definitions

* `Path.parse`, `Path.text`: from text and back.
* `Path.normalize`: resolves `..` segments without looking at the file system.
* `Path.join`, `Path.absolute`: paths as seen from another path.
* `Path.relativeTo`, `Path.within`: a path as seen from a workspace.
* `directoryOf`, `baseOf`, `extensionOf`, `stemOf`: parts of a path's text.
-/

namespace CodeAtlas

/-- What a path starts with. -/
inductive PathRoot where
  | none
  | single
  | double
  deriving DecidableEq, Repr

/-- A path: its root and its segments, none empty and none a single dot. -/
@[ext]
structure Path where
  root : PathRoot
  segments : List String
  deriving DecidableEq, Repr

namespace Path

/-- The root that a text starts with. -/
def rootOf : List Char → PathRoot
  | '/' :: '/' :: '/' :: _ => .single
  | '/' :: '/' :: _ => .double
  | '/' :: _ => .single
  | _ => .none

/-- The parts of a text between slashes. -/
def splitSlashes : List Char → List (List Char)
  | [] => [[]]
  | c :: cs =>
    if c = '/' then [] :: splitSlashes cs
    else
      match splitSlashes cs with
      | [] => [[c]]
      | part :: parts => (c :: part) :: parts

/-- Reads a path. -/
def parse (s : String) : Path where
  root := rootOf s.toList
  segments := ((splitSlashes s.toList).filter fun part => part != [] && part != ['.']).map
    String.ofList

/-- The text of a root. -/
def rootText : PathRoot → String
  | .none => ""
  | .single => "/"
  | .double => "//"

/-- The text of a path; a path with neither root nor segments is a single dot. -/
def text (p : Path) : String :=
  if p.root = .none ∧ p.segments = [] then "."
  else rootText p.root ++ "/".intercalate p.segments

/-- Whether a path has a root. -/
def isAbsolute (p : Path) : Bool := p.root != .none

/-- One segment more: `..` takes the last segment away, if there is one to take; in front of a relative
path it stays, in front of an absolute one it is lost.  The segments read so far are in reverse. -/
def descend (absolute : Bool) (done : List String) (segment : String) : List String :=
  if segment = ".." then
    match done with
    | [] => if absolute then [] else [".."]
    | last :: rest => if last = ".." then ".." :: done else rest
  else segment :: done

/-- Resolves `..` segments. -/
def normalize (p : Path) : Path :=
  { p with segments := (p.segments.foldl (descend p.isAbsolute) []).reverse }

/-- The path `q` as seen from `p`. -/
def join (p q : Path) : Path := if q.isAbsolute then q else { p with segments := p.segments ++ q.segments }

/-- The normalised path that a text names when read in the directory `base`. -/
def absolute (base : Path) (s : String) : Path := (base.join (parse s)).normalize

/-- The path of an entry of a directory. -/
def child (p : Path) (name : String) : Path := { p with segments := p.segments ++ [name] }

/-- The directory of a path; a root is its own. -/
def parent (p : Path) : Path := { p with segments := p.segments.dropLast }

/-- A path and the directories above it, the outermost first. -/
def ancestry (p : Path) : List Path :=
  (List.range (p.segments.length + 1)).map fun k => { p with segments := p.segments.take k }

/-- The last segment, empty for a root. -/
def name (p : Path) : String := p.segments.getLast?.getD ""

/-- Drops the common front of two lists of segments. -/
def dropCommon : List String → List String → List String × List String
  | b :: bs, p :: ps => if b = p then dropCommon bs ps else (b :: bs, p :: ps)
  | bs, ps => (bs, ps)

/-- The relative path that leads from `base` to `p`. -/
def relativeTo (p base : Path) : Path where
  root := .none
  segments :=
    let (up, down) := dropCommon base.segments p.segments
    List.replicate up.length ".." ++ down

/-- Whether a path lies in `base` or is `base`: the way there does not start upward. -/
def within (p base : Path) : Bool := (p.relativeTo base).segments.head? != some ".."

/-- The text up to the last slash, without the slashes at its end unless it is nothing else. -/
def directoryOf (s : String) : String :=
  let front := (s.toList.reverse.dropWhile (· != '/')).reverse
  if front.all (· == '/') then String.ofList front
  else String.ofList (front.reverse.dropWhile (· == '/')).reverse

/-- The text after the last slash. -/
def baseOf (s : String) : String := String.ofList (s.toList.reverse.takeWhile (· != '/')).reverse

/-- The last dot of a file name and what follows it.  Dots in front of a name start no extension. -/
def extensionOf (name : String) : String :=
  let body := name.toList.dropWhile (· == '.')
  if body.contains '.' then String.ofList ('.' :: (body.reverse.takeWhile (· != '.')).reverse) else ""

/-- A file name without its last extension; a dot at either end of the name starts none. -/
def stemOf (name : String) : String :=
  let reversed := name.toList.reverse
  let after := reversed.takeWhile (· != '.')
  match reversed.dropWhile (· != '.') with
  | '.' :: front =>
    if after.isEmpty || front.isEmpty then name else String.ofList front.reverse
  | _ => name

end Path

end CodeAtlas
