import CodeAtlas.Path.Basic
import CodeAtlas.Text.Utf8

/-!
# File systems

A file system is a value: a current directory, the entries below the root, each under the segments of its
path, and the medium that they stand on.  Every operation takes a path as it is written and reads it in the
current directory; the two kinds of root are one and the same directory.  On the way of a path everything
that `..` leaves again has to be a directory, unless the medium resolves `..` by the text of the path alone.

Operations that may fail say why with a `FileFault`.  A file is written in two parts: it is opened, which
empties it, and then it takes what is written as far as the medium has room for it, so that a fault in
between leaves the front part.  All other operations change nothing when they fail.  A path with the null
character in it, or with a half of a surrogate pair that stands for no byte, names nothing, and every
operation that would have to reach it fails.

## Main definitions

* `Medium`: how paths are followed, how much room there is, and how deep values may go.
* `FileSystem.locate`, `FileSystem.impasse?`: where a path leads, and why it may not be followed.
* `FileSystem.read`, `FileSystem.create`, `FileSystem.fill`, `FileSystem.erase`: files.
* `FileSystem.makeDirectory`: a directory, with those above it.
-/

namespace CodeAtlas

/-- What a path may name. -/
inductive Entry where
  | file (content : ByteArray)
  | directory

/-- What makes a path unusable. -/
inductive PathProblem where
  | nullCharacter
  /-- half of a surrogate pair -/
  | half
  deriving DecidableEq, Repr

/-- Why an operation on the file system failed. -/
inductive FileFault where
  | notFound
  | alreadyExists
  | isDirectory
  | notDirectory
  /-- there is no more room for the content of a file -/
  | noSpace
  /-- the path has a character in it that no name can have -/
  | unusablePath (problem : PathProblem)
  deriving DecidableEq, Repr

/-- What files stand on, and how far a process can go when it reads and writes values there. -/
structure Medium where
  /-- whether `..` is resolved by the text of a path alone, and nothing has to be there that it leaves -/
  lexical : Bool := false
  /-- how many bytes the file in a place can have, if there is a bound -/
  room : List String → Option Nat := fun _ => none
  /-- how deep arrays and objects may stand in each other in a value that is read -/
  readingDepth : Nat := 988
  /-- and in a value that is written -/
  writingDepth : Nat := 990

/-- A file system, as seen from a current directory. -/
structure FileSystem where
  cwd : Path
  entries : List (List String × Entry)
  medium : Medium := {}

/-- The paths in front of the `..` segments of a path, which are left again. -/
def Path.departures (p : Path) : List Path :=
  (List.range p.segments.length).filterMap fun k =>
    if p.segments[k]? = some ".." then some { p with segments := p.segments.take k } else none

namespace FileSystem

/-- The null character, which no path may have in it. -/
def nullCharacter : Char := Char.ofNat 0

/-- Whether a name can have a character in it. -/
def isNameCharacter (c : Char) : Bool := c != nullCharacter && (!Text.isHalf c || Text.standsForByte c)

/-- Whether a path can name something. -/
def isUsable (p : Path) : Bool := p.segments.all fun segment => segment.toList.all isNameCharacter

/-- What makes a path unusable that is.  A half of a surrogate pair is seen first. -/
def pathProblem (p : Path) : PathProblem :=
  if p.segments.any fun segment => segment.toList.any fun c => Text.isHalf c && !Text.standsForByte c
  then .half else .nullCharacter

/-- The segments under which a path is looked up. -/
def locate (fs : FileSystem) (p : Path) : List String := (fs.cwd.join p).normalize.segments

/-- The entry under given segments; the root is a directory. -/
def entryAt? (fs : FileSystem) (segments : List String) : Option Entry :=
  if segments = [] then some .directory else fs.entries.lookup segments

/-- Whether the entry under given segments is a file. -/
def fileAt (fs : FileSystem) (segments : List String) : Bool :=
  match fs.entryAt? segments with
  | some (.file _) => true
  | _ => false

/-- Whether a file stands where the path needs a directory. -/
def blocked (fs : FileSystem) (segments : List String) : Bool :=
  (List.range segments.length).any fun k => fs.fileAt (segments.take k)

/-- Why nothing is found under given segments. -/
def absence (fs : FileSystem) (segments : List String) : FileFault :=
  if fs.blocked segments then .notDirectory else .notFound

/-- Why a path cannot be followed to its end: something that it leaves by `..` is not a directory. -/
def impasse? (fs : FileSystem) (p : Path) : Option FileFault :=
  if fs.medium.lexical then none
  else p.departures.findSome? fun q =>
    match fs.entryAt? (fs.locate q) with
    | some .directory => none
    | some (.file _) => some .notDirectory
    | none => some (fs.absence (fs.locate q))

/-- Lets a path pass that is usable and can be followed. -/
def checkPath (fs : FileSystem) (p : Path) : Except FileFault Unit :=
  if isUsable p then
    match fs.impasse? p with
    | none => .ok ()
    | some fault => .error fault
  else .error (.unusablePath (pathProblem p))

/-- The entry that a path names. -/
def entry? (fs : FileSystem) (p : Path) : Option Entry :=
  match fs.impasse? p with
  | none => fs.entryAt? (fs.locate p)
  | some _ => none

/-- Whether a path names a file. -/
def isFile (fs : FileSystem) (p : Path) : Bool :=
  match fs.entry? p with
  | some (.file _) => true
  | _ => false

/-- Whether a path names a directory. -/
def isDirectory (fs : FileSystem) (p : Path) : Bool :=
  match fs.entry? p with
  | some .directory => true
  | _ => false

/-- Whether a path names anything. -/
def contains (fs : FileSystem) (p : Path) : Bool := (fs.entry? p).isSome

/-- The content of a file. -/
def read (fs : FileSystem) (p : Path) : Except FileFault ByteArray := do
  fs.checkPath p
  match fs.entryAt? (fs.locate p) with
  | some (.file content) => return content
  | some .directory => throw .isDirectory
  | none => throw (fs.absence (fs.locate p))

/-- The number of entries of a directory. -/
def childCount? (fs : FileSystem) (p : Path) : Option Nat :=
  if fs.isDirectory p then
    let here := fs.locate p
    some (fs.entries.countP fun e => e.1 != [] && e.1.dropLast == here)
  else none

/-- Puts an entry, in the place of the one that was there. -/
def insert (fs : FileSystem) (segments : List String) (entry : Entry) : FileSystem :=
  if segments = [] then fs
  else if (fs.entries.lookup segments).isSome then
    { fs with entries := fs.entries.map fun e => if e.1 = segments then (segments, entry) else e }
  else { fs with entries := fs.entries ++ [(segments, entry)] }

/-- Makes every directory on the way to given segments that does not exist. -/
def putDirectories (fs : FileSystem) (segments : List String) : FileSystem :=
  (List.range (segments.length + 1)).foldl
    (fun fs k => if (fs.entryAt? (segments.take k)).isSome then fs else fs.insert (segments.take k) .directory)
    fs

/-- Makes a directory in one that exists. -/
def makeOneDirectory (fs : FileSystem) (p : Path) : Except FileFault FileSystem := do
  fs.checkPath p
  let segments := fs.locate p
  if (fs.entryAt? segments).isSome then throw .alreadyExists
  if fs.blocked segments then throw .notDirectory
  if (fs.entryAt? segments.dropLast).isNone then throw .notFound
  return fs.insert segments .directory

/-- Makes a directory unless it is there. -/
def ensureDirectory (fs : FileSystem) (p : Path) : Except FileFault FileSystem :=
  match fs.makeOneDirectory p with
  | .error .alreadyExists => if fs.isDirectory p then .ok fs else .error .alreadyExists
  | result => result

/-- Makes a directory and, if the one that it is to be made in is missing, first the directories above it
as the path is written: below a missing directory, one that `..` leaves again is made all the same.
`above` is the number of segments that the path has. -/
def makeDirectoriesFrom (fs : FileSystem) (p : Path) (above : Nat) : Except FileFault FileSystem :=
  match above, fs.ensureDirectory p with
  | above + 1, .error .notFound => do (← makeDirectoriesFrom fs p.parent above).ensureDirectory p
  | _, result => result

/-- Makes a directory and those above it. -/
def makeDirectory (fs : FileSystem) (p : Path) : Except FileFault FileSystem :=
  fs.makeDirectoriesFrom p p.segments.length

/-- Opens a file for writing: one that is there is emptied, a new one is made in a directory that exists. -/
def create (fs : FileSystem) (p : Path) : Except FileFault FileSystem := do
  fs.checkPath p
  let segments := fs.locate p
  if fs.isDirectory p then throw .isDirectory
  if fs.blocked segments then throw .notDirectory
  if (fs.entryAt? segments.dropLast).isNone then throw .notFound
  return fs.insert segments (.file .empty)

/-- What there is room for of the content of a file. -/
def taken (fs : FileSystem) (p : Path) (content : ByteArray) : ByteArray :=
  match fs.medium.room (fs.locate p) with
  | none => content
  | some room => content.extract 0 room

/-- Whether there is room for all of it. -/
def holds (fs : FileSystem) (p : Path) (content : ByteArray) : Bool :=
  match fs.medium.room (fs.locate p) with
  | none => true
  | some room => content.size ≤ room

/-- Writes into a file that has been opened, as far as there is room for it. -/
def fill (fs : FileSystem) (p : Path) (content : ByteArray) : FileSystem × Except FileFault Unit :=
  (fs.insert (fs.locate p) (.file (fs.taken p content)),
    if fs.holds p content then .ok () else .error .noSpace)

/-- Removes a file. -/
def erase (fs : FileSystem) (p : Path) : Except FileFault FileSystem := do
  fs.checkPath p
  let segments := fs.locate p
  match fs.entryAt? segments with
  | some .directory => throw .isDirectory
  | some (.file _) => return { fs with entries := fs.entries.filter fun e => e.1 != segments }
  | none => throw (fs.absence segments)

/-- Puts an entry at a path, the directories above it made.  A file takes the place of the file that is
there; a directory leaves what is there as it is. -/
def put (fs : FileSystem) (p : Path) (entry : Entry) : Except FileFault FileSystem :=
  let segments := fs.locate p
  if fs.blocked segments then .error .notDirectory
  else
    match entry, fs.entryAt? segments with
    | .file _, some .directory => .error .isDirectory
    | .directory, some _ => .ok fs
    | _, _ => .ok ((fs.putDirectories segments.dropLast).insert segments entry)

/-- All files, by segments. -/
def files (fs : FileSystem) : List (List String × ByteArray) :=
  fs.entries.filterMap fun e => match e.2 with
    | .file content => some (e.1, content)
    | .directory => none

/-- Whether two entries are the same. -/
def sameEntry : Entry → Entry → Bool
  | .file content, .file content' => content == content'
  | .directory, .directory => true
  | _, _ => false

/-- The entries that `before` does not have as they are, in the order in which they were made. -/
def changesSince (fs before : FileSystem) : List (Path × Entry) :=
  (fs.entries.filter fun e => !(before.entryAt? e.1).any (sameEntry e.2)).map fun e =>
    (⟨.single, e.1⟩, e.2)

/-- A file system that holds the root and the current directory. -/
def empty (cwd : Path) : FileSystem := FileSystem.putDirectories { cwd, entries := [] } cwd.segments

end FileSystem

end CodeAtlas
