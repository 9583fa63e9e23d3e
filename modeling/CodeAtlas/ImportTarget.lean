import CodeAtlas.FileSystem

/-!
# Targets of imports

A specifier that starts with a dot names a file relative to the file that imports it, without saying
which of the known extensions the file has, and possibly naming a directory with an index file.  The
target is the first regular file among the specifier with each extension, in order, and then the index
file of that name with each extension.  Any other specifier names a package, which has no file here.
-/

namespace CodeAtlas.ImportTarget

/-- The extensions that are tried when none are given. -/
def standardExtensions : List String := [".js", ".ts", ".vue", ".jsx", ".tsx"]

/-- Whether a specifier names a file and not a package. -/
def isRelative (specifier : String) : Bool := specifier.toList.head? == some '.'

/-- The places where a target may be, in order of preference. -/
def candidates (extensions : List String) (target : Path) : List String :=
  extensions.map (fun e => target.text ++ e)
    ++ extensions.map fun e => (target.child ("index" ++ e)).text

/-- The path that a specifier names in a file, without extension. -/
def target (cwd : Path) (importer specifier : String) : Path :=
  (Path.absolute cwd importer).parent.absolute specifier

/-- The file that a specifier names in the file `importer`. -/
def resolve? (fs : FileSystem) (extensions : List String) (importer specifier : String) :
    Option String :=
  if isRelative specifier then
    (candidates extensions (target fs.cwd importer specifier)).find? fun c => fs.isFile (Path.parse c)
  else none

end CodeAtlas.ImportTarget
