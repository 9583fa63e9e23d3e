import CodeAtlas.Entity.Record
import CodeAtlas.FileSystem
import CodeAtlas.Json.Piece
import CodeAtlas.Json.Reader

/-!
# Faults

Every way in which an operation of the library can fail, as a cause, with one text for each.  Reading
records, and reading and writing JSON have faults of their own, which are causes here.
-/

namespace CodeAtlas

/-- Why an operation failed. -/
inductive Fault where
  /-- a record was refused -/
  | record (fault : RecordFault)
  /-- fields of a configuration were refused, each with a text that says why -/
  | configuration (texts : List String)
  /-- a value that is no word of a vocabulary -/
  | unknownWord (word : Json) (vocabulary : String)
  /-- a log level that does not exist -/
  | unknownLogLevel (level : String)
  /-- an input file that holds neither an object nor a list -/
  | inputShape
  /-- a storage path without a file name -/
  | unnamedPath (path : String)
  /-- an object lacks a member -/
  | missingKey (key : String)
  /-- an array or an object was used as a key -/
  | unhashable (kind : String)
  /-- the items of a value that has none -/
  | notIterable (kind : String)
  /-- a member, an item or a part of a value that has none -/
  | notSubscriptable (kind : String)
  /-- the length of a value that has none -/
  | noLength (kind : String)
  /-- two objects were to be joined, and one of them is none -/
  | notMergeable (kind : String)
  /-- an object was needed -/
  | notAnObject (kind : String)
  /-- a text was needed -/
  | notAText (kind : String)
  /-- a number was needed -/
  | notANumber (kind : String)
  /-- a text that is no decimal -/
  | notADecimal (text : String)
  /-- a number beyond the range of doubles -/
  | beyondDoubles
  /-- a node lacks the relative path that its relation needs -/
  | noRelativePath (id : String)
  /-- a code element lacks its kind -/
  | noElementKind (id : String)
  /-- a text that is no JSON -/
  | json (fault : Json.ReadFault)
  /-- bytes that are no UTF-8 -/
  | malformedText
  /-- a value that cannot be written -/
  | content (fault : WriteFault)
  /-- the file system refused -/
  | file (fault : FileFault)

namespace Fault

/-- What went wrong. -/
def message : Fault → String
  | record fault => fault.message
  | configuration texts => "; ".intercalate (texts.mergeSort (· ≤ ·))
  | unknownWord word vocabulary => word.shown ++ " is not a valid " ++ vocabulary
  | unknownLogLevel level => "Level '" ++ level ++ "' does not exist"
  | inputShape => "input must be a JSON object or a list of entities"
  | unnamedPath path => "PosixPath(" ++ Text.quoted path ++ ") has an empty name"
  | missingKey key => key
  | unhashable kind => "a value of kind " ++ kind ++ " cannot be a key"
  | notIterable kind => "a value of kind " ++ kind ++ " has no items"
  | notSubscriptable kind => "a value of kind " ++ kind ++ " has no such part"
  | noLength kind => "a value of kind " ++ kind ++ " has no length"
  | notMergeable kind => "a value of kind " ++ kind ++ " cannot be merged"
  | notAnObject kind => "an object is needed, not a value of kind " ++ kind
  | notAText kind => "a text is needed, not a value of kind " ++ kind
  | notANumber kind => "a number is needed, not a value of kind " ++ kind
  | notADecimal text => "could not convert string to float: " ++ Text.quoted text
  | beyondDoubles => "the number is too large for a float"
  | noRelativePath id => "node " ++ id ++ " has no relative path"
  | noElementKind id => "node " ++ id ++ " has no element kind"
  | json .malformed => "the text is not JSON"
  | json (.longInteger digits) => LineFault.message (.tooLong digits)
  | json .tooDeep => "arrays and objects stand too deep in each other"
  | malformedText => "the bytes are not UTF-8"
  | content .half => "surrogates not allowed"
  | content .longInteger => "an integer has too many digits to be written"
  | content .tooDeep => "arrays and objects stand too deep in each other"
  | file .notFound => "no such file or directory"
  | file .alreadyExists => "the file exists"
  | file .isDirectory => "is a directory"
  | file .notDirectory => "not a directory"
  | file .noSpace => "no space left on device"
  | file (.unusablePath .nullCharacter) => "embedded null byte"
  | file (.unusablePath .half) => "surrogates not allowed"

end Fault

/-- A file operation as an operation of the library. -/
def liftFile {β : Type} : Except FileFault β → Except Fault β := Except.mapError Fault.file

end CodeAtlas
