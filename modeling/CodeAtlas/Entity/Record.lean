import CodeAtlas.Entity.Basic
import CodeAtlas.Json.Display
import CodeAtlas.Numeral.Reading
import CodeAtlas.Path.Basic

/-!
# Reading a parser's record

A record is any JSON value.  `Entity.ofRecord` accepts an object with a file path, a name, an element
type and a start line, all of them given; everything else has a default.  Faults are looked for in a
fixed order (the shape, the missing fields, the start line, the end line, the tags), and the first one
found is the answer.

## Main definitions

* `LineFault`, `RecordFault`: why a record is refused, with the text of each in `message`.
* `lineNumber`: the integer that a value denotes.
* `Entity.ofRecord`: the entity of a record.
-/

namespace CodeAtlas

/-- Why a value is no line number. -/
inductive LineFault where
  | malformed (text : String)
  | tooLong (digits : Nat)
  | wrongKind (kind : String)
  | notANumber

/-- Why a record is refused. -/
inductive RecordFault where
  | notAnObject (kind : String)
  | missing (fields : List String)
  | line (fault : LineFault)
  | tags (kind : String)
  /-- an infinite line number; unlike the other faults it ends the reading of a whole list -/
  | infiniteLine

namespace LineFault

/-- The longest piece of a refused text that a message shows. -/
def shownLength : Nat := 200

/-- What is wrong with the line number. -/
def message : LineFault → String
  | malformed text =>
    "invalid literal for int() with base 10: "
      ++ String.ofList ((Text.quoted text).toList.take shownLength)
  | tooLong digits =>
    "Exceeds the limit (4300 digits) for integer string conversion: value has " ++ toString digits
      ++ " digits; use sys.set_int_max_str_digits() to increase the limit"
  | wrongKind kind =>
    "int() argument must be a string, a bytes-like object or a real number, not '" ++ kind ++ "'"
  | notANumber => "cannot convert float NaN to integer"

end LineFault

namespace RecordFault

/-- What is wrong with the record. -/
def message : RecordFault → String
  | notAnObject kind => "Entity record must be a mapping, got " ++ kind
  | missing fields =>
    "Entity record missing fields: [" ++ ", ".intercalate (fields.map Text.quoted) ++ "]"
  | line fault => "Invalid line numbers in entity record: " ++ fault.message
  | tags kind => "semantic_tags must be a list of strings, got " ++ kind
  | infiniteLine => "cannot convert float infinity to integer"

end RecordFault

/-- The integer that a value denotes: a number without its fraction, a truth value, or a numeral. -/
def lineNumber : Json → Except RecordFault Int
  | .int n => .ok n
  | .bool b => .ok (if b then 1 else 0)
  | .float x =>
    match Numeral.Double.ofFloat x with
    | .nan => .error (.line .notANumber)
    | .infinite _ => .error .infiniteLine
    | d => .ok (d.truncate?.getD 0)
  | .str s =>
    match Numeral.integer? s with
    | .ok n => .ok n
    | .error .malformed => .error (.line (.malformed s))
    | .error (.tooLong digits) => .error (.line (.tooLong digits))
  | j => .error (.line (.wrongKind j.kindName))

namespace Entity

/-- The fields that every record has to give. -/
def requiredFields : List String := ["file_path", "name", "element_type", "start_line"]

/-- A required field is missing when it is absent, null or the empty string. -/
def isMissing : Json → Bool
  | .null => true
  | .str s => s == ""
  | _ => false

/-- The tags of a record: a list of values, or a single text. -/
def recordTags (j : Json) : Except RecordFault (List String) :=
  if !j.truthy then .ok []
  else
    match j with
    | .str s => .ok [s]
    | .arr items => .ok (items.map Json.display)
    | _ => .error (.tags j.kindName)

/-- The text of an optional field. -/
def textOr (default : String) (j : Json) : String := if j.truthy then j.display else default

/-- The file name of a path written with slashes of either kind. -/
def fileNameOf (filePath : String) : String :=
  Path.baseOf (String.ofList (filePath.toList.map fun c => if c = '\\' then '/' else c))

/-- The entity of a record. -/
def ofRecord (record : Json) : Except RecordFault Entity :=
  match record with
  | .obj _ =>
    let missing := requiredFields.filter fun key => isMissing (record.getD key)
    if !missing.isEmpty then .error (.missing missing)
    else do
      let startLine ← lineNumber (record.getD "start_line")
      let endLine ← lineNumber ((record.getD "end_line").orElse (.int startLine))
      let filePath := (record.getD "file_path").display
      let tags ← recordTags (record.getD "semantic_tags")
      return {
        filePath
        fileName := .str (textOr (fileNameOf filePath) (record.getD "file_name"))
        startLine := .int startLine
        endLine := .int endLine
        elementType := (record.getD "element_type").display
        name := (record.getD "name").display
        snippet := some (textOr "" (record.getD "code_snippet"))
        tags
        language := (record.getD "language").orElse .null }
  | _ => .error (.notAnObject record.kindName)

end Entity

end CodeAtlas
