import CodeAtlas.Numeral.Double

/-!
# JSON values

A value of the data format that parsers, package manifests and stored graphs are written in.  An
object keeps its members in the order in which their keys were first seen, and an integer is not a
float: `1` and `1.0` are written differently.

## Main definitions

* `Json`: the values.
* `Members.get?`, `Members.insert`: an object's members by key.
* `Json.truthy`: whether a value counts as given.
* `Json.whole?`: the integer that a value is.
* `Json.isKey`, `Json.sameKey`: values as keys; numbers are one key when they are equal as numbers,
  and truth values count as the numbers zero and one.
-/

namespace CodeAtlas

/-- A JSON value. -/
inductive Json where
  | null
  | bool (b : Bool)
  | int (n : Int)
  | float (x : Float)
  | str (s : String)
  | arr (items : List Json)
  | obj (members : List (String × Json))
  deriving Inhabited

/-- The members of an object, in order. -/
abbrev Members := List (String × Json)

namespace Members

/-- The value under a key. -/
def get? (members : Members) (key : String) : Option Json := members.lookup key

/-- Sets the value under a key: a known key keeps its place, a new one comes last. -/
def insert (members : Members) (key : String) (value : Json) : Members :=
  if members.any (·.1 == key) then members.map fun m => if m.1 == key then (key, value) else m
  else members ++ [(key, value)]

/-- Puts all members of `more`, in order. -/
def merge (members more : Members) : Members := more.foldl (fun ms m => insert ms m.1 m.2) members

end Members

namespace Json

/-- The member of an object under a key; any other value has none. -/
def get? : Json → String → Option Json
  | obj members, key => Members.get? members key
  | _, _ => none

/-- The member under a key, null when it is absent. -/
def getD (j : Json) (key : String) : Json := (j.get? key).getD null

/-- Whether a value is null. -/
def isNull : Json → Bool
  | null => true
  | _ => false

/-- Whether a value counts as given: not null, false, zero, or empty. -/
def truthy : Json → Bool
  | null => false
  | bool b => b
  | int n => n != 0
  | float x => x != 0.0
  | str s => s != ""
  | arr items => !items.isEmpty
  | obj members => !members.isEmpty

/-- The value if it counts as given, the other one if not. -/
def orElse (j other : Json) : Json := if j.truthy then j else other

/-- The text of a string value. -/
def text? : Json → Option String
  | str s => some s
  | _ => none

/-- An array of strings. -/
def strs (texts : List String) : Json := arr (texts.map str)

/-- The value of an option, null for nothing. -/
def ofOption {α : Type} (f : α → Json) : Option α → Json
  | some a => f a
  | none => null

/-- The name of the kind of a value, as messages give it. -/
def kindName : Json → String
  | null => "NoneType"
  | bool _ => "bool"
  | int _ => "int"
  | float _ => "float"
  | str _ => "str"
  | arr _ => "list"
  | obj _ => "dict"

/-- The integer that a value is; truth values are the numbers zero and one. -/
def whole? : Json → Option Int
  | bool b => some (if b then 1 else 0)
  | int n => some n
  | _ => none

/-- Whether a value can be a key: arrays and objects cannot. -/
def isKey : Json → Bool
  | arr _ => false
  | obj _ => false
  | _ => true

/-- The integer that a key is equal to. -/
def keyInt? : Json → Option Int
  | float x => (Numeral.Double.ofFloat x).toInt?
  | j => j.whole?

/-- Whether two values are one key.  Numbers are compared as numbers; the value that is no number is
the same key as itself. -/
def sameKey : Json → Json → Bool
  | null, null => true
  | str s, str t => s == t
  | float x, float y => x == y || (x.isNaN && y.isNaN)
  | a, b =>
    match a.keyInt?, b.keyInt? with
    | some m, some n => m == n
    | _, _ => false

end Json

end CodeAtlas
