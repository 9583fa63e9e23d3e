import CodeAtlas.Json.Printer
import CodeAtlas.Numeral.Reading
import CodeAtlas.Text.Utf8

/-!
# Writing JSON piece by piece

A value goes into a file piece by piece: brackets, line breaks, keys, colons and scalars one after the other,
where a scalar in an array takes along what stands in front of it.  A piece may have no bytes, and then
writing ends: a text with half of a surrogate pair in it, an integer with more digits than
`Numeral.maxIntegerDigits`, or an array or object that stands too deep in others.  What is in front of it has
been written by then.

## Main definitions

* `WriteFault`: why a piece cannot be written.
* `Json.pieces`: the pieces of a value, each with the text that it stands for.
* `Json.written`: the text of the pieces in front of the first one that cannot be written.
* `Json.Writable`: all pieces of a value can be written.
-/

namespace CodeAtlas

/-- Why a value cannot be written. -/
inductive WriteFault where
  /-- half of a surrogate pair stands in a text -/
  | half
  /-- an integer has too many digits -/
  | longInteger
  /-- arrays and objects stand too deep in each other -/
  | tooDeep
  deriving DecidableEq, Repr

namespace Json

/-- A part of the text of a value, and why it cannot be written, if it cannot. -/
structure Piece where
  text : String
  fault : Option WriteFault := none

namespace Piece

/-- A text between quotes, behind some text. -/
def quoted (lead s : String) : Piece :=
  ⟨lead ++ quote s, if Text.isEncodable s then none else some .half⟩

/-- An integer behind some text. -/
def whole (lead : String) (n : Int) : Piece :=
  ⟨lead ++ toString n,
    if (toString n.natAbs).length ≤ Numeral.maxIntegerDigits then none else some .longInteger⟩

end Piece

/-- What stands between two items or members of a level. -/
def separator (level : Nat) : String := "," ++ newline level

mutual

/-- The pieces of a value whose first line is at the given level, behind some text.  At most `depth` arrays
and objects may stand in each other. -/
def pieces (depth level : Nat) (lead : String) : Json → List Piece
  | null => [⟨lead ++ "null", none⟩]
  | bool b => [⟨lead ++ if b then "true" else "false", none⟩]
  | int n => [.whole lead n]
  | float x => [⟨lead ++ floatLayout.render x, none⟩]
  | str s => [.quoted lead s]
  | arr items =>
    match depth with
    | 0 => [⟨lead, none⟩, ⟨prettyAt level (arr items), some .tooDeep⟩]
    | depth + 1 => ⟨lead, none⟩ :: (match items with
      | [] => [⟨"[]", none⟩]
      | j :: rest =>
        pieces depth (level + 1) ("[" ++ newline (level + 1)) j ++ itemPieces depth (level + 1) rest
          ++ [⟨newline level, none⟩, ⟨"]", none⟩])
  | obj members =>
    match depth with
    | 0 => [⟨lead, none⟩, ⟨prettyAt level (obj members), some .tooDeep⟩]
    | depth + 1 => ⟨lead, none⟩ :: (match members with
      | [] => [⟨"\x7b\x7d", none⟩]
      | (key, j) :: rest =>
        ⟨"\x7b", none⟩ :: ⟨newline (level + 1), none⟩ :: .quoted "" key :: ⟨": ", none⟩
          :: pieces depth (level + 1) "" j ++ memberPieces depth (level + 1) rest
          ++ [⟨newline level, none⟩, ⟨"\x7d", none⟩])

/-- The pieces of the items behind the first one. -/
def itemPieces (depth level : Nat) : List Json → List Piece
  | [] => []
  | j :: rest => pieces depth level (separator level) j ++ itemPieces depth level rest

/-- The pieces of the members behind the first one. -/
def memberPieces (depth level : Nat) : List (String × Json) → List Piece
  | [] => []
  | (key, j) :: rest =>
    ⟨separator level, none⟩ :: .quoted "" key :: ⟨": ", none⟩ :: pieces depth level "" j
      ++ memberPieces depth level rest

end

/-- The text of some pieces. -/
def textOf (given : List Piece) : String := String.join (given.map Piece.text)

/-- What is written of a value, and why it is not all of it, if it is not. -/
def written (depth : Nat) (j : Json) : String × Option WriteFault :=
  let (front, rest) := (j.pieces depth 0 "").span fun piece => piece.fault.isNone
  (textOf front, rest.head?.bind Piece.fault)

/-- A value can be written. -/
def Writable (depth : Nat) (j : Json) : Prop := (j.written depth).2 = none

instance (depth : Nat) (j : Json) : Decidable (j.Writable depth) := inferInstanceAs (Decidable (_ = none))

end Json

end CodeAtlas
