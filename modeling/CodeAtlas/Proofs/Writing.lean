import CodeAtlas.Json.Piece
import CodeAtlas.Proofs.Files
import Mathlib.Data.List.TakeDrop

/-!
# What is written of a value

A value is written piece by piece, up to a piece that cannot be encoded or is too deep, and a file takes what is
written as far as there is room.  Either way the front part of the value's text is left.

The pieces of a value come to its text (`Json.textOf_pieces`).  The induction is over the value, together with the
items and the members behind the first one, whose pieces come to their texts with a separator in front of each.  So
what is in front of any piece is the front part of the text (`Json.front_written`), and it is all of it if no piece
has a fault (`Json.Writable`).
-/

namespace CodeAtlas

namespace Json

/-- Texts with a separator in front of each. -/
def separated (level : Nat) (texts : List String) : String := String.join (texts.map (separator level ++ ·))

theorem separated_cons (level : Nat) (s : String) (texts : List String) :
    separated level (s :: texts) = separator level ++ s ++ separated level texts := String.join_cons

/-- Texts with separators between them are the first one, and the others with a separator in front of each. -/
theorem intercalate_separator (level : Nat) (s : String) (texts : List String) :
    (separator level).intercalate (s :: texts) = s ++ separated level texts := by
  induction texts generalizing s with
  | nil => rw [String.intercalate_singleton, separated, List.map_nil, String.join_nil, String.append_empty]
  | cons t rest ih => rw [String.intercalate_cons_cons, ih, separated_cons, String.append_assoc, String.append_assoc]

@[simp] theorem textOf_nil : textOf [] = "" := String.join_nil

@[simp] theorem textOf_cons (piece : Piece) (given : List Piece) :
    textOf (piece :: given) = piece.text ++ textOf given := String.join_cons

@[simp] theorem textOf_append (front back : List Piece) : textOf (front ++ back) = textOf front ++ textOf back := by
  rw [textOf, List.map_append, String.join_append, textOf, textOf]

mutual

/-- **The pieces of a value come to its text**, behind the text that stands in front of it.

An item or a member is one piece or many, by what it is, and the first piece has the separator and the opening bracket
in front.  So the statement is for any such lead, and for any depth that is left: the text of a value that is too deep
is one piece with a fault. -/
theorem textOf_pieces (depth level : Nat) (lead : String) (j : Json) :
    textOf (pieces depth level lead j) = lead ++ prettyAt level j := by
  match j, depth with
  | null, _ | bool _, _ | int _, _ | float _, _ | str _, _ =>
      simp [pieces, prettyAt, Piece.whole, Piece.quoted]
  | arr _, 0 | obj _, 0 => simp [pieces]
  | arr [], depth + 1 | obj [], depth + 1 => simp [pieces, prettyAt]
  | arr (j :: rest), depth + 1 =>
      have first := textOf_pieces depth (level + 1) ("[" ++ newline (level + 1)) j
      have others := textOf_itemPieces depth (level + 1) rest
      have list := intercalate_separator (level + 1) (prettyAt (level + 1) j) (prettyItems (level + 1) rest)
      rw [separator] at list
      simp [pieces, prettyAt, first, others, list, String.append_assoc]
  | obj ((key, j) :: rest), depth + 1 =>
      have first := textOf_pieces depth (level + 1) "" j
      have others := textOf_memberPieces depth (level + 1) rest
      have list := intercalate_separator (level + 1) (quote key ++ (": " ++ prettyAt (level + 1) j))
        (prettyMembers (level + 1) rest)
      rw [separator] at list
      simp [-String.intercalate_cons_append, pieces, prettyAt, Piece.quoted, first, others, list, String.append_assoc]

/-- The same for the items behind the first one, -/
theorem textOf_itemPieces (depth level : Nat) (items : List Json) :
    textOf (itemPieces depth level items) = separated level (prettyItems level items) := by
  match items with
  | [] => rfl
  | j :: rest =>
      rw [itemPieces, textOf_append, textOf_pieces depth level (separator level) j,
        textOf_itemPieces depth level rest, prettyItems, separated_cons]

/-- and for the members. -/
theorem textOf_memberPieces (depth level : Nat) (members : List (String × Json)) :
    textOf (memberPieces depth level members) = separated level (prettyMembers level members) := by
  match members with
  | [] => rfl
  | (key, j) :: rest =>
      have first := textOf_pieces depth level "" j
      have others := textOf_memberPieces depth level rest
      simp [memberPieces, prettyMembers, separated_cons, Piece.quoted, first, others, String.append_assoc]

end

/-- A piece that can be written. -/
def Piece.fine (piece : Piece) : Bool := piece.fault.isNone

variable {depth : Nat} {j : Json}

/-- What is written is the text of the pieces up to the first one with a fault. -/
theorem written_eq (depth : Nat) (j : Json) :
    j.written depth = (textOf ((j.pieces depth 0 "").takeWhile Piece.fine),
      ((j.pieces depth 0 "").dropWhile Piece.fine).head?.bind Piece.fault) := by
  rw [written, List.span_eq_takeWhile_dropWhile]
  rfl

/-- It makes up the text with what is not written. -/
theorem written_append (depth : Nat) (j : Json) :
    (j.written depth).1 ++ textOf ((j.pieces depth 0 "").dropWhile Piece.fine) = j.pretty := by
  rw [written_eq, ← textOf_append, List.takeWhile_append_dropWhile, textOf_pieces, String.empty_append, pretty]

/-- **What is written is the front part of the text**, whatever ends it: the pieces behind the first fault make up the
rest. -/
theorem front_written (depth : Nat) (j : Json) : Front (Text.encode (j.written depth).1) (Text.encode j.pretty) := by
  refine ⟨Text.encode (textOf ((j.pieces depth 0 "").dropWhile Piece.fine)), ?_⟩
  rw [← written_append depth j]
  exact String.toByteArray_append.symm

/-- **All of the text is written if every piece can be.**  A piece that is left out would be the first one with a fault,
and this fault would be the answer. -/
theorem Writable.written_eq (writable : j.Writable depth) : j.written depth = (j.pretty, none) := by
  have none_left : (j.pieces depth 0 "").dropWhile Piece.fine = [] := by
    rw [Writable, Json.written_eq] at writable
    cases left : (j.pieces depth 0 "").dropWhile Piece.fine with
    | nil => rfl
    | cons piece rest =>
        -- The first piece that is left has a fault, which would be the answer.
        have faulty := List.head_dropWhile_not Piece.fine (l := j.pieces depth 0 "") (by rw [left]; simp)
        simp_all [Piece.fine]
  have all := written_append depth j
  rw [none_left, textOf_nil, String.append_empty] at all
  exact Prod.ext all writable

end Json

end CodeAtlas
