import CodeAtlas.Numeral.Scalar
import CodeAtlas.Tally

/-!
# Similarity of two elements

Two code elements are alike when they share tags, lie close together, and have similar names.  The
score is a weighted mean of three parts, each between zero and one: half of it is the overlap of the
tags, three tenths the overlap of the directory segments, and a fifth the likeness of the names.

## Main definitions

* `editDistance`: the least number of insertions, deletions and substitutions.
* `overlap?`: shared members over all members of two lists, taken as sets.  What counts as the same member
  is what their type says.
* `tagSimilarity`, `pathSimilarity`, `nameSimilarity`: the three parts.
* `commonTags`: the shared tags, in order.
* `Traits.similarity`: the score.
-/

namespace CodeAtlas.Similarity

open Scalar

variable {α : Type} [Scalar α] {β : Type} [BEq β]

/-- Continues a row of the distance table: `left` is the entry just written, the row above starts with
the entry diagonally above. -/
def rowTail (c : Char) (left : Nat) : List Char → List Nat → List Nat
  | x :: xs, diagonal :: above :: rest =>
    let here := min (min (left + 1) (above + 1)) (diagonal + if c = x then 0 else 1)
    here :: rowTail c here xs (above :: rest)
  | _, _ => []

/-- The row below `row`, for one character more of the first text. -/
def nextRow (xs : List Char) (row : List Nat) (c : Char) : List Nat :=
  let first := row.headD 0 + 1
  first :: rowTail c first xs row

/-- The last row of the distance table of two texts: the distances of the first one to every front
part of the second. -/
def lastRow (a b : List Char) : List Nat := a.foldl (nextRow b) (List.range (b.length + 1))

/-- The least number of single-character insertions, deletions and substitutions that turn one text
into the other.  The rows of the table run along the shorter text. -/
def editDistance (a b : String) : Nat :=
  let row := if a.length < b.length then lastRow b.toList a.toList else lastRow a.toList b.toList
  row.getLast?.getD 0

/-- The number of distinct members of `xs` that are in `ys`. -/
def sharedCount (xs ys : List β) : Nat := ((distinct xs).filter ys.contains).length

/-- The number of distinct members of the two lists. -/
def unionCount (xs ys : List β) : Nat := (distinct (xs ++ ys)).length

/-- Shared members over all members; nothing when both lists are empty. -/
def overlap? (xs ys : List β) : Option α :=
  if unionCount xs ys = 0 then none else some (ratio (sharedCount xs ys) (unionCount xs ys))

/-- The overlap of two tag lists; lists without tags have none. -/
def tagSimilarity (xs ys : List β) : α := (overlap? xs ys).getD (ofNat 0)

/-- The overlap of two directories' segments; two root directories are the same place. -/
def pathSimilarity (xs ys : List β) : α := (overlap? xs ys).getD (ofNat 1)

/-- The part of the longer name that no edit touches; two empty names are the same. -/
def nameSimilarity (a b : String) : α :=
  let longer := max a.length b.length
  if longer = 0 then ofNat 1 else ratio (longer - editDistance a b) longer

/-- The tags of `ys` that are also in `xs`, each once, in the order of `ys`. -/
def commonTags (xs ys : List β) : List β := (distinct ys).filter xs.contains

/-- The weight of the tags in a score. -/
def tagWeight : α := ratio 1 2

/-- The weight of the place in a score. -/
def pathWeight : α := ratio 3 10

/-- The weight of the name in a score. -/
def nameWeight : α := ratio 1 5

/-- What the score looks at. -/
structure Traits where
  tags : List String
  directory : List String
  name : String

/-- The score of two elements. -/
def Traits.similarity (a b : Traits) : α :=
  tagWeight * tagSimilarity a.tags b.tags
    + pathWeight * pathSimilarity a.directory b.directory
    + nameWeight * nameSimilarity a.name b.name

end CodeAtlas.Similarity
