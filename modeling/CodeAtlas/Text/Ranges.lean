/-!
# Sets of characters

A character class of a text standard is a list of closed ranges of code points.  The tables of this
folder are such lists; `Ranges.contains` asks whether a character belongs to one.
-/

namespace CodeAtlas.Text

/-- A set of code points: closed ranges in rising order. -/
abbrev Ranges := List (Nat × Nat)

/-- A character belongs to the set when its code point lies in one of the ranges. -/
def Ranges.contains (ranges : Ranges) (c : Char) : Bool :=
  ranges.any fun r => r.1 ≤ c.toNat && c.toNat ≤ r.2

end CodeAtlas.Text
