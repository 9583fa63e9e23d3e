import CodeAtlas.Text.Ranges

/-!
# White space

Two classes of white space are in use.

* `isBlank` is the Unicode property `White_Space`: what may stand around a numeral.
* `isSpacing` adds the four information separators `U+001C` to `U+001F`: what may stand between a
  called name and its opening parenthesis.

`trimBlank` drops blanks at both ends of a text.
-/

namespace CodeAtlas.Text

/-- The Unicode property `White_Space`. -/
def blankRanges : Ranges := [
  (0x9, 0xD), (0x20, 0x20), (0x85, 0x85), (0xA0, 0xA0), (0x1680, 0x1680), (0x2000, 0x200A),
  (0x2028, 0x2029), (0x202F, 0x202F), (0x205F, 0x205F), (0x3000, 0x3000)]

/-- White space in the sense of the Unicode property. -/
def isBlank (c : Char) : Bool := blankRanges.contains c

/-- White space, the information separators included. -/
def isSpacing (c : Char) : Bool := isBlank c || (0x1C ≤ c.toNat && c.toNat ≤ 0x1F)

/-- Drops the blanks at both ends. -/
def trimBlank (cs : List Char) : List Char :=
  ((cs.dropWhile isBlank).reverse.dropWhile isBlank).reverse

end CodeAtlas.Text
