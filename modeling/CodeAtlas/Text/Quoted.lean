import CodeAtlas.Text.Printable
import CodeAtlas.Text.Utf8

/-!
# Quoted texts

The form in which a message shows a text: between single quotes, or between double quotes when the
text holds a single quote and no double one.  The chosen quote, the backslash, line breaks and tabs
are escaped, and so is every character that is not printable, by its code point.
-/

namespace CodeAtlas.Text

/-- The lower-case hexadecimal digits of a code point, padded with zeros. -/
def hexDigits (width n : Nat) : List Char :=
  let ds := Nat.toDigits 16 n
  List.replicate (width - ds.length) '0' ++ ds

/-- A character between quotes. -/
def quotedChar (mark c : Char) : List Char :=
  if c = mark ∨ c = '\\' then ['\\', c]
  else if c = '\n' then ['\\', 'n']
  else if c = '\r' then ['\\', 'r']
  else if c = '\t' then ['\\', 't']
  else if isPrintable c then [c]
  else if isHalf c then '\\' :: 'u' :: hexDigits 4 (unitOfHalf c)
  else if c.toNat < 0x100 then '\\' :: 'x' :: hexDigits 2 c.toNat
  else if c.toNat < 0x10000 then '\\' :: 'u' :: hexDigits 4 c.toNat
  else '\\' :: 'U' :: hexDigits 8 c.toNat

/-- The quote that stands around a text. -/
def quoteMark (cs : List Char) : Char :=
  if cs.contains '\'' && !cs.contains '"' then '"' else '\''

/-- The text between quotes. -/
def quoted (s : String) : String :=
  let mark := quoteMark s.toList
  String.ofList (mark :: s.toList.flatMap (quotedChar mark) ++ [mark])

end CodeAtlas.Text
