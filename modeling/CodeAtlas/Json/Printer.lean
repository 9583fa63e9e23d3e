import CodeAtlas.Json.Basic
import CodeAtlas.Numeral.Shortest

/-!
# Writing JSON

Two forms of one value: `render` on one line, with `", "` and `": "` between the parts, and `pretty`
over several lines, each level indented by two blanks.  Characters stand for themselves, except the
quote, the backslash and the control characters.
-/

namespace CodeAtlas.Json

open CodeAtlas.Numeral

/-- Floats are positional from `0.0001` up to, not including, `10 ^ 16`. -/
def floatLayout : Layout where
  leastPositional := -4
  greatestPositional := 15
  exponentDigits := 2
  nan := "NaN"
  infinity := "Infinity"

/-- The four hexadecimal digits of a code unit. -/
def hexUnit (n : Nat) : List Char :=
  let ds := Nat.toDigits 16 n
  List.replicate (4 - ds.length) '0' ++ ds

/-- A character inside a quoted string. -/
def escapeChar (c : Char) : List Char :=
  if c = '"' then ['\\', '"']
  else if c = '\\' then ['\\', '\\']
  else if c = '\n' then ['\\', 'n']
  else if c = '\r' then ['\\', 'r']
  else if c = '\t' then ['\\', 't']
  else if c.toNat = 0x8 then ['\\', 'b']
  else if c.toNat = 0xC then ['\\', 'f']
  else if c.toNat < 0x20 then ['\\', 'u'] ++ hexUnit c.toNat
  else [c]

/-- A string between quotes. -/
def quote (s : String) : String := String.ofList (['"'] ++ s.toList.flatMap escapeChar ++ ['"'])

/-- A line break and the indent of a level. -/
def newline (level : Nat) : String := String.ofList ('\n' :: List.replicate (2 * level) ' ')

mutual

/-- The value on one line. -/
def render : Json → String
  | null => "null"
  | bool b => if b then "true" else "false"
  | int n => toString n
  | float x => floatLayout.render x
  | str s => quote s
  | arr items => "[" ++ ", ".intercalate (renderItems items) ++ "]"
  | obj members => "\x7b" ++ ", ".intercalate (renderMembers members) ++ "\x7d"

/-- Each item on one line. -/
def renderItems : List Json → List String
  | [] => []
  | j :: rest => render j :: renderItems rest

/-- Each member on one line. -/
def renderMembers : List (String × Json) → List String
  | [] => []
  | (k, j) :: rest => (quote k ++ ": " ++ render j) :: renderMembers rest

end

mutual

/-- The value over several lines, its first line at the given level. -/
def prettyAt (level : Nat) : Json → String
  | arr [] => "[]"
  | obj [] => "\x7b\x7d"
  | arr (j :: rest) =>
    "[" ++ newline (level + 1)
      ++ ("," ++ newline (level + 1)).intercalate (prettyAt (level + 1) j :: prettyItems (level + 1) rest)
      ++ newline level ++ "]"
  | obj ((k, j) :: rest) =>
    "\x7b" ++ newline (level + 1)
      ++ ("," ++ newline (level + 1)).intercalate
          ((quote k ++ ": " ++ prettyAt (level + 1) j) :: prettyMembers (level + 1) rest)
      ++ newline level ++ "\x7d"
  | null => "null"
  | bool b => if b then "true" else "false"
  | int n => toString n
  | float x => floatLayout.render x
  | str s => quote s

/-- Each item, its first line at the given level. -/
def prettyItems (level : Nat) : List Json → List String
  | [] => []
  | j :: rest => prettyAt level j :: prettyItems level rest

/-- Each member, its first line at the given level. -/
def prettyMembers (level : Nat) : List (String × Json) → List String
  | [] => []
  | (k, j) :: rest => (quote k ++ ": " ++ prettyAt level j) :: prettyMembers level rest

end

/-- The value over several lines. -/
def pretty (j : Json) : String := j.prettyAt 0

end CodeAtlas.Json
