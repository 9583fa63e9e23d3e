import CodeAtlas.Json.Basic
import CodeAtlas.Numeral.Reading
import CodeAtlas.Text.Utf8

/-!
# Reading JSON

A recursive-descent reader.  It accepts the words `NaN`, `Infinity` and `-Infinity` as floats, joins
the two halves of an escaped surrogate pair, keeps a half that stands alone, and lets the last of several
members with one key win, at the first one's place.  A byte-order mark, a raw control character in a string,
or anything after the value is an error, and so are an integer with more digits than
`Numeral.maxIntegerDigits` and arrays and objects that stand too deep in each other, for the depth that the
reader is given; the first error in the text is the answer, and it carries no position.

The reader works on the list of characters.  Every nested value starts with a character of its own, so
the length of the text bounds the depth, and that length is the fuel of `parse`.
-/

namespace CodeAtlas.Json

open CodeAtlas.Numeral

/-- Why a text is no JSON. -/
inductive ReadFault where
  | malformed
  | longInteger (digits : Nat)
  /-- arrays and objects stand too deep in each other -/
  | tooDeep
  deriving DecidableEq, Repr

/-- The blanks that may stand between tokens. -/
def isGap (c : Char) : Bool := c == ' ' || c == '\t' || c == '\n' || c == '\r'

/-- The rest of the text after the blanks. -/
def skipGap (cs : List Char) : List Char := cs.dropWhile isGap

/-- The rest of the text after a given word. -/
def afterWord? (word : String) (cs : List Char) : Option (List Char) :=
  if word.toList.isPrefixOf cs then some (cs.drop word.length) else none

/-- The value of a hexadecimal digit. -/
def hexValue? (c : Char) : Option Nat :=
  if '0' ≤ c ∧ c ≤ '9' then some (c.toNat - '0'.toNat)
  else if 'a' ≤ c ∧ c ≤ 'f' then some (c.toNat - 'a'.toNat + 10)
  else if 'A' ≤ c ∧ c ≤ 'F' then some (c.toNat - 'A'.toNat + 10)
  else none

/-- Four hexadecimal digits. -/
def hexUnit? : List Char → Option (Nat × List Char)
  | a :: b :: c :: d :: rest => do
    let a ← hexValue? a
    let b ← hexValue? b
    let c ← hexValue? c
    let d ← hexValue? d
    return (((a * 16 + b) * 16 + c) * 16 + d, rest)
  | _ => none

/-- The character after `\u`: one code unit, or a surrogate pair. -/
def unicodeEscape? (cs : List Char) : Option (Char × List Char) := do
  let (unit, rest) ← hexUnit? cs
  if 0xD800 ≤ unit ∧ unit ≤ 0xDBFF then
    match rest with
    | '\\' :: 'u' :: more =>
      match hexUnit? more with
      | some (low, rest') =>
        if 0xDC00 ≤ low ∧ low ≤ 0xDFFF then
          return (Char.ofNat (0x10000 + (unit - 0xD800) * 0x400 + (low - 0xDC00)), rest')
        else return (Text.half unit, rest)
      | none => return (Text.half unit, rest)
    | _ => return (Text.half unit, rest)
  else if 0xDC00 ≤ unit ∧ unit ≤ 0xDFFF then return (Text.half unit, rest)
  else return (Char.ofNat unit, rest)

/-- The character that an escape other than `\u` stands for. -/
def simpleEscape? : Char → Option Char
  | '"' => some '"'
  | '\\' => some '\\'
  | '/' => some '/'
  | 'b' => some (Char.ofNat 0x8)
  | 'f' => some (Char.ofNat 0xC)
  | 'n' => some '\n'
  | 'r' => some '\r'
  | 't' => some '\t'
  | _ => none

/-- The characters of a string after its opening quote, collected in reverse. -/
def stringTail? (fuel : Nat) (read : List Char) : List Char → Option (String × List Char)
  | [] => none
  | '"' :: rest => some (String.ofList read.reverse, rest)
  | '\\' :: 'u' :: rest =>
    match fuel with
    | 0 => none
    | fuel + 1 =>
      match unicodeEscape? rest with
      | some (c, rest') => stringTail? fuel (c :: read) rest'
      | none => none
  | '\\' :: e :: rest =>
    match fuel, simpleEscape? e with
    | fuel + 1, some c => stringTail? fuel (c :: read) rest
    | _, _ => none
  | c :: rest =>
    match fuel with
    | 0 => none
    | fuel + 1 => if c.toNat < 0x20 || c == '\\' then none else stringTail? fuel (c :: read) rest

/-- The digits of a number after its sign: a zero or a run that does not start with one. -/
def wholeDigits? (cs : List Char) : Option (List Char × List Char) :=
  match cs with
  | '0' :: rest => some (['0'], rest)
  | c :: _ => if c.isDigit then some (cs.takeWhile Char.isDigit, cs.dropWhile Char.isDigit) else none
  | [] => none

/-- A point with at least one digit; without one the point is not part of the number. -/
def fractionDigits (cs : List Char) : List Char × List Char :=
  match cs with
  | '.' :: d :: rest =>
    if d.isDigit then
      ('.' :: (d :: rest).takeWhile Char.isDigit, (d :: rest).dropWhile Char.isDigit)
    else ([], cs)
  | _ => ([], cs)

/-- An exponent with at least one digit; without one the letter is not part of the number. -/
def exponentDigits (cs : List Char) : List Char × List Char :=
  match cs with
  | e :: rest =>
    if e = 'e' ∨ e = 'E' then
      let (sign, digits) := match rest with
        | '-' :: more => (['-'], more)
        | '+' :: more => (['+'], more)
        | _ => ([], rest)
      let run := digits.takeWhile Char.isDigit
      if run.isEmpty then ([], cs) else (e :: sign ++ run, digits.dropWhile Char.isDigit)
    else ([], cs)
  | [] => ([], cs)

/-- An integer, unless it is too long. -/
def readInteger (sign whole : List Char) : Except ReadFault Json :=
  if maxIntegerDigits < whole.length then .error (.longInteger whole.length)
  else
    match plainInteger? (sign ++ whole) with
    | some n => .ok (int n)
    | none => .error .malformed

/-- A number.  With a fraction or an exponent it is a float, otherwise an integer. -/
def readNumber (cs : List Char) : Except ReadFault (Json × List Char) :=
  let (sign, body) := match cs with
    | '-' :: rest => (['-'], rest)
    | _ => ([], cs)
  match wholeDigits? body with
  | none => .error .malformed
  | some (whole, rest) =>
    let (fraction, rest) := fractionDigits rest
    let (exponent, rest) := exponentDigits rest
    if fraction.isEmpty && exponent.isEmpty then (readInteger sign whole).map (·, rest)
    else
      match plainDecimal? (sign ++ whole ++ fraction ++ exponent) with
      | some x => .ok (float x, rest)
      | none => .error .malformed

/-- A value that is a word. -/
def word? (cs : List Char) : Option (Json × List Char) :=
  ((afterWord? "null" cs).map (null, ·))
    <|> ((afterWord? "true" cs).map (bool true, ·))
    <|> ((afterWord? "false" cs).map (bool false, ·))
    <|> ((afterWord? "NaN" cs).map (float (0.0 / 0.0), ·))
    <|> ((afterWord? "Infinity" cs).map (float (1.0 / 0.0), ·))
    <|> ((afterWord? "-Infinity" cs).map (float (-1.0 / 0.0), ·))

mutual

/-- The value that starts here.  At most `depth` arrays and objects may stand in each other. -/
def readValue (fuel depth : Nat) (cs : List Char) : Except ReadFault (Json × List Char) :=
  match fuel with
  | 0 => .error .malformed
  | fuel + 1 =>
    match cs with
    | '"' :: rest =>
      match stringTail? rest.length [] rest with
      | some (s, rest) => .ok (str s, rest)
      | none => .error .malformed
    | '[' :: rest =>
      match depth with
      | 0 => .error .tooDeep
      | depth + 1 =>
        match skipGap rest with
        | ']' :: rest => .ok (arr [], rest)
        | rest => readItems fuel depth [] rest
    | '\x7b' :: rest =>
      match depth with
      | 0 => .error .tooDeep
      | depth + 1 =>
        match skipGap rest with
        | '\x7d' :: rest => .ok (obj [], rest)
        | rest => readMembers fuel depth [] rest
    | _ =>
      match word? cs with
      | some found => .ok found
      | none => readNumber cs

/-- The items of an array up to its closing bracket, at least one. -/
def readItems (fuel depth : Nat) (read : List Json) (cs : List Char) :
    Except ReadFault (Json × List Char) :=
  match fuel with
  | 0 => .error .malformed
  | fuel + 1 =>
    match readValue fuel depth cs with
    | .error f => .error f
    | .ok (j, rest) =>
      match skipGap rest with
      | ']' :: rest => .ok (arr (j :: read).reverse, rest)
      | ',' :: rest => readItems fuel depth (j :: read) (skipGap rest)
      | _ => .error .malformed

/-- The members of an object up to its closing brace, at least one. -/
def readMembers (fuel depth : Nat) (read : Members) (cs : List Char) :
    Except ReadFault (Json × List Char) :=
  match fuel with
  | 0 => .error .malformed
  | fuel + 1 =>
    match cs with
    | '"' :: rest =>
      match stringTail? rest.length [] rest with
      | none => .error .malformed
      | some (key, rest) =>
        match skipGap rest with
        | ':' :: rest =>
          match readValue fuel depth (skipGap rest) with
          | .error f => .error f
          | .ok (j, rest) =>
            match skipGap rest with
            | '\x7d' :: rest => .ok (obj (Members.insert read key j), rest)
            | ',' :: rest => readMembers fuel depth (Members.insert read key j) (skipGap rest)
            | _ => .error .malformed
        | _ => .error .malformed
    | _ => .error .malformed

end

/-- The value that a whole text denotes, if at most `depth` arrays and objects stand in each other. -/
def parse (s : String) (depth : Nat) : Except ReadFault Json :=
  let cs := s.toList
  match readValue (2 * cs.length + 1) depth (skipGap cs) with
  | .error f => .error f
  | .ok (j, rest) => if (skipGap rest).isEmpty then .ok j else .error .malformed

end CodeAtlas.Json
