/-!
# Bytes as text

A file holds bytes.  `decode?` reads them as UTF-8 and refuses anything else; `decodeLenient` drops the
bytes that belong to no well-formed sequence and reads the rest, which is enough to count lines.

An escape in a file may stand for half of a surrogate pair, without the other half.  There is no character
for it and there are no bytes, so that a text with a half in it can be read and compared, but not encoded.
Here the last 2048 characters of the private use area stand for the halves; no file is taken to have
one of them in it.
-/

namespace CodeAtlas.Text

/-- The first code unit that is half of a surrogate pair. -/
def firstHalf : Nat := 0xD800

/-- The first of the characters that stand for halves. -/
def firstStandIn : Nat := 0x10F800

/-- The character that stands for half of a surrogate pair. -/
def half (unit : Nat) : Char := Char.ofNat (firstStandIn + (unit - firstHalf))

/-- Whether a character stands for half of a surrogate pair. -/
def isHalf (c : Char) : Bool := firstStandIn ≤ c.toNat

/-- The code unit of a character that stands for half of a surrogate pair. -/
def unitOfHalf (c : Char) : Nat := firstHalf + (c.toNat - firstStandIn)

/-- Whether a half stands for a byte, in the name of a file that is not UTF-8. -/
def standsForByte (c : Char) : Bool := 0xDC80 ≤ unitOfHalf c && unitOfHalf c ≤ 0xDCFF

/-- Whether a text can be encoded. -/
def isEncodable (s : String) : Bool := s.toList.all fun c => !isHalf c

/-- The text that the bytes encode, if they are well formed. -/
def decode? (bytes : ByteArray) : Option String := String.fromUTF8? bytes

/-- The bytes of a text that can be encoded. -/
def encode (s : String) : ByteArray := s.toUTF8

/-- The six bits of a continuation byte. -/
def continuation? (b : UInt8) : Option Nat :=
  if 0x80 ≤ b ∧ b ≤ 0xBF then some (b.toNat - 0x80) else none

/-- The code point that starts here and the number of bytes after the first one. -/
def sequence? (b : UInt8) (rest : List UInt8) : Option (Nat × Nat) :=
  let n := b.toNat
  if n < 0x80 then some (n, 0)
  else if n < 0xC2 then none
  else if n < 0xE0 then
    match rest with
    | b₁ :: _ => (continuation? b₁).map fun x => ((n - 0xC0) * 0x40 + x, 1)
    | [] => none
  else if n < 0xF0 then
    match rest with
    | b₁ :: b₂ :: _ => do
      let x ← continuation? b₁
      let y ← continuation? b₂
      let c := ((n - 0xE0) * 0x40 + x) * 0x40 + y
      if c < 0x800 ∨ (0xD800 ≤ c ∧ c ≤ 0xDFFF) then none else some (c, 2)
    | _ => none
  else if n < 0xF5 then
    match rest with
    | b₁ :: b₂ :: b₃ :: _ => do
      let x ← continuation? b₁
      let y ← continuation? b₂
      let z ← continuation? b₃
      let c := (((n - 0xF0) * 0x40 + x) * 0x40 + y) * 0x40 + z
      if c < 0x10000 ∨ 0x10FFFF < c then none else some (c, 3)
    | _ => none
  else none

/-- The characters of the well-formed sequences; other bytes are dropped. -/
def decodeLenient : List UInt8 → List Char
  | [] => []
  | b :: rest =>
    match sequence? b rest with
    | some (c, k) => Char.ofNat c :: decodeLenient (rest.drop k)
    | none => decodeLenient rest
termination_by bytes => bytes.length
decreasing_by
  · simp only [List.length_drop, List.length_cons]; omega
  · simp

/-- The number of line ends; a carriage return and the line feed after it are one. -/
def lineEnds : List Char → Nat
  | [] => 0
  | '\r' :: '\n' :: rest => lineEnds rest + 1
  | c :: rest => lineEnds rest + if c = '\n' ∨ c = '\r' then 1 else 0

end CodeAtlas.Text
