import CodeAtlas.Numeral.Double
import CodeAtlas.Text.Blank
import CodeAtlas.Text.Digits

/-!
# Reading numerals

Three grammars share the same bodies.

* The plain body: an optional sign and ASCII digits, for a decimal also a point, an exponent, or one of
  the words `inf`, `infinity`, `nan` in any case.
* `integer?` and `decimal?` read a numeral as people write it: blanks around it, digits of any script,
  and single underscores between digits.
* `fieldInteger?` and `fieldDecimal?` read a configuration value: ASCII digits, and underscores unless
  one stands at an end or two stand together.  An integer is first read strictly, and only if that fails
  with what may surround or fill a numeral taken out: blanks, a sign, zeros in front, a fraction of zeros.

An integer numeral of any of them has at most `maxIntegerDigits` digits.
-/

namespace CodeAtlas.Numeral

open CodeAtlas.Text

/-- The natural number that ASCII digits denote. -/
def natOfDigits (cs : List Char) : Nat := cs.foldl (fun n c => 10 * n + (c.toNat - '0'.toNat)) 0

/-- Splits off the sign: whether it is a minus, and the rest. -/
def splitSign : List Char → Bool × List Char
  | '-' :: rest => (true, rest)
  | '+' :: rest => (false, rest)
  | cs => (false, cs)

/-- A number of a given size, below zero or not. -/
def signed (negative : Bool) (n : Nat) : Int := if negative then -(n : Int) else n

/-- A sign and at least one ASCII digit, nothing else. -/
def plainInteger? (cs : List Char) : Option Int :=
  let (negative, digits) := splitSign cs
  if digits.isEmpty || !digits.all Char.isDigit then none
  else some (signed negative (natOfDigits digits))

/-- The double nearest to `± digits · 10 ^ power`.  Beyond the range of doubles the power of ten is not
computed. -/
def scaledDouble (negative : Bool) (digits : Nat) (power : Int) : Float :=
  let size : Int := (Nat.toDigits 10 digits).length + power
  if digits = 0 ∨ size < -400 then Double.nearest negative 0 1
  else if 400 < size then Double.nearest negative (pow2 1025) 1
  else if 0 ≤ power then Double.nearest negative (digits * pow10 power.toNat) 1
  else Double.nearest negative digits (pow10 (-power).toNat)

/-- The exponent part: nothing, or `e` with an integer. -/
def exponentPart? : List Char → Option Int
  | [] => some 0
  | c :: rest => if c = 'e' ∨ c = 'E' then plainInteger? rest else none

/-- An unsigned decimal: digits, a point with digits, at least one digit in all, an exponent. -/
def plainMagnitude? (negative : Bool) (cs : List Char) : Option Float :=
  let whole := cs.takeWhile Char.isDigit
  let rest := cs.dropWhile Char.isDigit
  let (fraction, tail) := match rest with
    | '.' :: more => (more.takeWhile Char.isDigit, more.dropWhile Char.isDigit)
    | _ => ([], rest)
  if whole.isEmpty && fraction.isEmpty then none
  else
    (exponentPart? tail).map fun e =>
      scaledDouble negative (natOfDigits (whole ++ fraction)) (e - fraction.length)

/-- A sign and a decimal, or one of the words for infinity and for no number. -/
def plainDecimal? (cs : List Char) : Option Float :=
  let (negative, body) := splitSign cs
  let word := String.ofList (body.map Char.toLower)
  if word = "inf" ∨ word = "infinity" then some (Double.nearest negative (pow2 1025) 1)
  else if word = "nan" then some (0.0 / 0.0)
  else plainMagnitude? negative body

/-- The characters with the digits of every script as ASCII digits. -/
def foldDigits (cs : List Char) : List Char :=
  cs.map fun c => match digitValue? c with
    | some d => Char.ofNat ('0'.toNat + d)
    | none => c

/-- Drops the underscores that stand between two digits; any other underscore is an error. -/
def dropSeparators? (afterDigit : Bool) : List Char → Option (List Char)
  | [] => some []
  | '_' :: rest =>
    match afterDigit, rest with
    | true, d :: _ => if d.isDigit then dropSeparators? false rest else none
    | _, _ => none
  | c :: rest => (dropSeparators? c.isDigit rest).map (c :: ·)

/-- The characters of a written numeral, ready for the plain grammar. -/
def plainForm? (s : String) : Option (List Char) :=
  dropSeparators? false (foldDigits (trimBlank s.toList))

/-- The most digits that an integer numeral may have. -/
def maxIntegerDigits : Nat := 4300

/-- Why a text is no integer. -/
inductive IntegerFault where
  | malformed
  | tooLong (digits : Nat)
  deriving DecidableEq

/-- Whether two underscores stand together. -/
def hasDoubleUnderscore : List Char → Bool
  | '_' :: '_' :: _ => true
  | _ :: rest => hasDoubleUnderscore rest
  | [] => false

/-- The characters without underscores, provided none is at an end and no two stand together. -/
def dropUnderscores? (cs : List Char) : Option (List Char) :=
  if cs.head? = some '_' ∨ cs.getLast? = some '_' ∨ hasDoubleUnderscore cs then none
  else some (cs.filter (· != '_'))

/-- Whether a character belongs to a run of digits and underscores. -/
def isRun (c : Char) : Bool := c.isDigit || c == '_'

/-- Reads an integer as people write it.  The length of the run of digits is looked at before what
follows the run. -/
def integer? (s : String) : Except IntegerFault Int :=
  let (negative, body) := splitSign (foldDigits (trimBlank s.toList))
  match dropUnderscores? (body.takeWhile isRun) with
  | none => .error .malformed
  | some digits =>
    if maxIntegerDigits < digits.length then .error (.tooLong digits.length)
    else if digits.isEmpty || !(body.dropWhile isRun).isEmpty then .error .malformed
    else .ok (signed negative (natOfDigits digits))

/-- Reads a decimal as people write it. -/
def decimal? (s : String) : Option Float := (plainForm? s).bind plainDecimal?

/-- Reads an integer in its one strict form: a minus sign or none, and digits without a zero in front.  The
length of the run of digits is looked at before what follows the run. -/
def strictInteger? (cs : List Char) : Except IntegerFault Int :=
  let (negative, body) := match cs with
    | '-' :: rest => (true, rest)
    | _ => (false, cs)
  let digits := body.takeWhile Char.isDigit
  if digits.isEmpty || (digits.head? == some '0' && digits.length != 1) then .error .malformed
  else if maxIntegerDigits < digits.length then .error (.tooLong digits.length)
  else if !(body.dropWhile Char.isDigit).isEmpty then .error .malformed
  else .ok (signed negative (natOfDigits digits))

/-- What remains behind a zero when the zeros and underscores that follow it are passed over: the rest
from its first other digit or minus sign on, or the last character passed over, with the point and what
follows it if a point is next.  Nothing else may be next. -/
def afterZero? (last : Char) : List Char → Option (List Char)
  | [] => some [last]
  | c :: rest =>
    if c = '0' ∨ c = '_' then afterZero? c rest
    else if c.isDigit ∨ c = '-' then some (c :: rest)
    else if c = '.' then some (last :: c :: rest)
    else none

/-- The characters without the zeros in front.  They have to start with a digit. -/
def dropLeadingZeros? : List Char → Option (List Char)
  | [] => none
  | c :: rest =>
    if c = '0' then afterZero? c rest
    else if c.isDigit then some (c :: rest)
    else none

/-- The text before a point that is followed by at least one zero and by nothing but zeros. -/
def dropZeroFraction (cs : List Char) : List Char :=
  match cs.dropWhile (· != '.') with
  | '.' :: '0' :: zeros => if zeros.all (· == '0') then cs.takeWhile (· != '.') else cs
  | _ => cs

/-- The strict form of an integer that is written loosely. -/
def strictForm? (cs : List Char) : Option (List Char) := do
  let (negative, body) := splitSign (trimBlank cs)
  let digits ← dropUnderscores? (dropZeroFraction (← dropLeadingZeros? body))
  return if negative then '-' :: digits else digits

/-- Reads an integer configuration value.  Only the strict reading can fail for its length. -/
def fieldInteger? (s : String) : Except IntegerFault Int :=
  match strictInteger? s.toList with
  | .error .malformed =>
    match (strictForm? s.toList).map strictInteger? with
    | some (.ok n) => .ok n
    | _ => .error .malformed
  | result => result

/-- Reads a decimal configuration value.  Blanks may surround it or underscores fill it, but not both. -/
def fieldDecimal? (s : String) : Option Float :=
  plainDecimal? (trimBlank s.toList) <|> (dropUnderscores? s.toList).bind plainDecimal?

end CodeAtlas.Numeral
