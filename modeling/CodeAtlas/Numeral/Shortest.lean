import CodeAtlas.Numeral.Double

/-!
# Shortest decimals

The decimal text of a double is the one with the fewest digits that still reads back as the same
double, and among those the one nearest to it.  For one digit, two digits, and so on, the two
neighbours of the value on that decimal grid are tested against the interval of reals that round to
the double; the first grid with a hit wins.

How the digits are laid out (where positional writing ends, what an exponent looks like, the names of
the values that are not numbers) is not part of the search: it is a `Layout`.

## Main definitions

* `Decimal`: digits and the power of ten of the last one.
* `shortest`: the shortest decimal of a positive dyadic number.
* `Layout`, `Layout.render`: the text of a float.
-/

namespace CodeAtlas.Numeral

/-- A decimal: `digits · 10 ^ exponent`. -/
structure Decimal where
  digits : Nat
  exponent : Int
  deriving DecidableEq

/-- The number of decimal digits; zero has none. -/
def digitCount (n : Nat) : Nat := if n = 0 then 0 else (Nat.toDigits 10 n).length

/-- The power of ten of the leading digit of `num / den`. -/
def leadingPower (num den : Nat) : Int :=
  if den ≤ num then (digitCount (num / den) : Int) - 1
  else -(digitCount ((den - 1) / num) : Int)

/-- The interval of reals that round to `mantissa · 2 ^ exponent`, in quarters of the last binary
place; the ends belong to it exactly when the mantissa is even. -/
structure RoundingInterval where
  low : Nat
  high : Nat
  closed : Bool

/-- Below a power of two the neighbouring double is only half as far away. -/
def RoundingInterval.of (mantissa : Nat) (exponent : Int) : RoundingInterval where
  low := if mantissa = pow2 52 ∧ Double.minExponent < exponent then 4 * mantissa - 1
    else 4 * mantissa - 2
  high := 4 * mantissa + 2
  closed := mantissa % 2 = 0

/-- Whether the real `num / den` lies in the interval. -/
def RoundingInterval.contains (i : RoundingInterval) (num den : Nat) : Bool :=
  if i.closed then i.low * den ≤ num && num ≤ i.high * den
  else i.low * den < num && num < i.high * den

/-- The decimal with last digit at `10 ^ power` that is nearest to `mantissa · 2 ^ exponent`, among
the two neighbours on that grid that read back as it. -/
def onGrid? (mantissa : Nat) (exponent power : Int) : Option Decimal :=
  let interval := RoundingInterval.of mantissa exponent
  -- one step of the grid is `num / den` quarters of the last binary place
  let quarter := exponent - 2
  let num := (if 0 ≤ power then pow10 power.toNat else 1) * (if quarter < 0 then pow2 (-quarter).toNat else 1)
  let den := (if power < 0 then pow10 (-power).toNat else 1) * (if 0 ≤ quarter then pow2 quarter.toNat else 1)
  let below := 4 * mantissa * den / num
  let rest := 4 * mantissa * den % num
  let take (c : Nat) : Option Decimal :=
    if interval.contains (c * num) den then some ⟨c, power⟩ else none
  if 2 * rest < num ∨ (2 * rest = num ∧ below % 2 = 0) then
    take below <|> take (below + 1)
  else take (below + 1) <|> take below

/-- The shortest decimal of the positive number `mantissa · 2 ^ exponent`.  Seventeen digits always
suffice. -/
def shortest (mantissa : Nat) (exponent : Int) : Decimal :=
  let (num, den) := Double.scaled mantissa 1 (-exponent)
  let top := leadingPower num den
  ((List.range 17).findSome? fun (k : Nat) => onGrid? mantissa exponent (top - k)).getD ⟨mantissa, exponent⟩

/-- How a float is written. -/
structure Layout where
  /-- the least power of ten of a leading digit that is written positionally -/
  leastPositional : Int
  /-- the greatest one -/
  greatestPositional : Int
  /-- least number of digits of a written exponent -/
  exponentDigits : Nat
  nan : String
  infinity : String

/-- The digits without trailing zeros. -/
def trimZeros (ds : List Char) : List Char := (ds.reverse.dropWhile (· == '0')).reverse

/-- The text of a positive decimal: positional with a fraction of at least one digit, or one digit,
the rest as a fraction, and a signed exponent. -/
def Layout.decimal (layout : Layout) (d : Decimal) : String :=
  let all := Nat.toDigits 10 d.digits
  let power : Int := d.exponent + all.length - 1
  let ds := trimZeros all
  if layout.leastPositional ≤ power ∧ power ≤ layout.greatestPositional then
    if power < 0 then
      String.ofList (['0', '.'] ++ List.replicate (-power - 1).toNat '0' ++ ds)
    else
      let whole := power.toNat + 1
      let front := ds.take whole ++ List.replicate (whole - ds.length) '0'
      let back := ds.drop whole
      String.ofList (front ++ ['.'] ++ if back.isEmpty then ['0'] else back)
  else
    let exponent := Nat.toDigits 10 power.natAbs
    String.ofList <|
      ds.take 1 ++ (if ds.length ≤ 1 then [] else '.' :: ds.drop 1)
        ++ ['e', if power < 0 then '-' else '+']
        ++ List.replicate (layout.exponentDigits - exponent.length) '0' ++ exponent

/-- The text of a float. -/
def Layout.render (layout : Layout) (x : Float) : String :=
  match Double.ofFloat x with
  | .nan => layout.nan
  | .infinite negative => (if negative then "-" else "") ++ layout.infinity
  | .finite negative m e =>
    (if negative then "-" else "") ++ if m = 0 then "0.0" else layout.decimal (shortest m e)

end CodeAtlas.Numeral
