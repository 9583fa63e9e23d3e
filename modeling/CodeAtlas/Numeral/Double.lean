/-!
# Doubles, taken apart

A finite double is a sign and a dyadic number `mantissa · 2 ^ exponent`.  `Double.ofFloat` reads the
parts off the bits; `Double.nearest` goes the other way, from an exact quotient to the double closest
to it.  Both use natural-number arithmetic alone, so exact questions about a double (its integer part,
whether it equals an integer, its shortest decimal) need no rounding.

## Main definitions

* `Double`: the parts of a double.
* `Double.truncate?`: the integer part, where there is one.
* `Double.nearest`: the double nearest to `num / den`, a tie going to the even mantissa.
* `Double.ofInt`: the double nearest to an integer.
-/

namespace CodeAtlas.Numeral

/-- A power of two. -/
def pow2 (k : Nat) : Nat := Nat.pow 2 k

/-- A power of ten. -/
def pow10 (k : Nat) : Nat := Nat.pow 10 k

/-- The parts of a double.  A finite one is `± mantissa · 2 ^ exponent`. -/
inductive Double where
  | nan
  | infinite (negative : Bool)
  | finite (negative : Bool) (mantissa : Nat) (exponent : Int)
  deriving DecidableEq

namespace Double

/-- The least exponent of a double: the one of the subnormal numbers. -/
def minExponent : Int := -1074

/-- Reads the sign, the exponent field and the fraction field. -/
def ofBits (bits : Nat) : Double :=
  let negative := bits / pow2 63 % 2 == 1
  let field := bits / pow2 52 % pow2 11
  let fraction := bits % pow2 52
  if field = 2047 then
    if fraction = 0 then infinite negative else nan
  else if field = 0 then finite negative fraction minExponent
  else finite negative (pow2 52 + fraction) (minExponent + (field - 1 : Nat))

/-- The parts of a float. -/
def ofFloat (x : Float) : Double := ofBits x.toBits.toNat

/-- The integer part of a finite double, rounded toward zero. -/
def truncate? : Double → Option Int
  | finite negative m e =>
    let size : Nat := if 0 ≤ e then m * pow2 e.toNat else m / pow2 (-e).toNat
    some (if negative then -(size : Int) else size)
  | _ => none

/-- The integer that a double equals, if it equals one. -/
def toInt? : Double → Option Int
  | d@(finite _ m e) =>
    if 0 ≤ e ∨ m % pow2 (-e).toNat = 0 then d.truncate? else none
  | _ => none

/-- `num / (den · 2 ^ e)` as a quotient of natural numbers. -/
def scaled (num den : Nat) (e : Int) : Nat × Nat :=
  if 0 ≤ e then (num, den * pow2 e.toNat) else (num * pow2 (-e).toNat, den)

/-- `p / q` rounded to the nearest natural number, a tie going to the even one. -/
def roundEven (p q : Nat) : Nat :=
  let m := p / q
  let r := p % q
  if q < 2 * r ∨ (2 * r = q ∧ m % 2 = 1) then m + 1 else m

/-- The exponent at which `num / den` has a mantissa of 53 bits, or the least one. -/
def exponentOf (num den : Nat) : Int :=
  let e : Int := (num.log2 : Int) - den.log2 - 53
  let (p, q) := scaled num den e
  max (if pow2 53 ≤ p / q then e + 1 else e) minExponent

/-- The bits of the non-negative double nearest to `num / den`; infinity beyond the largest. -/
def nearestBits (num den : Nat) : Nat :=
  if num = 0 ∨ den = 0 then 0
  else
    let e := exponentOf num den
    let (p, q) := scaled num den e
    let m := roundEven p q
    let bits := if m < pow2 52 then m else (e - minExponent + 1).toNat * pow2 52 + (m - pow2 52)
    min bits (2047 * pow2 52)

/-- The double nearest to `± num / den`. -/
def nearest (negative : Bool) (num den : Nat) : Float :=
  Float.ofBits (UInt64.ofNat (nearestBits num den + if negative then pow2 63 else 0))

/-- The double nearest to an integer; infinite beyond the largest. -/
def ofInt (n : Int) : Float := nearest (n < 0) n.natAbs 1

end Double

end CodeAtlas.Numeral
