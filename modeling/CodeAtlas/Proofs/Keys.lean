import CodeAtlas.Proofs.Records
import Mathlib

/-!
# Values as keys

Two values are one key when they are equal as texts or as numbers, and then an integer may be equal to a double or to
a truth value.  For it to make sense to keep the first one of each key, being one key has to be an equivalence.  It is
one because every key has a form of its own (`Json.keyForm`), in which what is equal to an integer is this integer:
two keys are one when their forms are (`Json.sameKey_iff`).

Behind this stands that no two doubles are equal to one integer but the two zeros.  The bits of a double determine
its mantissa and exponent, and there is one way only to write a number with them (`Normal.eq_of_value_eq`).

## Outline

Values that are compared as numbers are compared by the integers that they are equal to, if there are any
(`Json.sameKey_iff_of_keyInt?`), and by themselves otherwise.  So a form has to keep what the comparison sees: the
integer, or the text, or the double.  What makes this work for doubles is that a double which is an integer is the
only one but for zeros (`Double.eq_or_isZero_of_toInt?_eq_some`), and that one which is no integer is one key with
itself alone.
-/

namespace CodeAtlas

namespace Numeral

/-! ## Doubles that are integers -/

/-- A mantissa and an exponent as a finite double has them: the first bit of the mantissa is set unless the exponent
is the least one. -/
structure Normal (m : Nat) (e : Int) : Prop where
  /-- The mantissa has 53 bits at most. -/
  below : m < 2 ^ 53
  /-- There is a least exponent, -/
  least : Double.minExponent ≤ e
  /-- and above it the first bit of the mantissa is set. -/
  leading : e = Double.minExponent ∨ 2 ^ 52 ≤ m

/-- With a lower exponent the mantissa of a number would be twice as large at least. -/
theorem Normal.not_lt_of_value_eq {m m' : Nat} {e e' : Int} (h : Normal m e) (h' : Normal m' e')
    (same : (m : ℚ) * 2 ^ e = m' * 2 ^ e') : ¬ e < e' := by
  intro lt
  obtain ⟨k, rfl⟩ : ∃ k : Nat, e' = e + (k + 1 : Nat) := ⟨(e' - e - 1).toNat, by omega⟩
  have positive : (2 : ℚ) ^ e ≠ 0 := by positivity
  rw [zpow_add₀ two_ne_zero, zpow_natCast, mul_comm ((2 : ℚ) ^ e), ← mul_assoc] at same
  have mantissa : m = m' * 2 ^ (k + 1) := by exact_mod_cast mul_right_cancel₀ positive same
  have large : 2 ^ 52 ≤ m' := by
    refine h'.leading.resolve_left fun least => ?_
    have := h.least
    omega
  have two : 2 ≤ 2 ^ (k + 1) := Nat.le_self_pow (by omega) 2
  have twice := Nat.mul_le_mul large two
  have below := h.below
  omega

/-- **A number has one mantissa and one exponent.**  Of two exponents neither is lower than the other, and with one
exponent the mantissas are the same. -/
theorem Normal.eq_of_value_eq {m m' : Nat} {e e' : Int} (h : Normal m e) (h' : Normal m' e')
    (same : (m : ℚ) * 2 ^ e = m' * 2 ^ e') : m = m' ∧ e = e' := by
  obtain rfl : e = e' :=
    le_antisymm (not_lt.mp (h'.not_lt_of_value_eq h same.symm)) (not_lt.mp (h.not_lt_of_value_eq h' same))
  have positive : (2 : ℚ) ^ e ≠ 0 := by positivity
  exact ⟨by exact_mod_cast mul_right_cancel₀ positive same, rfl⟩

namespace Double

/-- The bits of a finite double, from its parts. -/
def bitsOf (negative : Bool) (m : Nat) (e : Int) : Nat :=
  (if negative then 2 ^ 63 else 0) + (if m < 2 ^ 52 then 0 else (e - minExponent + 1).toNat) * 2 ^ 52 + m % 2 ^ 52

/-- What the bits of a finite double are.  The exponent field is taken apart from the fraction, and is zero for
exactly the doubles without a first bit, which is the second case of `Normal`. -/
theorem ofBits_eq_finite {bits : Nat} {negative : Bool} {m : Nat} {e : Int} (below : bits < 2 ^ 64)
    (h : ofBits bits = .finite negative m e) : Normal m e ∧ bits = bitsOf negative m e := by
  -- The word is its sign, its exponent field and its fraction.
  have word : bits = bits / pow2 63 % 2 * 2 ^ 63 + bits / pow2 52 % pow2 11 * 2 ^ 52 + bits % pow2 52 := by
    simp only [pow2, Nat.pow_eq]
    omega
  have two : bits / pow2 63 % 2 < 2 := Nat.mod_lt _ (by decide)
  have narrow : bits % pow2 52 < 2 ^ 52 := Nat.mod_lt _ (by decide)
  unfold ofBits at h
  generalize bits / pow2 63 % 2 = sign at h word two
  generalize bits / pow2 52 % pow2 11 = field at h word
  generalize bits % pow2 52 = fraction at h word narrow
  by_cases special : field = 2047
  · rw [if_pos special] at h
    split at h <;> cases h
  rw [if_neg special] at h
  by_cases subnormal : field = 0
  · rw [if_pos subnormal] at h
    cases h
    refine ⟨⟨by omega, le_rfl, Or.inl rfl⟩, ?_⟩
    rw [bitsOf, if_pos narrow, Nat.mod_eq_of_lt narrow, word, subnormal]
    split_ifs with negative <;> simp only [beq_iff_eq] at negative <;> omega
  · rw [if_neg subnormal] at h
    cases h
    have leading : pow2 52 = 2 ^ 52 := rfl
    refine ⟨⟨by omega, by omega, Or.inr (by omega)⟩, ?_⟩
    have exponent : (minExponent + (field - 1 : Nat) - minExponent + 1).toNat = field := by omega
    have normal : ¬ pow2 52 + fraction < 2 ^ 52 := by omega
    rw [bitsOf, if_neg normal, exponent, word, leading]
    split_ifs with negative <;> simp only [beq_iff_eq] at negative <;> omega

/-- What a double asks before it is an integer. -/
theorem exists_value_eq {m : Nat} {e : Int} (whole : 0 ≤ e ∨ m % pow2 (-e).toNat = 0) :
    ∃ n : Nat, (m : ℚ) * 2 ^ e = n := by
  rcases le_or_gt 0 e with up | down
  · obtain ⟨k, rfl⟩ := Int.eq_ofNat_of_zero_le up
    exact ⟨m * 2 ^ k, by push_cast; rfl⟩
  · have divides := whole.resolve_left (by omega)
    obtain ⟨k, eq⟩ := Int.eq_ofNat_of_zero_le (a := -e) (by omega)
    obtain rfl : e = -(k : Int) := by omega
    rw [neg_neg, Int.toNat_natCast, pow2, Nat.pow_eq] at divides
    obtain ⟨n, rfl⟩ := Nat.dvd_of_mod_eq_zero divides
    refine ⟨n, ?_⟩
    rw [zpow_neg, zpow_natCast]
    push_cast
    field_simp

/-- A double that is an integer is one whose value is a natural number with a sign. -/
theorem toInt?_eq_some {d : Double} {k : Int} (h : d.toInt? = some k) :
    ∃ negative m e n, d = .finite negative m e ∧ (m : ℚ) * 2 ^ e = (n : Nat) ∧ k = signed negative n := by
  cases d with
  | nan => cases h
  | infinite negative => cases h
  | finite negative m e =>
      rw [toInt?] at h
      split at h
      · next whole =>
          obtain ⟨n, value⟩ := exists_value_eq whole
          rw [Json.truncate?_finite, value, Nat.floor_natCast, Option.some.injEq] at h
          exact ⟨negative, m, e, n, rfl, value, h.symm⟩
      · cases h

/-- The parts of a double determine it, as long as it is finite. -/
theorem eq_of_ofFloat_eq {x y : Float} {negative : Bool} {m : Nat} {e : Int}
    (hx : ofFloat x = .finite negative m e) (hy : ofFloat y = .finite negative m e) : x = y := by
  have bits := (ofBits_eq_finite x.toBits.toNat_lt hx).2.trans (ofBits_eq_finite y.toBits.toNat_lt hy).2.symm
  exact Float.toBits_inj.mp (UInt64.toNat_inj.mp bits)

/-- One of the two zeros. -/
def IsZero (x : Float) : Prop := x = 0 ∨ x = -0

/-- A double without a mantissa is a zero. -/
theorem isZero_of_ofFloat {x : Float} {negative : Bool} {e : Int} (h : ofFloat x = .finite negative 0 e) :
    IsZero x := by
  have least : e = minExponent :=
    (ofBits_eq_finite x.toBits.toNat_lt h).1.leading.resolve_right (by omega)
  subst least
  cases negative with
  | false => exact Or.inl (eq_of_ofFloat_eq h (by decide +kernel))
  | true => exact Or.inr (eq_of_ofFloat_eq h (by decide +kernel))

/-- **Doubles that are one integer are one double**, or zeros.  Their values have one mantissa and one exponent, and a
sign that the integer shows unless it is zero. -/
theorem eq_or_isZero_of_toInt?_eq_some {x y : Float} {k : Int} (hx : (ofFloat x).toInt? = some k)
    (hy : (ofFloat y).toInt? = some k) : x = y ∨ IsZero x ∧ IsZero y := by
  obtain ⟨negative, m, e, n, parts, value, signs⟩ := toInt?_eq_some hx
  obtain ⟨negative', m', e', n', parts', value', signs'⟩ := toInt?_eq_some hy
  have normal := (ofBits_eq_finite x.toBits.toNat_lt parts).1
  have normal' := (ofBits_eq_finite y.toBits.toNat_lt parts').1
  have same : n = n' ∧ (negative = negative' ∨ n = 0) := by
    cases negative <;> cases negative' <;> simp [signed] at signs signs' ⊢ <;> omega
  obtain ⟨rfl, rest⟩ := same
  obtain ⟨rfl, rfl⟩ := normal.eq_of_value_eq normal' (value.trans value'.symm)
  rcases rest with rfl | rfl
  · exact Or.inl (eq_of_ofFloat_eq parts parts')
  · have positive : (2 : ℚ) ^ e ≠ 0 := by positivity
    obtain rfl : m = 0 := by simpa [positive] using value
    exact Or.inr ⟨isZero_of_ofFloat parts, isZero_of_ofFloat parts'⟩

/-- The two zeros are the integer zero. -/
theorem toInt?_of_isZero {x : Float} (zero : IsZero x) : (ofFloat x).toInt? = some 0 := by
  rcases zero with rfl | rfl
  · decide +kernel
  · decide +kernel

end Double

end Numeral

namespace Json

open Numeral

/-! ## The form of a key -/

/-- The form of a key: the integer that it is equal to, and the key itself if there is none. -/
def keyForm (j : Json) : Json :=
  match j.keyInt? with
  | some n => .int n
  | none => j

/-- Doubles are one key when they are one double, or zeros. -/
theorem sameKey_float {x y : Float} :
    (float x).sameKey (float y) = true ↔ x = y ∨ Double.IsZero x ∧ Double.IsZero y := by
  have zero : (0 : Float) ≠ Float.nan := by simpa using (by decide +kernel : (0 : Float).isNaN = false)
  have negZero : (-0 : Float) ≠ Float.nan := by simpa using (by decide +kernel : (-0 : Float).isNaN = false)
  simp only [sameKey, Bool.or_eq_true, Bool.and_eq_true, Float.isNaN_eq_decide_eq_nan, decide_eq_true_eq,
    Float.beq_iff_ne_nan_and_eq, Double.IsZero]
  grind

/-- What is equal to an integer is one key with all that is equal to this integer. -/
theorem sameKey_iff_of_keyInt? {a b : Json} {n : Int} (h : a.keyInt? = some n) :
    a.sameKey b = true ↔ b.keyInt? = some n := by
  unfold sameKey
  split
  · cases h
  · cases h
  · next x y =>
      -- Only two doubles are compared in another way than by the integers.
      change (float x).sameKey (float y) = true ↔ _
      rw [sameKey_float]
      constructor
      · rintro (rfl | ⟨hx, hy⟩)
        · exact h
        · have zero := Double.toInt?_of_isZero hx
          rw [keyInt?, zero] at h
          rw [← h]
          exact Double.toInt?_of_isZero hy
      · exact Double.eq_or_isZero_of_toInt?_eq_some h
  · rw [h]
    cases b.keyInt? with
    | none => simp
    | some m => rw [beq_iff_eq, Option.some.injEq, eq_comm]

/-- What is equal to no integer is one key with itself only. -/
theorem sameKey_iff_of_keyInt?_eq_none {a b : Json} (h : a.keyInt? = none) :
    a.sameKey b = true ↔ a.isKey = true ∧ a = b := by
  cases a with
  | bool p => cases h
  | int n => cases h
  | float x =>
      cases b with
      | float y =>
          rw [sameKey_float]
          constructor
          · rintro (rfl | ⟨hx, -⟩)
            · exact ⟨rfl, rfl⟩
            · rw [keyInt?, Double.toInt?_of_isZero hx] at h
              cases h
          · rintro ⟨-, eq⟩
            exact Or.inl (Json.float.inj eq)
      | _ => simp [sameKey, h]
  | _ => cases b <;> simp [sameKey, isKey, keyInt?, whole?]

/-- What is equal to an integer is a key. -/
theorem isKey_of_keyInt? {j : Json} {n : Int} (h : j.keyInt? = some n) : j.isKey = true := by
  cases j <;> first | rfl | cases h

/-- **Two keys are one when their forms are.**  If one of them is equal to an integer, this is a matter of that
integer (`sameKey_iff_of_keyInt?`), and otherwise of the keys themselves. -/
theorem sameKey_iff {a b : Json} :
    a.sameKey b = true ↔ a.isKey = true ∧ b.isKey = true ∧ a.keyForm = b.keyForm := by
  unfold keyForm
  cases ha : a.keyInt? with
  | some n =>
      rw [sameKey_iff_of_keyInt? ha]
      cases hb : b.keyInt? with
      | some m => simp [isKey_of_keyInt? ha, isKey_of_keyInt? hb, eq_comm]
      | none =>
          simp only [reduceCtorEq, false_iff, not_and]
          rintro - - rfl
          cases hb
  | none =>
      rw [sameKey_iff_of_keyInt?_eq_none ha]
      cases hb : b.keyInt? with
      | some m =>
          constructor
          · rintro ⟨-, rfl⟩
            cases ha.symm.trans hb
          · rintro ⟨-, -, rfl⟩
            cases ha
      | none =>
          constructor
          · rintro ⟨key, rfl⟩
            exact ⟨key, key, rfl⟩
          · rintro ⟨key, -, eq⟩
            exact ⟨key, eq⟩

/-- So being one key is reflexive for keys, -/
theorem sameKey_self {a : Json} (key : a.isKey = true) : a.sameKey a = true := sameKey_iff.mpr ⟨key, key, rfl⟩

/-- and transitive. -/
theorem sameKey_trans {a b c : Json} (h : a.sameKey b = true) (h' : b.sameKey c = true) : a.sameKey c = true := by
  obtain ⟨key, -, form⟩ := sameKey_iff.mp h
  obtain ⟨-, key', form'⟩ := sameKey_iff.mp h'
  exact sameKey_iff.mpr ⟨key, key', form.trans form'⟩

end Json

end CodeAtlas
