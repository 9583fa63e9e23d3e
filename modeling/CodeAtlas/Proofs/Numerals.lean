import CodeAtlas.Numeral.Reading
import Mathlib.Data.List.Basic
import Mathlib.Data.List.TakeWhile
import Mathlib.Data.Nat.Digits.Defs

/-!
# Which texts are integer numerals

An integer numeral has blanks around it, a sign or none, and digits of any script, between which single underscores
may stand (`Numeral.IsInteger`).  It denotes what its digits denote in decimal.

A numeral is read in other terms: the blanks are trimmed, all digits are turned into those of one script, and the
underscores are looked for at the ends and in pairs.  `Numeral.integer?_eq_ok_iff` says that the texts that can be read
are the numerals that are not too long, and that they are read as the numbers that they denote.

## Outline

The program does four things to a text: it trims blanks, folds the digits of all scripts to those of one, takes the
sign off, and drops underscores.  Each of these has lemmas in both directions, from a text to the parts of a numeral
and back, and the parts are put together at the end.  The recursion of a numeral is in its digits and underscores
(`exists_digits`, `Digits.folded`); folding commutes with taking the sign off because it changes nothing but digits.
-/

namespace CodeAtlas.Numeral

open CodeAtlas.Text

/-- Digits of any script, single underscores between some of them, and their values in order. -/
inductive Digits : List Char → List Nat → Prop
  | last {c : Char} {d : Nat} (digit : digitValue? c = some d) : Digits [c] [d]
  | cons {c : Char} {d : Nat} {cs : List Char} {ds : List Nat} (digit : digitValue? c = some d)
      (more : Digits cs ds) : Digits (c :: cs) (d :: ds)
  | separated {c : Char} {d : Nat} {cs : List Char} {ds : List Nat} (digit : digitValue? c = some d)
      (more : Digits cs ds) : Digits (c :: '_' :: cs) (d :: ds)

/-- A sign or none, and whether it is a minus. -/
inductive Sign : List Char → Bool → Prop
  | none : Sign [] false
  | plus : Sign ['+'] false
  | minus : Sign ['-'] true

/-- A text is an integer numeral with some digits, below zero or not.  This says what a numeral looks like, and
nothing of how it is read; a plus is a sign like a minus, and blanks may only stand outside. -/
def IsInteger (s : String) (negative : Bool) (ds : List Nat) : Prop :=
  ∃ front sign body back, s.toList = front ++ ((sign ++ body) ++ back) ∧ (∀ c ∈ front, isBlank c = true) ∧
    (∀ c ∈ back, isBlank c = true) ∧ Sign sign negative ∧ Digits body ds

/-- The number that decimal digits denote, the greatest power first. -/
def valueOf (ds : List Nat) : Nat := Nat.ofDigits 10 ds.reverse

/-! ## Characters -/

/-- A digit stands behind the zero of its script by its value, which is nine at most. -/
theorem exists_zero_of_digitValue? {c : Char} {d : Nat} (h : digitValue? c = some d) :
    ∃ z ∈ digitZeros, c.toNat = z + d ∧ d ≤ 9 := by
  obtain ⟨z, found, rfl⟩ := Option.map_eq_some_iff.mp h
  have near := List.find?_some found
  simp only [Bool.and_eq_true, decide_eq_true_eq] at near
  exact ⟨z, List.mem_of_find?_eq_some found, by omega, by omega⟩

/-- In particular its value is that of a decimal digit. -/
theorem value_le_of_digitValue? {c : Char} {d : Nat} (h : digitValue? c = some d) : d ≤ 9 :=
  let ⟨_, _, _, small⟩ := exists_zero_of_digitValue? h
  small

/-- No digit is a blank: the runs of digits and those of blanks lie apart. -/
theorem isBlank_of_digitValue? {c : Char} {d : Nat} (h : digitValue? c = some d) : isBlank c = false := by
  obtain ⟨z, mem, at_, small⟩ := exists_zero_of_digitValue? h
  have apart : ∀ z ∈ digitZeros, ∀ r ∈ blankRanges, z + 9 < r.1 ∨ r.2 < z := by decide
  rw [isBlank, Ranges.contains, List.any_eq_false]
  intro r hr
  have := apart z mem r hr
  simp only [Bool.and_eq_true, decide_eq_true_eq]
  omega

/-- The digit of one script in place of a digit of another one. -/
def digitChar (d : Nat) : Char := Char.ofNat ('0'.toNat + d)

/-- A character with the digits of every script as ASCII digits. -/
def foldDigit (c : Char) : Char :=
  match digitValue? c with
  | some d => digitChar d
  | none => c

/-- Folding the digits of a text goes by character. -/
theorem foldDigits_eq (cs : List Char) : foldDigits cs = cs.map foldDigit := rfl

/-- It begins with the first character. -/
theorem foldDigits_cons (c : Char) (cs : List Char) : foldDigits (c :: cs) = foldDigit c :: foldDigits cs := rfl

/-- The digits of this script stand in a row, -/
theorem toNat_digitChar {d : Nat} (h : d ≤ 9) : (digitChar d).toNat = '0'.toNat + d := by
  have all : ∀ d ≤ 9, (digitChar d).toNat = '0'.toNat + d := by decide
  exact all d h

/-- and are digits. -/
theorem isDigit_digitChar {d : Nat} (h : d ≤ 9) : (digitChar d).isDigit = true := by
  have all : ∀ d ≤ 9, (digitChar d).isDigit = true := by decide
  exact all d h

/-- A digit of this script has a value. -/
theorem exists_digitValue?_of_isDigit {c : Char} (h : c.isDigit = true) : ∃ d, digitValue? c = some d := by
  have first := isDigit_iff.mp h
  exact ⟨c.toNat - 0x30, by simp [digitValue?, digitZeros, first]⟩

/-- A digit of any script is turned into the one of its value, -/
theorem foldDigit_of_digitValue? {c : Char} {d : Nat} (h : digitValue? c = some d) : foldDigit c = digitChar d := by
  rw [foldDigit, h]

/-- which is a digit of this script. -/
theorem isDigit_foldDigit {c : Char} {d : Nat} (h : digitValue? c = some d) : (foldDigit c).isDigit = true := by
  rw [foldDigit_of_digitValue? h]
  exact isDigit_digitChar (value_le_of_digitValue? h)

/-- What is no digit stands for itself, and nothing else is turned into it. -/
theorem foldDigit_eq_iff {c x : Char} (other : digitValue? x = none) : foldDigit c = x ↔ c = x := by
  cases value : digitValue? c with
  | some d =>
      constructor
      · intro eq
        obtain ⟨d', same⟩ := exists_digitValue?_of_isDigit (isDigit_foldDigit value)
        rw [eq, other] at same
        cases same
      · rintro rfl
        rw [other] at value
        cases value
  | none => simp [foldDigit, value]

/-- Underscores stand for themselves, -/
@[simp] theorem foldDigit_underscore : foldDigit '_' = '_' := (foldDigit_eq_iff (by decide)).mpr rfl

/-- and no digit becomes one. -/
theorem foldDigit_ne_underscore {c : Char} {d : Nat} (h : digitValue? c = some d) : foldDigit c ≠ '_' := by
  intro eq
  have digit := isDigit_foldDigit h
  rw [eq] at digit
  cases digit

/-- What has become a digit was one. -/
theorem exists_digitValue?_of_isDigit_foldDigit {c : Char} (h : (foldDigit c).isDigit = true) :
    ∃ d, digitValue? c = some d := by
  cases value : digitValue? c with
  | some d => exact ⟨d, rfl⟩
  | none =>
      obtain ⟨d, same⟩ := exists_digitValue?_of_isDigit h
      rw [foldDigit, value] at same
      exact absurd same (by simp [value])

/-! ## Underscores -/

/-- Underscores stand one by one, and none at an end. -/
structure Separated (cs : List Char) : Prop where
  head : cs.head? ≠ some '_'
  last : cs.getLast? ≠ some '_'
  /-- No two of them stand side by side. -/
  single : hasDoubleUnderscore cs = false

/-- Underscores can be dropped where they are separated. -/
theorem dropUnderscores?_eq_some_iff {cs plain : List Char} :
    dropUnderscores? cs = some plain ↔ Separated cs ∧ cs.filter (· != '_') = plain := by
  unfold dropUnderscores?
  split
  · next found =>
      simp only [reduceCtorEq, false_iff, not_and]
      rintro ⟨head, last, single⟩
      simp [head, last, single] at found
  · next free =>
      simp only [not_or, Bool.not_eq_true] at free
      obtain ⟨head, last, single⟩ := free
      simp [Separated.mk head last single]

/-- Another character in front makes no pair of underscores. -/
theorem hasDoubleUnderscore_cons {c : Char} (ne : c ≠ '_') (cs : List Char) :
    hasDoubleUnderscore (c :: cs) = hasDoubleUnderscore cs := by
  rw [hasDoubleUnderscore]
  rintro rest rfl
  exact absurd rfl ne

/-- Nothing is separated, -/
theorem Separated.nil : Separated [] := ⟨by simp, by simp, rfl⟩

/-- and stays so behind another character, -/
theorem Separated.cons {c : Char} {cs : List Char} (ne : c ≠ '_') (h : Separated cs) : Separated (c :: cs) where
  head := by simpa using ne
  last := by
    cases cs with
    | nil => simpa using ne
    | cons d rest => simpa using h.last
  single := (hasDoubleUnderscore_cons ne cs).trans h.single

/-- or behind another character and an underscore, if it goes on. -/
theorem Separated.underscore {c : Char} {cs : List Char} (ne : c ≠ '_') (h : Separated cs) (more : cs ≠ []) :
    Separated (c :: '_' :: cs) := by
  obtain ⟨d, rest, rfl⟩ := List.exists_cons_of_ne_nil more
  have second : d ≠ '_' := by simpa using h.head
  refine ⟨by simpa using ne, by simpa using h.last, ?_⟩
  rw [hasDoubleUnderscore_cons ne, hasDoubleUnderscore]
  · exact h.single
  · rintro rest - eq
    exact second (List.cons.inj eq).1

/-- What stands behind the first character is separated too, -/
theorem Separated.tail {c d : Char} {cs : List Char} (h : Separated (c :: d :: cs)) (ne : d ≠ '_') :
    Separated (d :: cs) where
  head := by simpa using ne
  last := by simpa using h.last
  single := by
    have first : c ≠ '_' := by simpa using h.head
    exact (hasDoubleUnderscore_cons first _).symm.trans h.single

/-- and so is what stands behind an underscore, which is something. -/
theorem Separated.behind {c : Char} {cs : List Char} (h : Separated (c :: '_' :: cs)) : Separated cs ∧ cs ≠ [] := by
  have first : c ≠ '_' := by simpa using h.head
  have single := h.single
  rw [hasDoubleUnderscore_cons first] at single
  have ne : cs ≠ [] := by
    rintro rfl
    exact h.last rfl
  obtain ⟨d, rest, rfl⟩ := List.exists_cons_of_ne_nil ne
  have second : d ≠ '_' := by
    rintro rfl
    cases single
  refine ⟨⟨by simpa using second, by simpa using h.last, ?_⟩, ne⟩
  rw [hasDoubleUnderscore] at single
  · exact single
  · rintro more - eq
    exact second (List.cons.inj eq).1

/-- **Digits and separated underscores are digits with single underscores between them.**  By recursion over the text,
where behind a digit stands the end, another digit, or an underscore with a digit behind it. -/
theorem exists_digits : ∀ {cs : List Char}, (∀ c ∈ foldDigits cs, isRun c = true) → Separated (foldDigits cs) →
    cs ≠ [] → ∃ ds, Digits cs ds
  | [], _, _, ne => absurd rfl ne
  | c :: cs, run, separated, _ => by
    have first : foldDigit c ≠ '_' := by simpa [foldDigits_eq] using separated.head
    obtain ⟨d, digit⟩ : ∃ d, digitValue? c = some d := by
      have := run (foldDigit c) (by simp [foldDigits_eq])
      exact exists_digitValue?_of_isDigit_foldDigit (by simpa [isRun, first] using this)
    have rest : ∀ x ∈ foldDigits cs, isRun x = true := fun x mem => run x (List.mem_cons_of_mem _ mem)
    match cs with
    | [] => exact ⟨[d], .last digit⟩
    | e :: more =>
        by_cases underscore : e = '_'
        · subst underscore
          rw [foldDigits_cons, foldDigits_cons, foldDigit_underscore] at separated
          obtain ⟨behind, ne⟩ := separated.behind
          obtain ⟨ds, digits⟩ := exists_digits (fun x mem => rest x (List.mem_cons_of_mem _ mem)) behind
            (by simpa [foldDigits_eq] using ne)
          exact ⟨d :: ds, .separated digit digits⟩
        · have second : foldDigit e ≠ '_' := fun eq => underscore ((foldDigit_eq_iff (by decide)).mp eq)
          obtain ⟨ds, digits⟩ := exists_digits rest (separated.tail second) (List.cons_ne_nil _ _)
          exact ⟨d :: ds, .cons digit digits⟩

/-- Digits are something, -/
theorem Digits.ne_nil {cs : List Char} {ds : List Nat} (h : Digits cs ds) : cs ≠ [] := by
  cases h <;> exact List.cons_ne_nil _ _

/-- each of decimal value. -/
theorem Digits.value_le {cs : List Char} {ds : List Nat} (h : Digits cs ds) : ∀ d ∈ ds, d ≤ 9 := by
  induction h with
  | last digit => simpa using value_le_of_digitValue? digit
  | cons digit _ ih => exact List.forall_mem_cons.mpr ⟨value_le_of_digitValue? digit, ih⟩
  | separated digit _ ih => exact List.forall_mem_cons.mpr ⟨value_le_of_digitValue? digit, ih⟩

/-- **Digits with single underscores between them are digits and separated underscores**, and dropping these leaves
one digit for each. -/
theorem Digits.folded {cs : List Char} {ds : List Nat} (h : Digits cs ds) :
    (∀ c ∈ foldDigits cs, isRun c = true) ∧ Separated (foldDigits cs) ∧
      (foldDigits cs).filter (· != '_') = ds.map digitChar := by
  induction h with
  | @last c d digit =>
      have ne := foldDigit_ne_underscore digit
      refine ⟨?_, Separated.nil.cons ne, ?_⟩
      · simp [foldDigits_eq, isRun, isDigit_foldDigit digit]
      · rw [foldDigits_cons, List.filter_cons_of_pos (by simpa using ne), foldDigit_of_digitValue? digit]
        rfl
  | @cons c d cs ds digit more ih =>
      obtain ⟨run, separated, plain⟩ := ih
      have ne := foldDigit_ne_underscore digit
      rw [foldDigits_cons]
      refine ⟨?_, separated.cons ne, ?_⟩
      · exact List.forall_mem_cons.mpr ⟨by simp [isRun, isDigit_foldDigit digit], run⟩
      · rw [List.filter_cons_of_pos (by simpa using ne), plain, List.map_cons, foldDigit_of_digitValue? digit]
  | @separated c d cs ds digit more ih =>
      obtain ⟨run, separated, plain⟩ := ih
      have ne := foldDigit_ne_underscore digit
      have something : foldDigits cs ≠ [] := by
        simpa [foldDigits_eq] using more.ne_nil
      rw [foldDigits_cons, foldDigits_cons, foldDigit_underscore]
      refine ⟨?_, separated.underscore ne something, ?_⟩
      · exact List.forall_mem_cons.mpr ⟨by simp [isRun, isDigit_foldDigit digit],
          List.forall_mem_cons.mpr ⟨by decide, run⟩⟩
      · rw [List.filter_cons_of_pos (by simpa using ne), List.filter_cons_of_neg (by decide), plain,
          List.map_cons, foldDigit_of_digitValue? digit]

/-! ## Blanks and signs -/

/-- Trimming takes off nothing but blanks. -/
theorem exists_append_trimBlank (cs : List Char) :
    ∃ front back, cs = front ++ (trimBlank cs ++ back) ∧ (∀ c ∈ front, isBlank c = true) ∧
      ∀ c ∈ back, isBlank c = true := by
  have behind : cs.dropWhile isBlank =
      trimBlank cs ++ ((cs.dropWhile isBlank).reverse.takeWhile isBlank).reverse := by
    rw [trimBlank, ← List.reverse_append, List.takeWhile_append_dropWhile, List.reverse_reverse]
  refine ⟨cs.takeWhile isBlank, ((cs.dropWhile isBlank).reverse.takeWhile isBlank).reverse, ?_, ?_, ?_⟩
  · rw [← behind, List.takeWhile_append_dropWhile]
  · exact fun c mem => List.mem_takeWhile_imp mem
  · exact fun c mem => List.mem_takeWhile_imp (List.mem_reverse.mp mem)

/-- Trimming takes off all blanks in front of and behind characters that begin and end with none. -/
theorem trimBlank_append {front cs back : List Char} (blank : ∀ c ∈ front, isBlank c = true)
    (blank' : ∀ c ∈ back, isBlank c = true) (head : ∃ c ∈ cs.head?, isBlank c = false)
    (last : ∃ c ∈ cs.getLast?, isBlank c = false) : trimBlank (front ++ (cs ++ back)) = cs := by
  obtain ⟨c, first, visible⟩ := head
  obtain ⟨d, final, visible'⟩ := last
  obtain ⟨rest, rfl⟩ := List.head?_eq_some_iff.mp first
  obtain ⟨init, eq⟩ := List.getLast?_eq_some_iff.mp final
  rw [trimBlank, List.dropWhile_append_of_pos blank, List.cons_append, List.dropWhile_cons_of_neg (by simp [visible]),
    ← List.cons_append, List.reverse_append, List.dropWhile_append_of_pos (by simpa using blank'), eq,
    List.reverse_append, List.reverse_singleton, List.singleton_append,
    List.dropWhile_cons_of_neg (by simp [visible']), List.reverse_cons, List.reverse_reverse]

/-- A sign is split off in front of digits of any script as it is in front of those of one. -/
theorem splitSign_foldDigits (cs : List Char) :
    splitSign (foldDigits cs) = ((splitSign cs).1, foldDigits (splitSign cs).2) := by
  cases cs with
  | nil => rfl
  | cons c rest =>
      by_cases minus : c = '-'
      · rw [minus, foldDigits_cons, (foldDigit_eq_iff (by decide)).mpr rfl]
        rfl
      · by_cases plus : c = '+'
        · rw [plus, foldDigits_cons, (foldDigit_eq_iff (by decide)).mpr rfl]
          rfl
        · have minus' : foldDigit c ≠ '-' := fun eq => minus ((foldDigit_eq_iff (by decide)).mp eq)
          have plus' : foldDigit c ≠ '+' := fun eq => plus ((foldDigit_eq_iff (by decide)).mp eq)
          simp [foldDigits_cons, splitSign, minus, plus, minus', plus']

/-- What is split off is a sign or nothing. -/
theorem exists_sign (cs : List Char) : ∃ sign, cs = sign ++ (splitSign cs).2 ∧ Sign sign (splitSign cs).1 := by
  unfold splitSign
  split
  · exact ⟨_, rfl, .minus⟩
  · exact ⟨_, rfl, .plus⟩
  · exact ⟨_, rfl, .none⟩

/-- A sign in front of digits is split off whole, as digits begin with no sign. -/
theorem splitSign_append {sign body : List Char} {negative : Bool} {ds : List Nat} (h : Sign sign negative)
    (digits : Digits body ds) : splitSign (sign ++ body) = (negative, body) := by
  cases h with
  | plus => rfl
  | minus => rfl
  | none =>
      have unsigned {c : Char} {rest : List Char} {d : Nat} (digit : digitValue? c = some d) :
          splitSign (c :: rest) = (false, c :: rest) := by
        have minus : c ≠ '-' := by
          rintro rfl
          exact absurd digit (by decide +revert)
        have plus : c ≠ '+' := by
          rintro rfl
          exact absurd digit (by decide +revert)
        simp [splitSign, minus, plus]
      cases digits <;> exact unsigned ‹_›

/-- The sign and the digits begin and end with what is no blank. -/
theorem Sign.visible_head {sign body : List Char} {negative : Bool} {ds : List Nat} (h : Sign sign negative)
    (digits : Digits body ds) : ∃ c ∈ (sign ++ body).head?, isBlank c = false := by
  cases h with
  | plus => exact ⟨'+', rfl, by decide⟩
  | minus => exact ⟨'-', rfl, by decide⟩
  | none => cases digits <;> exact ⟨_, rfl, isBlank_of_digitValue? ‹_›⟩

/-- Digits end with what is no blank. -/
theorem Digits.visible_last {cs : List Char} {ds : List Nat} (h : Digits cs ds) (sign : List Char) :
    ∃ c ∈ (sign ++ cs).getLast?, isBlank c = false := by
  rw [List.getLast?_append_of_ne_nil _ h.ne_nil]
  induction h with
  | last digit => exact ⟨_, rfl, isBlank_of_digitValue? digit⟩
  | cons _ more ih => rwa [← List.singleton_append, List.getLast?_append_of_ne_nil _ more.ne_nil]
  | @separated c _ cs _ _ more ih =>
      have split : c :: '_' :: cs = [c, '_'] ++ cs := rfl
      rwa [split, List.getLast?_append_of_ne_nil _ more.ne_nil]

/-! ## Values -/

/-- The number of a text of digits is the one that its values denote. -/
theorem natOfDigits_digitChar {ds : List Nat} (small : ∀ d ∈ ds, d ≤ 9) :
    natOfDigits (ds.map digitChar) = valueOf ds := by
  rw [natOfDigits, List.foldl_map, valueOf, Nat.ofDigits_eq_foldr, List.foldr_reverse]
  refine List.foldl_ext _ _ _ fun n d mem => ?_
  rw [toNat_digitChar (small d mem), Nat.add_sub_cancel_left, Nat.cast_id, Nat.add_comm]

/-! ## Reading -/

/-- What is read has a body of digits and separated underscores, and the digits are not too many. -/
theorem integer?_eq_ok_iff_of_splitSign {s : String} {negative : Bool} {body : List Char}
    (split : splitSign (foldDigits (trimBlank s.toList)) = (negative, body)) {n : Int} :
    integer? s = .ok n ↔ (∀ c ∈ body, isRun c = true) ∧ ∃ plain, dropUnderscores? body = some plain ∧ plain ≠ [] ∧
      plain.length ≤ maxIntegerDigits ∧ n = signed negative (natOfDigits plain) := by
  rw [integer?, split]
  dsimp only
  constructor
  · intro ok
    split at ok
    · cases ok
    · next plain dropped =>
        split at ok
        · cases ok
        · next short =>
            split at ok
            · cases ok
            · next full =>
                simp only [Bool.or_eq_true, List.isEmpty_iff, Bool.not_eq_true', not_or, Bool.not_eq_false,
                  List.dropWhile_eq_nil_iff] at full
                obtain ⟨ne, run⟩ := full
                rw [List.takeWhile_eq_self_iff.mpr run] at dropped
                exact ⟨run, plain, dropped, ne, not_lt.mp short, (Except.ok.inj ok).symm⟩
  · rintro ⟨run, plain, dropped, ne, short, rfl⟩
    have all : body.dropWhile isRun = [] := List.dropWhile_eq_nil_iff.mpr run
    simp [List.takeWhile_eq_self_iff.mpr run, dropped, not_lt.mpr short, ne, all]

/-- **The texts that are read as integers are the integer numerals that are not too long**, and each is read as the
number that it denotes.  Digits fold to one script without touching blanks, signs and underscores, so that each part
of the reading finds its part of the numeral. -/
theorem integer?_eq_ok_iff {s : String} {n : Int} :
    integer? s = .ok n ↔
      ∃ negative ds, IsInteger s negative ds ∧ ds.length ≤ maxIntegerDigits ∧ n = signed negative (valueOf ds) := by
  constructor
  · intro ok
    obtain ⟨front, back, trimmed, blank, blank'⟩ := exists_append_trimBlank s.toList
    obtain ⟨sign, sign_, isSign⟩ := exists_sign (trimBlank s.toList)
    obtain ⟨run, plain, dropped, ne, short, rfl⟩ :=
      (integer?_eq_ok_iff_of_splitSign (splitSign_foldDigits (trimBlank s.toList))).mp ok
    obtain ⟨separated, plain_⟩ := dropUnderscores?_eq_some_iff.mp dropped
    have something : (splitSign (trimBlank s.toList)).2 ≠ [] := by
      intro nothing
      rw [nothing] at plain_
      exact ne plain_.symm
    obtain ⟨ds, digits⟩ := exists_digits run separated something
    obtain ⟨-, -, folded⟩ := digits.folded
    obtain rfl : ds.map digitChar = plain := folded.symm.trans plain_
    refine ⟨_, ds, ⟨front, sign, _, back, ?_, blank, blank', isSign, digits⟩, by simpa using short, ?_⟩
    · rw [← sign_]
      exact trimmed
    · rw [natOfDigits_digitChar digits.value_le]
  · rintro ⟨negative, ds, ⟨front, sign, body, back, eq, blank, blank', isSign, digits⟩, short, rfl⟩
    have trimmed : trimBlank s.toList = sign ++ body := by
      rw [eq]
      exact trimBlank_append blank blank' (isSign.visible_head digits) (digits.visible_last sign)
    obtain ⟨run, separated, plain⟩ := digits.folded
    have split : splitSign (foldDigits (trimBlank s.toList)) = (negative, foldDigits body) := by
      rw [splitSign_foldDigits, trimmed, splitSign_append isSign digits]
    refine (integer?_eq_ok_iff_of_splitSign split).mpr ⟨run, ds.map digitChar,
      dropUnderscores?_eq_some_iff.mpr ⟨separated, plain⟩, ?_, by simpa using short, ?_⟩
    · cases digits <;> exact List.cons_ne_nil _ _
    · rw [natOfDigits_digitChar digits.value_le]

end CodeAtlas.Numeral
