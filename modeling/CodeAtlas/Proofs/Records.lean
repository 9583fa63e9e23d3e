import CodeAtlas.Entity.Record
import CodeAtlas.Proofs.Numerals
import CodeAtlas.Proofs.Steps
import Mathlib.Algebra.Order.Floor.Semifield
import Mathlib.Data.Rat.Floor

/-!
# Which records are refused

A record is refused for its shape, for a required field that is missing, for a line that denotes no integer, or for
tags of a wrong kind (`Json.Faulty`); every other record is read, and the entity can be placed
(`Entity.ofRecord_outcome`).

What denotes a line is wider than the integers and their numerals (`Json.DenotesLine`): a fraction is cut off, and a
truth value is a number.  An infinite number denotes no line, and the fault that it leads to is not one of a single
record.

## Outline

Reading is taken apart by `ReadFrom`, one clause for each field, and `Entity.ofRecord_eq_ok_iff` says that reading a
record gives an entity exactly if all clauses hold.  Then `Faulty` need not be compared with the program any more,
but only with these clauses, of which three may fail (`exists_readFrom_iff`).  Which of several faults is answered
is a matter of the order in which fields are read, and only asked of the infinite line
(`Entity.ofRecord_eq_infiniteLine_iff`), which ends more than the one record.
-/

namespace CodeAtlas

open Numeral

namespace Json

/-- The integer that a value denotes as a line: that of a number, cut off toward zero, or of a truth value, or of a
numeral that is not too long.  No number that is infinite or none is among these, nor a text that is a fraction. -/
inductive DenotesLine : Json → Int → Prop
  | int (n : Int) : DenotesLine (.int n) n
  | bool (b : Bool) : DenotesLine (.bool b) (if b then 1 else 0)
  | float {x : Float} {negative : Bool} {m : Nat} {e : Int} (parts : Double.ofFloat x = .finite negative m e) :
      DenotesLine (.float x) (signed negative ⌊(m : ℚ) * 2 ^ e⌋₊)
  | str {s : String} {negative : Bool} {ds : List Nat} (numeral : IsInteger s negative ds)
      (short : ds.length ≤ maxIntegerDigits) : DenotesLine (.str s) (signed negative (valueOf ds))

/-- A number beyond all others, of either sign. -/
def IsInfinite (j : Json) : Prop := ∃ x negative, j = .float x ∧ Double.ofFloat x = .infinite negative

/-- A record has nothing under a key: no value, null, or the empty text. -/
def Lacks (record : Json) (key : String) : Prop :=
  record.get? key = none ∨ record.get? key = some .null ∨ record.get? key = some (.str "")

/-- What a record can be refused for.  An infinite line is a fault of this kind too, since it denotes nothing; that it
is answered otherwise is a matter of `InfiniteLine`. -/
inductive Faulty (record : Json) : Prop
  | shape (other : ∀ members, record ≠ .obj members)
  | missing {key : String} (required : key ∈ Entity.requiredFields) (lacks : record.Lacks key)
  | startLine (none : ∀ n, ¬ (record.getD "start_line").DenotesLine n)
  | endLine (given : (record.getD "end_line").truthy = true) (none : ∀ n, ¬ (record.getD "end_line").DenotesLine n)
  | tags (given : (record.getD "semantic_tags").truthy = true) (text : ∀ s, record.getD "semantic_tags" ≠ .str s)
      (list : ∀ items, record.getD "semantic_tags" ≠ .arr items)

/-- A record with an infinite line, where nothing is missing and no line in front of it denotes nothing. -/
structure InfiniteLine (record : Json) : Prop where
  /-- No required field is missing, which would have been found first. -/
  given : ∀ key ∈ Entity.requiredFields, ¬ record.Lacks key
  line : (record.getD "start_line").IsInfinite ∨
    (∃ n, (record.getD "start_line").DenotesLine n) ∧ (record.getD "end_line").truthy = true ∧
      (record.getD "end_line").IsInfinite

/-! ## Lines -/

/-- A finite double is cut off toward zero. -/
theorem truncate?_finite (negative : Bool) (m : Nat) (e : Int) :
    (Double.finite negative m e).truncate? = some (signed negative ⌊(m : ℚ) * 2 ^ e⌋₊) := by
  have size : ⌊(m : ℚ) * 2 ^ e⌋₊ = if 0 ≤ e then m * pow2 e.toNat else m / pow2 (-e).toNat := by
    split
    · next up =>
        obtain ⟨k, rfl⟩ := Int.eq_ofNat_of_zero_le up
        rw [zpow_natCast, Int.toNat_natCast, pow2, Nat.pow_eq]
        exact_mod_cast Nat.floor_natCast (R := ℚ) (m * 2 ^ k)
    · next down =>
        obtain ⟨k, eq⟩ := Int.eq_ofNat_of_zero_le (a := -e) (by omega)
        obtain rfl : e = -(k : Int) := by omega
        rw [zpow_neg, zpow_natCast, ← div_eq_mul_inv, neg_neg, Int.toNat_natCast, pow2, Nat.pow_eq]
        exact_mod_cast Nat.floor_div_eq_div (K := ℚ) m (2 ^ k)
  rw [Double.truncate?, size]
  rfl

/-- **A value is read as a line if it denotes one.**  By the kinds of values; a double is taken apart, and a text is
read as a numeral. -/
theorem lineNumber_eq_ok_iff {j : Json} {n : Int} : lineNumber j = .ok n ↔ j.DenotesLine n := by
  constructor
  · intro ok
    unfold lineNumber at ok
    split at ok
    · cases ok
      exact .int _
    · cases ok
      exact .bool _
    · next x =>
        split at ok
        · cases ok
        · cases ok
        · next d notNan finite =>
            cases parts : Double.ofFloat x with
            | nan => exact absurd parts notNan
            | infinite negative => exact absurd parts (finite negative)
            | finite negative m e =>
                rw [parts, truncate?_finite] at ok
                cases ok
                exact .float parts
    · next s =>
        split at ok
        · next k read =>
            cases ok
            obtain ⟨negative, ds, numeral, short, rfl⟩ := integer?_eq_ok_iff.mp read
            exact .str numeral short
        · cases ok
        · cases ok
    · cases ok
  · rintro (n | b | parts | ⟨numeral, short⟩)
    · rfl
    · rfl
    · simp [lineNumber, parts, truncate?_finite]
    · simp [lineNumber, integer?_eq_ok_iff.mpr ⟨_, _, numeral, short, rfl⟩]

/-- The fault of more than one record is that of infinite numbers alone. -/
theorem lineNumber_eq_infiniteLine_iff {j : Json} : lineNumber j = .error .infiniteLine ↔ j.IsInfinite := by
  constructor
  · intro error
    unfold lineNumber at error
    split at error
    · cases error
    · cases error
    · next x =>
        split at error
        · cases error
        · next negative parts => exact ⟨x, negative, rfl, parts⟩
        · cases error
    · split at error <;> cases error
    · cases error
  · rintro ⟨x, negative, rfl, parts⟩
    rw [lineNumber, parts]

/-! ## Texts -/

/-- A decimal has a text, in every layout, -/
theorem decimal_ne_empty (layout : Layout) (d : Decimal) : layout.decimal d ≠ "" := by
  unfold Layout.decimal
  dsimp only
  split
  · split <;> simp
  · simp

/-- and so has every double. -/
theorem render_displayLayout_ne_empty (x : Float) : displayLayout.render x ≠ "" := by
  unfold Layout.render
  split
  · decide
  · simp [displayLayout]
  · rw [ne_eq, String.append_eq_empty_iff, not_and]
    intro
    split
    · decide
    · exact decimal_ne_empty _ _

/-- No value but the empty text is written as nothing. -/
theorem display_eq_empty_iff {j : Json} : j.display = "" ↔ j = .str "" := by
  cases j with
  | str s => simp
  | null => simp [display, shown]
  | bool b => cases b <;> simp [display, shown]
  | int n => cases n <;> simp [display, shown, toString, Int.repr]
  | float x => simp [display, shown, render_displayLayout_ne_empty]
  | arr items => simp [display, shown]
  | obj members => simp [display, shown]

end Json

namespace Entity

/-- A field counts as missing if the record has nothing under its key. -/
theorem isMissing_getD {record : Json} {key : String} : isMissing (record.getD key) = true ↔ record.Lacks key := by
  rw [Json.getD, Json.Lacks]
  cases record.get? key with
  | none => simp [isMissing]
  | some j => cases j <;> simp [isMissing]

/-- Tags are read from a text or a list, or from what says nothing. -/
theorem exists_recordTags_iff {j : Json} :
    (∃ tags, recordTags j = .ok tags) ↔ (j.truthy = true → (∃ s, j = .str s) ∨ ∃ items, j = .arr items) := by
  unfold recordTags
  split
  · next absent => simp_all
  · next given =>
      simp only [Bool.not_eq_true] at given
      cases j <;> simp_all

/-- What an entity owes to the record that it is read from, field by field, with what stands in for a value that is
not given. -/
structure ReadFrom (e : Entity) (record : Json) : Prop where
  /-- Every required field is given. -/
  given : ∀ key ∈ requiredFields, ¬ record.Lacks key
  /-- What is no text is displayed as one. -/
  filePath : e.filePath = (record.getD "file_path").display
  /-- The name of the file is taken from its path unless another one is given. -/
  fileName : e.fileName = .str (textOr (fileNameOf (record.getD "file_path").display) (record.getD "file_name"))
  /-- The first line stands in for the last one if that is not given, or counts as not given. -/
  lines : ∃ first last, e.startLine = .int first ∧ e.endLine = .int last ∧
    (record.getD "start_line").DenotesLine first ∧
      ((record.getD "end_line").orElse (.int first)).DenotesLine last
  elementType : e.elementType = (record.getD "element_type").display
  name : e.name = (record.getD "name").display
  /-- An entity that was read has a snippet, if only an empty one. -/
  snippet : e.snippet = some (textOr "" (record.getD "code_snippet"))
  /-- The tags are the texts of a list of values, or a single one, or none. -/
  tags : recordTags (record.getD "semantic_tags") = .ok e.tags
  /-- The language may be of any kind; one that counts as not given is null. -/
  language : e.language = (record.getD "language").orElse .null

/-- A value that is no object has nothing under any key. -/
theorem exists_obj_of_given {record : Json} (given : ∀ key ∈ requiredFields, ¬ record.Lacks key) :
    ∃ members, record = .obj members := by
  cases record with
  | obj members => exact ⟨members, rfl⟩
  | _ => exact absurd (.inl rfl) (given "file_path" (by decide))

/-- No required field is missing if something is given for each of them. -/
theorem missing_eq_nil_iff {record : Json} :
    (requiredFields.filter fun key => isMissing (record.getD key)) = [] ↔
      ∀ key ∈ requiredFields, ¬ record.Lacks key := by
  simp only [List.filter_eq_nil_iff, isMissing_getD]

/-- **A record is read as an entity exactly if this is what the record says.** -/
theorem ofRecord_eq_ok_iff {record : Json} {e : Entity} : ofRecord record = .ok e ↔ e.ReadFrom record := by
  constructor
  · intro ok
    cases record with
    | obj members =>
        unfold ofRecord at ok
        dsimp only at ok
        split at ok
        · cases ok
        · next none =>
            simp only [Bool.not_eq_true', Bool.not_eq_false, List.isEmpty_iff, missing_eq_nil_iff] at none
            simp only [bind_eq_ok_iff, pure, Except.pure, Except.ok.injEq, Json.lineNumber_eq_ok_iff] at ok
            obtain ⟨first, start, last, end_, tags, read, rfl⟩ := ok
            exact ⟨none, rfl, rfl, ⟨first, last, rfl, rfl, start, end_⟩, rfl, rfl, rfl, read, rfl⟩
    | _ => cases ok
  · intro read
    obtain ⟨members, rfl⟩ := exists_obj_of_given read.given
    obtain ⟨first, last, startLine, endLine, start, end_⟩ := read.lines
    have none := missing_eq_nil_iff.mpr read.given
    simp only [ofRecord, none, List.isEmpty_nil, Bool.not_true, Bool.false_eq_true, if_false]
    simp only [bind_eq_ok_iff, Json.lineNumber_eq_ok_iff, pure, Except.pure, Except.ok.injEq]
    refine ⟨first, start, last, end_, e.tags, read.tags, ?_⟩
    rw [← read.fileName, ← read.filePath, ← startLine, ← endLine, ← read.elementType, ← read.name, ← read.snippet,
      ← read.language]

/-- An entity that is read can be placed in a graph. -/
theorem ReadFrom.isValid {e : Entity} {record : Json} (h : e.ReadFrom record) : e.isValid = true := by
  have shown {key : String} (required : key ∈ requiredFields) : (record.getD key).display ≠ "" := by
    intro empty
    refine h.given key required (isMissing_getD.mp ?_)
    rw [Json.display_eq_empty_iff.mp empty]
    rfl
  obtain ⟨first, last, startLine, endLine, -, -⟩ := h.lines
  have filePath : e.filePath ≠ "" := h.filePath ▸ shown (by decide)
  have name : e.name ≠ "" := h.name ▸ shown (by decide)
  have elementType : e.elementType ≠ "" := h.elementType ▸ shown (by decide)
  simp [Entity.isValid, Draft.isValid, draft, Json.truthy, Json.whole?, filePath, name, elementType, startLine, endLine]

/-- **There is an entity to be read unless the record is faulty.**  Each clause of `ReadFrom` fails for one of the
faults, and the entity is put together from the others. -/
theorem exists_readFrom_iff {record : Json} : (∃ e : Entity, e.ReadFrom record) ↔ ¬ record.Faulty := by
  constructor
  · rintro ⟨e, read⟩ fault
    obtain ⟨first, last, -, -, start, end_⟩ := read.lines
    cases fault with
    | shape other =>
        obtain ⟨members, object⟩ := exists_obj_of_given read.given
        exact other members object
    | missing required lacks => exact read.given _ required lacks
    | startLine none => exact none first start
    | endLine given none =>
        rw [Json.orElse, if_pos given] at end_
        exact none last end_
    | tags given text list =>
        rcases exists_recordTags_iff.mp ⟨_, read.tags⟩ given with ⟨s, eq⟩ | ⟨items, eq⟩
        · exact text s eq
        · exact list items eq
  · intro sound
    have given : ∀ key ∈ requiredFields, ¬ record.Lacks key := fun key required lacks =>
      sound (.missing required lacks)
    obtain ⟨first, start⟩ : ∃ n, (record.getD "start_line").DenotesLine n := by
      by_contra none
      exact sound (.startLine (not_exists.mp none))
    obtain ⟨last, end_⟩ : ∃ n, ((record.getD "end_line").orElse (.int first)).DenotesLine n := by
      rw [Json.orElse]
      split
      · next given =>
          by_contra none
          exact sound (.endLine given (not_exists.mp none))
      · exact ⟨first, .int first⟩
    obtain ⟨tags, read⟩ : ∃ tags, recordTags (record.getD "semantic_tags") = .ok tags := by
      refine exists_recordTags_iff.mpr fun given => ?_
      by_contra neither
      obtain ⟨text, list⟩ := not_or.mp neither
      exact sound (.tags given (not_exists.mp text) (not_exists.mp list))
    exact ⟨⟨_, _, .int first, .int last, _, _, _, tags, _⟩, given, rfl, rfl, ⟨first, last, rfl, rfl, start, end_⟩,
      rfl, rfl, rfl, read, rfl⟩

/-- The fault of more than one record is met for an infinite line, if nothing in front of it is at fault.  Faults are
looked for in the order of the fields, and the tags come last, so that what is wrong with them does not matter here.
-/
theorem ofRecord_eq_infiniteLine_iff {record : Json} :
    ofRecord record = .error .infiniteLine ↔ record.InfiniteLine := by
  have tags : recordTags (record.getD "semantic_tags") ≠ .error .infiniteLine := by
    unfold recordTags
    split
    · exact nofun
    · split <;> exact nofun
  constructor
  · intro error
    cases record with
    | obj members =>
        unfold ofRecord at error
        dsimp only at error
        split at error
        · cases error
        · next none =>
            simp only [Bool.not_eq_true', Bool.not_eq_false, List.isEmpty_iff, missing_eq_nil_iff] at none
            simp only [bind_eq_error_iff, Json.lineNumber_eq_ok_iff, Json.lineNumber_eq_infiniteLine_iff, tags, pure,
               Except.pure, reduceCtorEq, and_false, exists_false, or_false] at error
            refine ⟨none, error.imp_right ?_⟩
            rintro ⟨first, start, infinite⟩
            rw [Json.orElse] at infinite
            split at infinite
            · next given => exact ⟨⟨first, start⟩, given, infinite⟩
            · obtain ⟨_, _, eq, -⟩ := infinite
              cases eq
    | _ => cases error
  · rintro ⟨given, line⟩
    obtain ⟨members, rfl⟩ := exists_obj_of_given given
    have none := missing_eq_nil_iff.mpr given
    simp only [ofRecord, none, List.isEmpty_nil, Bool.not_true, Bool.false_eq_true, if_false]
    simp only [bind_eq_error_iff, Json.lineNumber_eq_ok_iff, Json.lineNumber_eq_infiniteLine_iff]
    refine line.imp_right ?_
    rintro ⟨⟨first, start⟩, given, infinite⟩
    refine ⟨first, start, .inl ?_⟩
    rwa [Json.orElse, if_pos given]

/-- **Which records are refused, and how.**  A record is refused iff something is wrong with it (`Json.Faulty`), and
with a fault of more than one record iff it has an infinite line.  Every other record is read as the entity that it
describes, and this can be placed in a graph. -/
theorem ofRecord_outcome (record : Json) :
    ((∃ fault, ofRecord record = .error fault) ↔ record.Faulty) ∧
      (ofRecord record = .error .infiniteLine ↔ record.InfiniteLine) ∧
      (¬ record.Faulty → ∃ e, ofRecord record = .ok e ∧ e.isValid = true ∧ e.ReadFrom record) := by
  refine ⟨?_, ofRecord_eq_infiniteLine_iff, fun sound => ?_⟩
  · rw [exists_eq_error_iff, ← not_exists, not_iff_comm, ← exists_readFrom_iff]
    simp only [ofRecord_eq_ok_iff]
  · obtain ⟨e, read⟩ := exists_readFrom_iff.mpr sound
    exact ⟨e, ofRecord_eq_ok_iff.mpr read, read.isValid, read⟩

/-- The record of a function on a line. -/
def recordAt (line : Json) : Json :=
  .obj [("file_path", .str "a.ts"), ("name", .str "f"), ("element_type", .str "function"), ("start_line", line)]

/-- A line that is no integer is cut off, and an infinite one is refused with a fault of more than one record. -/
theorem ofRecord_of_fraction_of_infinity :
    (Double.ofFloat 3.9).toInt? = none ∧ (∃ e, ofRecord (recordAt (.float 3.9)) = .ok e ∧ e.startLine = .int 3) ∧
      ofRecord (recordAt (.float 1e400)) = .error .infiniteLine :=
  ⟨by decide +kernel, ⟨_, rfl, rfl⟩, ofRecord_eq_infiniteLine_iff.mpr
    ⟨missing_eq_nil_iff.mp (by decide +kernel), .inl ⟨1e400, false, rfl, by decide +kernel⟩⟩⟩

end Entity

end CodeAtlas
