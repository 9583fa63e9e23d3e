import CodeAtlas.Json.Basic
import CodeAtlas.Numeral.Reading

/-!
# Reading configuration fields

Configuration comes as JSON values or as texts of the environment.  A field is read leniently: truth
values may be written as numbers or words, numbers as texts.  The faults of all fields are collected,
each under the name by which the field was given.  This is part of the outer layer: the library takes
settings and filters as they are, and does not depend on how they have been read.
-/

namespace CodeAtlas

/-- Why a value is refused for a field. -/
inductive FieldProblem where
  | boolParsing
  | boolType
  | floatParsing
  | floatType
  | intParsing
  | intParsingSize
  | intFromFloat
  | finiteNumber
  | intType
  deriving DecidableEq, Repr

/-- The written form of a problem. -/
def FieldProblem.text : FieldProblem → String
  | boolParsing => "bool_parsing"
  | boolType => "bool_type"
  | floatParsing => "float_parsing"
  | floatType => "float_type"
  | intParsing => "int_parsing"
  | intParsingSize => "int_parsing_size"
  | intFromFloat => "int_from_float"
  | finiteNumber => "finite_number"
  | intType => "int_type"

/-- A refused field. -/
structure FieldFault where
  field : String
  problem : FieldProblem

/-- The written form of a refused field. -/
def FieldFault.text (f : FieldFault) : String := f.field ++ ":" ++ f.problem.text

namespace Field

open Numeral

/-- Words for no. -/
def noWords : List String := ["0", "f", "n", "no", "off", "false"]

/-- Words for yes. -/
def yesWords : List String := ["1", "t", "y", "yes", "on", "true"]

/-- Zero and one as truth values. -/
def boolOfInt (n : Int) : Except FieldProblem Bool :=
  if n = 0 then .ok false else if n = 1 then .ok true else .error .boolParsing

/-- Whether an integer fits into 64 bits. -/
def fitsWord (n : Int) : Bool := -(pow2 63 : Int) ≤ n && n < pow2 63

/-- The integer that a float equals.  Its size is limited to 64 bits. -/
def intOfFloat (x : Float) : Except FieldProblem Int :=
  match Double.ofFloat x with
  | .nan => .error .finiteNumber
  | .infinite _ => .error .finiteNumber
  | d =>
    match d.toInt? with
    | none => .error .intFromFloat
    | some n => if -(pow2 63 : Int) < n ∧ n < pow2 63 then .ok n else .error .intParsingSize

/-- Reads a truth value. -/
def bool : Json → Except FieldProblem Bool
  | .bool b => .ok b
  | .str s =>
    let word := String.ofList (s.toList.map Char.toLower)
    if noWords.contains word then .ok false
    else if yesWords.contains word then .ok true
    else .error .boolParsing
  | .int n => if fitsWord n then boolOfInt n else .error .boolType
  | .float x =>
    match intOfFloat x with
    | .ok n => boolOfInt n
    | .error _ => .error .boolType
  | _ => .error .boolType

/-- Reads a float. -/
def float : Json → Except FieldProblem Float
  | .float x => .ok x
  | .bool b => .ok (if b then 1.0 else 0.0)
  | .int n => if (Double.ofInt n).isFinite then .ok (Double.ofInt n) else .error .floatType
  | .str s =>
    match fieldDecimal? s with
    | some x => .ok x
    | none => .error .floatParsing
  | _ => .error .floatType

/-- Reads an integer. -/
def int : Json → Except FieldProblem Int
  | .int n => .ok n
  | .bool b => .ok (if b then 1 else 0)
  | .float x => intOfFloat x
  | .str s =>
    match fieldInteger? s with
    | .ok n => .ok n
    | .error .malformed => .error .intParsing
    | .error (.tooLong _) => .error .intParsingSize
  | _ => .error .intType

/-- Reads the field given under the first of several names, a default when it is given under none. -/
def read {β : Type} (given : Members) (names : List String) (reader : Json → Except FieldProblem β)
    (default : β) : β × List FieldFault :=
  match names.findSome? fun n => (Members.get? given n).map fun j => (n, j) with
  | none => (default, [])
  | some (n, j) =>
    match reader j with
    | .ok value => (value, [])
    | .error problem => (default, [⟨n, problem⟩])

end Field

end CodeAtlas
