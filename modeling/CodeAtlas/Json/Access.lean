import CodeAtlas.Fault

/-!
# Parts of JSON values

Stored graphs are read without a schema, so asking a value for a part, or for the number or the word that
it denotes, may fail.  Each of these functions gives what was asked for or the fault that there is none.
-/

namespace CodeAtlas.Json

/-- The items of an array, the keys of an object, the characters of a text. -/
def items : Json → Except Fault (List Json)
  | arr items => .ok items
  | obj members => .ok (members.map fun m => str m.1)
  | str s => .ok (s.toList.map fun c => str (String.singleton c))
  | j => .error (.notIterable j.kindName)

/-- The member of an object under a key. -/
def member (key : String) : Json → Except Fault Json
  | obj members =>
    match Members.get? members key with
    | some j => .ok j
    | none => .error (.missingKey key)
  | j => .error (.notSubscriptable j.kindName)

/-- The number of items, members or characters. -/
def size : Json → Except Fault Nat
  | arr items => .ok items.length
  | obj members => .ok members.length
  | str s => .ok s.length
  | j => .error (.noLength j.kindName)

/-- The first `n` items of an array or characters of a text. -/
def front (n : Nat) : Json → Except Fault Json
  | arr items => .ok (arr (items.take n))
  | str s => .ok (str (String.ofList (s.toList.take n)))
  | j => .error (.notSubscriptable j.kindName)

/-- The double that a value denotes: a number, a truth value, or a decimal as people write it. -/
def asDouble : Json → Except Fault Float
  | float x => .ok x
  | bool b => .ok (if b then 1.0 else 0.0)
  | int n =>
    let x := Numeral.Double.ofInt n
    if x.isFinite then .ok x else .error .beyondDoubles
  | str s =>
    match Numeral.decimal? s with
    | some x => .ok x
    | none => .error (.notADecimal s)
  | j => .error (.notANumber j.kindName)

/-- The word of a vocabulary that a value is. -/
def asWord {β : Type} (ofText? : String → Option β) (vocabulary : String) (j : Json) : Except Fault β :=
  match j.text?.bind ofText? with
  | some b => .ok b
  | none => .error (.unknownWord j vocabulary)

/-- A value that can be a key. -/
def asKey (j : Json) : Except Fault Json :=
  if j.isKey then .ok j else .error (.unhashable j.kindName)

end CodeAtlas.Json
