import CodeAtlas.Json.Printer
import CodeAtlas.Text.Quoted

/-!
# Values in running text

The text of a value where a record wants a text: a string is itself, any other value is shown with the
words `None`, `True` and `False`, and strings inside an array or object are quoted.
-/

namespace CodeAtlas.Json

/-- Floats in running text. -/
def displayLayout : Numeral.Layout := { floatLayout with nan := "nan", infinity := "inf" }

mutual

/-- A value inside another one. -/
def shown : Json → String
  | null => "None"
  | bool b => if b then "True" else "False"
  | int n => toString n
  | float x => displayLayout.render x
  | str s => Text.quoted s
  | arr items => "[" ++ ", ".intercalate (shownItems items) ++ "]"
  | obj members => "\x7b" ++ ", ".intercalate (shownMembers members) ++ "\x7d"

/-- Each item. -/
def shownItems : List Json → List String
  | [] => []
  | j :: rest => shown j :: shownItems rest

/-- Each member. -/
def shownMembers : List (String × Json) → List String
  | [] => []
  | (k, j) :: rest => (Text.quoted k ++ ": " ++ shown j) :: shownMembers rest

end

/-- The text of a value. -/
def display : Json → String
  | str s => s
  | j => j.shown

@[simp] theorem display_str (s : String) : (str s).display = s := rfl

end CodeAtlas.Json
