import WireModel.Json.Basic
import WireModel.Number.Shortest
import WireModel.Text.Quoted

/-!
The text of a JSON value in messages and in values shown: quoted strings, `True`, `False`, `None`.
-/

namespace WireModel.Json

open Text

mutual

def shown : Json → String
  | .null => "None"
  | .bool value => if value then "True" else "False"
  | .int value => toString value
  | .float value => value.text
  | .string value => quoted value
  | .array items => "[" ++ ", ".intercalate (shownItems items) ++ "]"
  | .object entries => "\x7b" ++ ", ".intercalate (shownEntries entries) ++ "\x7d"

/-- The texts of the items of an array. -/
def shownItems : List Json → List String
  | [] => []
  | item :: rest => shown item :: shownItems rest

/-- The texts of the entries of an object. -/
def shownEntries : List (String × Json) → List String
  | [] => []
  | (key, value) :: rest => (quoted key ++ ": " ++ shown value) :: shownEntries rest

end

/-- The text of a value whose outer array is fixed, and so stands in parentheses. -/
def shownFixed : Json → String
  | .array [item] => "(" ++ item.shown ++ ",)"
  | .array items => "(" ++ ", ".intercalate (shownItems items) ++ ")"
  | value => value.shown

end WireModel.Json
