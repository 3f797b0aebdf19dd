import WireModel.Json.Basic
import WireModel.Number.Shortest
import WireModel.Text.Quoted

/-!
Compact JSON text: no blanks, and an escape for each code unit that is no printable character of
ASCII.
-/

namespace WireModel

open Text

namespace Json

def escapedUnit (unit : Nat) : List Char :=
  ['\\', 'u'] ++ hexDigits 4 unit

/-- One code point inside a JSON string. -/
def escapedCode (code : Nat) : List Char :=
  match Char.ofNat code with
  | '"' => ['\\', '"']
  | '\\' => ['\\', '\\']
  | '\n' => ['\\', 'n']
  | '\r' => ['\\', 'r']
  | '\t' => ['\\', 't']
  | '\x0c' => ['\\', 'f']
  | '\x08' => ['\\', 'b']
  | c =>
    if 0x20 ≤ code ∧ code < 0x7f then [c]
    else if code < 0x10000 then escapedUnit code
    else
      escapedUnit (0xD800 + (code - 0x10000) / 0x400) ++
        escapedUnit (0xDC00 + (code - 0x10000) % 0x400)

def quotedText (text : String) : String :=
  String.ofList ('"' :: (codes text).flatMap escapedCode ++ ['"'])

mutual

/-- The compact text of a value. -/
def print : Json → String
  | .null => "null"
  | .bool value => if value then "true" else "false"
  | .int value => toString value
  | .float value => value.textWith "Infinity" "NaN"
  | .string value => quotedText value
  | .array items => "[" ++ ",".intercalate (printItems items) ++ "]"
  | .object entries => "\x7b" ++ ",".intercalate (printEntries entries) ++ "\x7d"

/-- The texts of the items of an array. -/
def printItems : List Json → List String
  | [] => []
  | item :: rest => print item :: printItems rest

def printEntries : List (String × Json) → List String
  | [] => []
  | (key, value) :: rest => (quotedText key ++ ":" ++ print value) :: printEntries rest

end

end Json

end WireModel
