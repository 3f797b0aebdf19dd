import WireModel.Codec.Value
import WireModel.Host.Operation.Comparison

/-!
Values of the codec as values of the language, and the other way round. Only values whose parts are
none of the codec are both.
-/

namespace WireModel.Codec

namespace Value

/-- The value of the language that a value without parts is. -/
def asLanguage? : Value → Option HostType
  | .null => some .none
  | .bool value => some (.ofBool value)
  | .int value => some (.ofInt value)
  | .float value => some (.ofDouble value)
  | .text value => some (.text value)
  | .language value => some value
  | .object _ _ content => asLanguage? content
  | _ => none

mutual

def ofLanguage : HostType → Value
  | .none => .null
  | .text value => .text value
  | .constant (.bool value) => .bool value
  | .constant (.int value) => .int value
  | .constant (.float value) => .float value
  | .container .list items => .list (ofLanguageItems items)
  | .container .tuple items => .tuple (ofLanguageItems items)
  | .container .map pairs => .map (ofLanguagePairs pairs)
  | value => .language value

def ofLanguageItems : List HostType → List Value
  | [] => []
  | item :: rest => ofLanguage item :: ofLanguageItems rest

def ofLanguagePairs : List HostType → List (Value × Value)
  | [] => []
  | .container _ [key, value] :: rest => (ofLanguage key, ofLanguage value) :: ofLanguagePairs rest
  | _ :: rest => ofLanguagePairs rest

end

/-- The entries of a map, or of the map that a value shows. -/
def entries? : Value → Option (List (Value × Value))
  | .map entries => some entries
  | .object _ _ content => entries? content
  | _ => none

def listed (part : MapPart) (entries : List (Value × Value)) : List Value :=
  entries.map fun (key, value) =>
    match part with
    | .keys => key
    | .values => value
    | .entries => .tuple [key, value]

def setItems? (value : Value) : Option (List Value) :=
  match value with
  | .view (.listed .keys) whole => whole.entries?.map (listed .keys)
  | .view (.listed .entries) whole => whole.entries?.map (listed .entries)
  | .language value => value.setItems?.map ofLanguageItems
  | .object _ _ (.view (.listed .keys) whole) => whole.entries?.map (listed .keys)
  | .object _ _ (.view (.listed .entries) whole) => whole.entries?.map (listed .entries)
  | .object _ _ (.language value) => value.setItems?.map ofLanguageItems
  | _ => none

end Value

end WireModel.Codec
