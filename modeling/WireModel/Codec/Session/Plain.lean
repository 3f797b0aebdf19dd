import WireModel.Codec.Session.Items

/-!
Calls of what values of no generated class do by themselves. Whether a value has a method at all,
and how many values the method takes, is told by the class that the value has in the language.
-/

namespace WireModel.Codec

namespace Session

variable (library : Library)

def textOf : Value → Session String
  | .text text => return text
  | _ => throw (.fault .wrongType)

/-- An attribute of a held value, as its class has it or the value itself. -/
def ownAttribute (value : Value) (name : String) : Session Value := do
  holdOutcome ((← current library).attribute (← view library value) name)

/-- What is answered whether two values are the same object. -/
def identityAnswer (value other : Value) (name : String) : Value :=
  if value.isIdentical other then .bool (name == "__eq__") else .language .undecided

/-- What a container does by itself as every value does it. -/
def callCommon (value : Value) (name : String) (args : List Value) : Session Value := do
  match name, args with
  | "__repr__", [] | "__str__", [] => return .text (← shown library value)
  | "__format__", [spec] =>
    if (← textOf spec).isEmpty then return .text (← shown library value)
    else throw (.fault .wrongType)
  | "__eq__", [other] | "__ne__", [other] => return identityAnswer value other name
  | "__getnewargs__", [] => tuple [value]
  | "__getattribute__", [key] => ownAttribute library value (← textOf key)
  | "__setattr__", key :: _ | "__delattr__", [key] =>
    throw (.fault (if (← textOf key) = "__class__" then .wrongType else .missingAttribute))
  | name, args => callLanguage library value name args

/-- What a view of a whole map answers to a comparison: the map that it shows is compared. -/
def compareProxy (value other : Value) (comparison : Comparison) : Session Value := do
  if comparison.isOrder then throw (.fault .wrongType)
  return .bool ((← same library value other) == (comparison == .equal))

def callContainer (value : Value) (name : String) (args : List Value) : Session Value := do
  let stored := (← get).stored value
  let callee ← build do return ← (Library.standIn stored).getAttribute .empty name
  match callee, stored, Comparison.ofMethod? name, args with
  | .bound .., .view .proxy _, some comparison, [other] =>
    compareProxy library value other comparison
  | .bound _ owner (.routine typeName _ _), _, _, _ =>
    let isFunction := typeName = "method"
    let (filled, _) ← build do
      return ← HostType.bindMethod owner isFunction name ⟨args.map fun _ => .none, []⟩
    let given := filled.zipIdx.map fun (filled, place) =>
      if filled.isSome then args[place]? else none
    match ← containerMethod? library value name given with
    | some answer => ofAnswer library value (← answer)
    | none => callCommon library value name args
  | callee, _, _, _ => applyLanguage library callee args []

/-- Calls what an object without anything of its own does. -/
def callBare (value : Value) (name : String) (args : List Value) : Session Value := do
  match name, args with
  | "__eq__", [other] | "__ne__", [other] => return identityAnswer value other name
  | "__init__", _ :: _ => throw (.fault .wrongType)
  | name, args => callLanguage library value name args

/-- Calls what a value of no generated class does by itself. -/
def callPlain (value : Value) (name : String) (args : List Value) : Session Value := do
  match (← get).stored value with
  | .list _ | .tuple _ | .map _ | .view .. => callContainer library value name args
  | .bare => callBare library value name args
  | _ => callLanguage library value name args

end Session

end WireModel.Codec
