import WireModel.Codec.Order
import WireModel.Codec.Session.Basic
import WireModel.Host.Call.Dispatch

/-!
Held values as values of the language, which have its methods. Of instances of generated classes
these methods see no more than the text; of classes and constants, their names.
-/

namespace WireModel.Codec

namespace Library

mutual

def toLanguage (library : Library) (value : Value) : HostType :=
  let opaqueValue (content : Value) : HostType :=
    .named content.typeName ((library.shown content).toOption.getD "")
  match value with
  | .list items => .container .list (library.toLanguageItems items)
  | .tuple items => .container .tuple (library.toLanguageItems items)
  | .map entries => .container .map (library.toLanguagePairs entries)
  | .view .proxy whole => .container .proxy (library.toLanguageEntries whole)
  | .view (.listed part) whole =>
    let pairs := library.toLanguageEntries whole
    .container (.view part) (match part with
      | .keys => pairs.map HostType.keyOf
      | .values => pairs.map HostType.valueOf
      | .entries => pairs)
  | .constant owner name tag =>
    match library.at? owner with
    | some type => .constant (.member (library.ref type) name (.string tag))
    | none => opaqueValue (.constant owner name tag)
  | .altered attributes base => opaqueValue (.altered attributes base)
  | .record path attributes => .named path.name (opaqueText (.record path attributes))
  | .choice owner discriminant payload =>
    .named owner (opaqueText (.choice owner discriminant payload))
  | .type path => ((library.at? path).map library.typeOf).getD (.ofLanguage "object")
  | .object serial extras (.record path attributes) =>
    .named path.name (opaqueText (.object serial extras (.record path attributes)))
  | .object serial extras (.choice owner discriminant payload) =>
    .named owner (opaqueText (.object serial extras (.choice owner discriminant payload)))
  | .object _ _ content => library.toLanguage content
  | value => value.asLanguage?.getD (opaqueValue value)
where
  opaqueText (value : Value) : String := (library.shown value).toOption.getD ""

def toLanguageItems (library : Library) : List Value → List HostType
  | [] => []
  | item :: rest => library.toLanguage item :: library.toLanguageItems rest

def toLanguagePairs (library : Library) : List (Value × Value) → List HostType
  | [] => []
  | (key, value) :: rest =>
    .container .tuple [library.toLanguage key, library.toLanguage value] ::
      library.toLanguagePairs rest

def toLanguageEntries (library : Library) : Value → List HostType
  | .map entries => library.toLanguagePairs entries
  | .object _ _ content => library.toLanguageEntries content
  | _ => []

end

end Library

namespace Session

variable (library : Library)

/-- Goes on with a value of the language that is built. -/
def build {α : Type} (step : Building α) : Session α := do
  let store ← get
  let (result, memory) := step.run.run store.memory
  set { store with memory := memory }
  match result with
  | .ok value => return value
  | .error fault => throw (.fault fault.kind)

def toLanguage (value : Value) : Session HostType := do
  return (← current library).toLanguage (← view library value)

def ofLanguage (value : HostType) : Session Value :=
  hold (.ofLanguage value)

/-- What a call of a value of the language gives, none of which an expression has made. -/
def callLanguageValue (callee : HostType) (arguments : CallArguments) : Building HostType :=
  callee.called .empty (fun _ _ => throw (.notCallable callee.typeName)) arguments

def context : MethodContext :=
  ⟨.empty, callLanguageValue⟩

/-- Calls a value of the language. What is called may change the value that it works on, which is
given back. -/
def callCallee (callee : HostType) (args : List HostType) :
    Building (HostType × Option HostType) := do
  match callee with
  | .bound receiver owner routine =>
    let (result, changed) ← HostType.callBound context receiver owner routine ⟨args, []⟩
    return (result, some changed)
  | callee => return (← callLanguageValue callee ⟨args, []⟩, none)

/-- Calls a method that a held value has as one of the language. -/
def callLanguage (value : Value) (name : String) (args : List Value) : Session Value := do
  let receiver ← toLanguage library value
  let args ← args.mapM (toLanguage library)
  let (result, changed) ← build do
    let callee ← receiver.getAttribute .empty name
    callCallee callee args
  match (← get).stored value, changed with
  | .language _, some changed => replace value (.language changed)
  | _, _ => pure ()
  ofLanguage result

/-- Calls a held value that is one of the language. -/
def applyLanguage (value : HostType) (args : List Value) (named : List (String × Value)) :
    Session Value := do
  let args ← args.mapM (toLanguage library)
  let named ← named.mapM fun (name, value) => do return (name, ← toLanguage library value)
  ofLanguage (← build (callLanguageValue value ⟨args, named⟩))

end Session

end WireModel.Codec
