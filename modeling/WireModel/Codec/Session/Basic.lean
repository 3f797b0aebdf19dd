import WireModel.Codec.Depth
import WireModel.Codec.Instance
import WireModel.Codec.Store

/-!
Steps of using a generated package. Values are held between the steps, so that an object which is
changed in one step has changed wherever it is held.
-/

namespace WireModel.Codec

/-- A step of using a package, which keeps what it did to the objects when it fails. -/
abbrev Session (α : Type) := ExceptT CodecError (StateM Store) α

namespace Session

variable (library : Library)

/-- Goes on with an outcome. -/
def ofExcept {α : Type} : Except CodecError α → Session α
  | .ok value => return value
  | .error error => throw error

/-- Goes on with a type that was built. -/
def resolve {α : Type} (step : Resolving α) : Session α := do
  let store ← get
  let (result, memory) := step.run.run store.memory
  set { store with memory := memory }
  match result with
  | .ok value => return value
  | .error (.fault fault) => throw (.fault fault.kind)
  | .error (.generation _) => throw (.fault .wrongValue)

def current : Session Library := do
  return (← get).changedLibrary library

def perform {α : Type} (step : StateM Store α) : Session α := do
  let (value, store) := StateT.run step (← get)
  set store
  return value

def view (value : Value) : Session Value := do
  return (← get).view (← current library) value

def viewAll (values : List Value) : Session (List Value) :=
  values.mapM (view library)

def hold (value : Value) : Session Value :=
  perform (Store.hold value)

def holdOutcome (outcome : Except CodecError Value) : Session Value := do
  hold (← ofExcept outcome)

def replace (value content : Value) : Session Unit :=
  modify fun store => store.replace value content

/-- The held values are one key or one item. -/
def same (value other : Value) : Session Bool := do
  let value ← view library value
  let other ← view library other
  if value.isIdentical other then return true else ofExcept (value.equal other)

/-- Refuses to follow a value that is too deep. -/
def checkDepth (descent : Descent) (value : Value) : Session Unit := do
  if !descent.reaches value then throw (.fault .tooDeep)

def shown (value : Value) : Session String := do
  let value ← view library value
  let text ← ofExcept ((← current library).shown value)
  checkDepth .showing value
  return text

def ofJson (json : Json) : Session Value :=
  hold (.ofJson json)

def list (items : List Value) : Session Value :=
  perform (Store.add (.list items))

def tuple (items : List Value) : Session Value :=
  perform (Store.add (.tuple items))

/-- A map of held values, whose keys were bound one after the other. -/
def map (entries : List (Value × Value)) : Session Value :=
  perform (Store.add (.map entries))

/-- Binds a key in the entries of a map of held values. -/
def bindEntry (entries : List (Value × Value)) (key value : Value) :
    Session (List (Value × Value)) := do
  let viewed ← view library key
  if !viewed.isHashable then throw (.fault .wrongType)
  let keys ← viewAll library (entries.map (·.1))
  if keys.any fun other => other.sameKey viewed then
    return (entries.zip keys).map fun (entry, other) =>
      if other.sameKey viewed then (entry.1, value) else entry
  else
    return entries ++ [(key, value)]

end Session

end WireModel.Codec
