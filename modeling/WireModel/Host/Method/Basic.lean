import WireModel.Host.Format.Value
import WireModel.Host.Method.Arity
import WireModel.Host.Operation.Comparison

/-!
What methods work with: how a value is called, the arguments that may be left out, and values as
bounds and sizes.
-/

namespace WireModel

/-- What a method works with. -/
structure MethodContext where
  model : Model
  /-- What a call of a value gives. -/
  call : HostType → CallArguments → Building HostType

/-- The values that a method is given, in the order of its parameters; some may be left out. -/
abbrev Given := List (Option HostType)

def Given.at? (given : Given) (place : Nat) : Option HostType :=
  given[place]?.join

namespace HostType

/-- The answer of an operator that leaves the decision to the other value. -/
def undecided : HostType :=
  .named "NotImplementedType" "NotImplemented"

def asInteger (type : HostType) : Except Fault Int :=
  match type.integer? with
  | some value => .ok value
  | Option.none =>
    .error (.wrongOperands (quoted type.typeName ++ " object cannot be interpreted as an integer"))
where
  quoted (name : String) : String := "'" ++ name ++ "'"

def maxSize : Int := (Nat.pow 2 63 : Int) - 1

def asSize (type : HostType) : Except Fault Int := do
  let value ← type.asInteger
  if value < -maxSize - 1 || maxSize < value then
    throw (.operation .overflow "Python int too large to convert to C ssize_t")
  return value

/-- A value as the number of repetitions. -/
def asCount (type : HostType) : Except Fault Int := do
  let value ← type.asInteger
  if value < -maxSize - 1 || maxSize < value then
    throw (.operation .overflow "cannot fit 'int' into an index-sized integer")
  return value

/-- A value as a bound of a range of places; the absent value and one that is left out are none. -/
def boundOf (given : Option HostType) : Except Fault (Option Int) :=
  match given with
  | Option.none => .ok Option.none
  | some type => type.bound?

/-- The name of the type of a value in complaints about arguments, which tell the absent value by
itself. -/
def argumentName : HostType → String
  | .none => "None"
  | type => type.typeName

/-- A text among the values of a method, or a complaint about what stands in its place. -/
def textAt (given : Given) (place : Nat) (complaint : HostType → String) : Except Fault String :=
  match given.at? place with
  | some type =>
    match type.asText? with
    | some content => .ok content
    | Option.none => .error (.wrongOperands (complaint type))
  | Option.none => .error .missingArgument

/-- The complaint about an argument that must be a text. -/
def mustBeText (type : HostType) : String :=
  "must be str, not " ++ type.typeName

def argumentMustBeText (method argument : String) (type : HostType) : String :=
  method ++ "() argument " ++ argument ++ "must be str, not " ++ type.argumentName

def ofTexts (texts : List String) : HostType :=
  .container .list (texts.map .text)

/-- A place of a range, or what a range of places asks for. -/
def sliceBounds? : HostType → Option (HostType × HostType × HostType)
  | .record .slice [(_, first), (_, last), (_, step)] => some (first, last, step)
  | _ => Option.none

/-- What brackets behind a value give, of which a range of places is one value. -/
def itemAtKey (model : Model) (target key : HostType) : Building HostType :=
  match key.sliceBounds? with
  | some (first, last, step) => target.sliced model first last step
  | Option.none => target.indexed model key

end HostType

end WireModel
