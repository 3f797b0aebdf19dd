import WireModel.Codec.Value
import WireModel.Json.Reader
import WireModel.Host.Fault

/-!
Why a value cannot be decoded, encoded or used.
-/

namespace WireModel.Codec

open Text

/-- Why data does not fit what it is decoded as. The data is told by its text. -/
inductive Mismatch where
  /-- A type that nothing can be decoded as. -/
  | unsupportedType (type : HostType) (owner : String)
  | notAnArray (type : HostType) (owner : String)
  | notAnObject (type : HostType) (owner : String)
  /-- Data of another kind than a primitive type asks for. -/
  | wrongKind (expected data : String)
  /-- No constant of an enumeration has the tag. -/
  | unknownValue (className data : String)
  | invalidKey (key owner : String)
  /-- Data for a record that is no object. -/
  | notARecord (className : String)
  /-- Data that fits no variant of a data enum. -/
  | unrecognized (className : String)
  /-- A payload that is no array of as many items as the variant has slots. -/
  | slotCount (className key : String) (count : Nat)
  /-- Types of a class that cannot be evaluated. -/
  | unresolvableTypes (className : String) (fault : Fault)

/-- The fault of asking a value for the types of its parameters that has none. -/
def notCallable (shown : String) : Fault :=
  .operation .wrongType (shown ++ " is not a module, class, method, or function.")

def Mismatch.message : Mismatch → String
  | unsupportedType type owner => "Unsupported type hint " ++ type.shown ++ " for " ++ owner
  | notAnArray type owner =>
    "Cannot deserialize " ++ type.shown ++ " for " ++ owner ++ ": expected array"
  | notAnObject type owner =>
    "Cannot deserialize " ++ type.shown ++ " for " ++ owner ++ ": expected object"
  | wrongKind expected data => "Cannot deserialize " ++ expected ++ " from " ++ data
  | unknownValue className data => "Cannot deserialize " ++ className ++ ": unknown value " ++ data
  | invalidKey key owner => "Invalid map key " ++ key ++ " for " ++ owner
  | notARecord className => "Cannot deserialize " ++ className ++ ": expected object"
  | unrecognized className => "Cannot deserialize " ++ className
  | slotCount className key count =>
    "Cannot deserialize " ++ className ++ ": expected array of size " ++ toString count ++
      " for field " ++ key
  | unresolvableTypes className fault =>
    "Cannot resolve the type hints of " ++ className ++ ": " ++ fault.text

/-- Why a step of the codec fails. -/
inductive CodecError where
  | mismatch (cause : Mismatch)
  /-- A data enum was used as a variant that it does not hold. -/
  | invalidVariant (name : String)
  | unserializable (typeName : String)
  | unreadable (error : Json.ReadError)
  /-- A fault of any other kind, of which only the kind matters. -/
  | fault (kind : FaultKind)

def CodecError.message? : CodecError → Option String
  | mismatch cause => some cause.message
  | invalidVariant name => some ("Invalid variant: " ++ name)
  | unserializable typeName => some ("Cannot serialize " ++ typeName)
  | unreadable _ | fault _ => none

end WireModel.Codec
