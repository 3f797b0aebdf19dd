import WireModel.Host.Fault

/-!
Types made of types, where nothing is remembered: unions are flat and without repetitions, and the
metadata of nested annotations stand in one list.
-/

namespace WireModel

namespace HostType

/-- The type as an argument: the class of the absent value for this value. -/
def present : HostType → HostType
  | .none => .noneType
  | type => type

def members : HostType → List HostType
  | .union _ members => members
  | type => [type]

/-- Without the types that stand before already. -/
def withoutRepetitions : List HostType → List HostType
  | [] => []
  | type :: rest => type :: (withoutRepetitions rest).filter fun other => !type.same other

/-- The union of some types: flat, each type once, and a single type for itself. -/
def unite (spelling : Spelling) (types : List HostType) : HostType :=
  match withoutRepetitions (types.flatMap members) with
  | [type] => type
  | types => .union spelling types

/-- A value that metadata cannot be attached to. -/
def isBareValue : HostType → Bool
  | .container .. => true
  | .constant value =>
    match value with
    | .bool _ | .int _ | .float _ | .complex .. | .bytes _ => true
    | .other typeName _ => typeName ∈ ["ellipsis", "NotImplementedType"]
    | .member .. | .routine .. => false
  | _ => false

/-- A type with metadata; those of an annotated type stand first. -/
def withMetadata (type : HostType) (metadata : List HostType) : Except Fault HostType :=
  match type with
  | .annotated base inner => .ok (.annotated base (inner ++ metadata))
  | type =>
    if type.isBareValue then .error (.noValueAttribute type.typeName "__module__")
    else .ok (.annotated type metadata)

end HostType

end WireModel
