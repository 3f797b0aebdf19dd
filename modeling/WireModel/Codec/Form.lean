import WireModel.Codec.Attribute
import WireModel.Host.Notation

/-!
Types as the decoder sees them, and the notation in which they can be given: primitives, lists and
maps, classes of the package, and types that nothing can be decoded as.
-/

namespace WireModel.Codec

open Schema

/-- What is decoded as a type. -/
inductive Form where
  | bool
  | integer
  | float
  | text
  /-- A list; it should have one argument. -/
  | list (args : List HostType)
  /-- A map; it should have two arguments. -/
  | map (args : List HostType)
  | instanceOf (type : Class)
  | unsupported

/-- The type that values other than the absent one have: of a union its only other member. -/
def content? : HostType → Option HostType
  | .union _ members =>
    match members.filter fun member => !member.same .noneType with
    | [type] => some type
    | _ => none
  | type => some type

/-- The name of a type as the owner of what is decoded as it. -/
def ownerName? : HostType → Option String
  | .primitive type => some type.name
  | .declared ref => some ref.name
  | .builtin (.classNamed name) => some name
  | .builtin .any => some "Any"
  | .builtin .box => some "Box"
  | .builtin .listForm => some "List"
  | .builtin .mapForm => some "Dict"
  | .noneType => some "NoneType"
  | .applied (.list _) _ => some "list"
  | .applied (.map _) _ => some "dict"
  | .union .qualified [_, .noneType] | .union .qualified [.noneType, _] => some "Optional"
  | .union .qualified _ => some "Union"
  | _ => none

namespace Library

/-- What is decoded as a type. -/
def form (library : Library) : HostType → Form
  | .primitive .bool => .bool
  | .primitive .int => .integer
  | .primitive .float => .float
  | .primitive .str => .text
  | .applied (.list _) args => .list args
  | .applied (.map _) args => .map args
  | .builtin .listForm => .list []
  | .builtin .mapForm => .map []
  | .declared ref =>
    match library.class? ref.qualifiedName with
    | some type => .instanceOf type
    | none => .unsupported
  | _ => .unsupported

/-- A value where a type is expected. Nothing can be decoded as but classes, and instances, which
have the decoders of their classes. -/
def valueType (library : Library) (value : Value) : Except CodecError HostType := do
  let classAt (path : ClassPath) : Except CodecError HostType :=
    match library.at? path with
    | some type => return library.typeOf type
    | none => throw (.fault .missingAttribute)
  match value.content with
  | .type path | .record path _ => classAt path
  | .choice owner _ _ => classAt (.top owner)
  | .text text => return .text text
  | .null => return .none
  | .bool value => return .constant (.bool value)
  | .int value => return .constant (.int value)
  | .float value => return .constant (.float value)
  | .language value => return value
  | content => return .constant (.other content.typeName (← library.shown value))

/-- The type that a qualified name of the package stands for. -/
def classType (library : Library) (qualifiedName : String) : Resolving HostType :=
  match library.member qualifiedName >>= library.valueType with
  | .ok type => return type
  | .error _ => throw (.fault (.noValueAttribute "module" qualifiedName))

mutual

/-- Reads a type. The leading key of an object says which form it has. -/
def readType (library : Library) : Json → Resolving HostType
  | .string name => Notation.readName .empty name
  | .object (("cls", .string name) :: _) => library.classType name
  | .object (("list", item) :: _) => do
    return .applied (.list .native) [← library.readType item]
  | .object (("map", .array [key, value]) :: _) => do
    let key ← library.readType key
    return .applied (.map .native) [key, ← library.readType value]
  | .object (("opt", item) :: _) => do (← library.readType item).optional
  | .object (("union", .array members) :: _) => do
    HostType.unionOf (← library.readTypes members) true
  | .object (("pipe", .array members) :: _) => do HostType.bars (← library.readTypes members)
  | .object ((key, _) :: _) => Notation.missing key
  | _ => Notation.missing "type"

def readTypes (library : Library) : List Json → Resolving (List HostType)
  | [] => return []
  | json :: rest => do
    let type ← library.readType json
    return type :: (← library.readTypes rest)

end

end Library

end WireModel.Codec
