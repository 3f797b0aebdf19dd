import WireModel.Host.LanguageClass.Data
import WireModel.Host.Signature

/-!
Attributes of values. What computes a value for an instance comes first, then what an instance has
of its own, then what its class or the nearest of its ancestors has; a class is an instance of its
own class, and its own ancestors come before those of that class.
-/

namespace WireModel

open Text

def Variant.asValue (variant : Variant) : HostType :=
  let pair (field : String × HostType) : HostType := .container .tuple [.text field.1, field.2]
  let (shape, slots, fields) :=
    match variant.payload with
    | .unit => ("unit", [], [])
    | .tuple slots => ("tuple", slots, [])
    | .object fields => ("object", [], fields.map pair)
  .record .variant [
    ("shape", .text shape),
    ("slots", .container .tuple slots),
    ("fields", .container .tuple fields),
    ("rename", variant.rename.elim .none .text)]

/-- An entry as the value that a record keeps about it. -/
def RecordEntry.asValue (entry : RecordEntry) : HostType :=
  let missing : HostType := .named "_MISSING_TYPE" "<dataclasses._MISSING_TYPE object>"
  let role := match entry.role with
    | .field => "_FIELD"
    | .classVariable => "_FIELD_CLASSVAR"
    | .parameter => "_FIELD_INITVAR"
  .record .field [
    ("name", .text entry.name),
    ("type", entry.type),
    ("default", entry.default.getD missing),
    ("default_factory", missing),
    ("init", .constant (.bool true)),
    ("repr", .constant (.bool true)),
    ("hash", .none),
    ("compare", .constant (.bool true)),
    ("metadata", .container .proxy []),
    ("kw_only", .constant (.bool false)),
    ("_field_type", .named "_FIELD_BASE" role)]

namespace ClassDecl

/-- The member that a name stands for, which may be another name of an earlier member. -/
def member? (declared : ClassDecl) (name : String) : Option Member := do
  let found ← declared.memberNames.find? fun member => member.name == name
  declared.memberNames.find? fun member => member.value.same found.value

def memberValue (declared : ClassDecl) (member : Member) : HostType :=
  .constant (.member declared.ref member.name member.value)

def memberValue? (declared : ClassDecl) (name : String) : Option HostType :=
  (declared.member? name).map declared.memberValue

def parameterValues (declared : ClassDecl) : HostType :=
  .container .tuple (declared.ref.parameters.map .variable)

/-- A base is written with brackets, or is no class for another reason. -/
def hasWrittenBases (declared : ClassDecl) : Bool :=
  declared.bases.any fun base => !base.isClass

def isEnumeration (declared : ClassDecl) : Bool :=
  match declared.ref.category with
  | .enumeration _ => true
  | _ => false

def memberEntries (declared : ClassDecl) : List (String × HostType) :=
  declared.memberNames.filterMap fun member =>
    (declared.memberValue? member.name).map fun value => (member.name, value)

/-- The names of the class that hold values, besides its members and variants. -/
def namedValue? (declared : ClassDecl) (name : String) : Option HostType :=
  let forRecord (value : List RecordEntry → HostType) : Option HostType :=
    declared.entries.map value
  match name with
  | "__module__" => some (.text declared.ref.module)
  | "__doc__" =>
    some (declared.entries.elim .none fun entries => .text (declared.signature entries))
  | "__annotations__" => declared.annotations.map .ofFields
  | "__data_enum_variants__" =>
    if declared.variants.isEmpty then none
    else some (.container .tuple (declared.variants.map fun variant =>
      .container .tuple [.text variant.name, variant.asValue]))
  | "__dataclass_fields__" => forRecord fun entries =>
      .ofFields (entries.map fun entry => (entry.name, entry.asValue))
  | "__dataclass_params__" => forRecord fun _ => .named "_DataclassParams"
      "_DataclassParams(init=True,repr=True,eq=True,order=False,unsafe_hash=False,frozen=False)"
  | "__match_args__" => forRecord fun entries =>
      .container .tuple ((entries.filter RecordEntry.isParameter).map fun entry => .text entry.name)
  | "__hash__" => forRecord fun _ => .none
  | "__parameters__" =>
    if declared.ancestry.contains (.language "Generic") then some declared.parameterValues else none
  | "__orig_bases__" =>
    if declared.hasWrittenBases then some (.container .tuple declared.bases) else none
  | "_member_names_" =>
    if declared.isEnumeration then
      some (.container .list (declared.members.map fun (member : Member) => .text member.name))
    else none
  | "_member_map_" =>
    if declared.isEnumeration then some (.ofFields declared.memberEntries) else none
  | _ => none

/-- A value that the class itself has under a name. -/
def ownValue? (declared : ClassDecl) (name : String) : Option HostType :=
  ((declared.memberValue? name).or
    ((declared.variants.find? fun variant => variant.name == name).map Variant.asValue)).or
    (declared.namedValue? name)

def recordFunctions : List String :=
  ["__init__", "__repr__", "__eq__"]

end ClassDecl

namespace HostType

def ofLanguage (name : String) : HostType :=
  match name with
  | "Any" => .builtin .any
  | "Box" => .builtin .box
  | "Generic" => .builtin .genericForm
  | "Annotated" => .builtin .annotatedForm
  | "NoneType" => .noneType
  | name =>
    match Primitive.ofName? name with
    | some type => .primitive type
    | Option.none =>
      .builtin (.classNamed (((LanguageClass.find? name).map LanguageClass.dotted).getD name))

def asClass? : HostType → Option Ancestor
  | .primitive type => if type.isMarker then Option.none else some (.language type.name)
  | .declared ref => some (.declared ref)
  | .noneType => some (.language "NoneType")
  | .builtin type =>
    match type with
    | .classNamed name => some (.language (lastComponent name))
    | .any => some (.language "Any")
    | .box => some (.language "Box")
    | .annotatedForm => some (.language "Annotated")
    | .genericForm => some (.language "Generic")
    | _ => Option.none
  | _ => Option.none

end HostType

namespace Ancestor

def asValue : Ancestor → HostType
  | .declared ref => .declared ref
  | .language name => .ofLanguage name

def name : Ancestor → String
  | .declared ref => ref.name
  | .language name => name

def qualifiedName : Ancestor → String
  | .declared ref => ref.qualifiedName
  | .language name => name

/-- The class is made by no declaration, not even one of the language itself. -/
def isBuiltIn : Ancestor → Bool
  | .declared _ => false
  | .language name =>
    match LanguageClass.find? name with
    | some type => type.module ∉ ["typing", "enum", "dataclasses", "dtogen.host"]
    | none => true

/-- The class of a class of the language, if it is not the usual one. -/
def metaclass? : Ancestor → Option String
  | .declared _ => none
  | .language name => do
    let type ← LanguageClass.find? name
    if type.metaclass = "type" then none else some type.metaclass

end Ancestor

/-- An attribute as a class keeps it. -/
structure Attribute where
  /-- The class. -/
  owner : Ancestor
  kind : AttributeKind
  name : String
  /-- What a class has there; for an instance, a value of the same type. -/
  value : HostType

namespace Attribute

def qualifiedName (slot : Attribute) : String :=
  slot.owner.qualifiedName ++ "." ++ slot.name

def routine (typeName qualifiedName shown : String) : HostType :=
  .constant (.routine typeName qualifiedName shown)

/-- A value of which only the type is known. -/
def placeholder (entry : LanguageAttribute) : HostType :=
  match entry.source, entry.typeName with
  | some source, some typeName => routine typeName source ("<" ++ typeName ++ " " ++ source ++ ">")
  | none, some "NoneType" => .none
  | none, some "type" => .builtin (.classNamed "object")
  | none, some "tuple" => .container .tuple []
  | none, some typeName => .named typeName ("<" ++ typeName ++ ">")
  | _, none => .named "object" "<object>"

def ofLanguage (type : LanguageClass) (entry : LanguageAttribute) : Attribute :=
  ⟨.language type.name, entry.kind, entry.name, placeholder entry⟩

/-- The text of a part of a class that works on its instances. -/
def shownPart (slot : Attribute) (part : String) : String :=
  "<" ++ part ++ " '" ++ slot.name ++ "' of '" ++ slot.owner.qualifiedName ++ "' objects>"

/-- A routine of the class, bound to a value under the qualified name that it has then. -/
def bind (slot : Attribute) (receiver : HostType)
    (typeName qualifiedName shown : String) : HostType :=
  .bound receiver slot.owner (.routine typeName qualifiedName shown)

/-- A built-in method, bound to a value that is of a class, or is the class. -/
def bindMethod (slot : Attribute) (receiver : HostType) (className : String) : HostType :=
  slot.bind receiver "builtin_function_or_method" (className ++ "." ++ slot.name)
    ("<built-in method " ++ slot.name ++ ">")

/-- A function of the class, bound to a value. -/
def bindFunction (slot : Attribute) (receiver : HostType) : HostType :=
  slot.bind receiver "method" slot.qualifiedName ("<bound method " ++ slot.qualifiedName ++ ">")

def asCreator (slot : Attribute) : HostType :=
  routine "builtin_function_or_method" slot.qualifiedName ("<built-in method " ++ slot.name ++ ">")

def ofClass (slot : Attribute) (type : Ancestor) : HostType :=
  match slot.kind with
  | .operator =>
    routine "wrapper_descriptor" slot.qualifiedName (slot.shownPart "slot wrapper")
  | .method => routine "method_descriptor" slot.qualifiedName (slot.shownPart "method")
  | .computed => routine "getset_descriptor" slot.qualifiedName (slot.shownPart "attribute")
  | .stored => routine "member_descriptor" slot.qualifiedName (slot.shownPart "member")
  | .classMethod => slot.bindMethod type.asValue type.qualifiedName
  | .creator => slot.asCreator
  | .function =>
    routine "function" slot.qualifiedName ("<function " ++ slot.qualifiedName ++ ">")
  | .classFunction => slot.bindFunction type.asValue
  | .property => .named "property" "<property object>"
  | .value | .own => slot.value

/-- What the attribute of an instance of a class is, given what the instance has there. Methods of
the class itself are bound to the class. -/
def ofInstance (slot : Attribute) (receiver : HostType) (type : Ancestor) (own : Option HostType) :
    HostType :=
  match slot.kind with
  | .operator =>
    slot.bind receiver "method-wrapper" slot.qualifiedName
      ("<method-wrapper '" ++ slot.name ++ "'>")
  | .method => slot.bindMethod receiver type.qualifiedName
  | .classMethod => slot.bindMethod type.asValue type.qualifiedName
  | .creator => slot.asCreator
  | .function => slot.bindFunction receiver
  | .classFunction => slot.bindFunction type.asValue
  | .computed | .stored | .property | .own => own.getD slot.value
  | .value => slot.value

/-- The attribute works out a value for each instance. -/
def isComputed (slot : Attribute) : Bool :=
  match slot.kind with
  | .computed | .stored | .property => true
  | _ => false

end Attribute

namespace Model

/-- A class and all those it is derived from, nearest first. -/
def ancestryOf (model : Model) : Ancestor → List Ancestor
  | .declared ref => model.ancestry ref
  | .language name =>
    match LanguageClass.find? name with
    | some type => type.ancestry.map .language
    | none => [.language name, .language "object"]

/-- The name of the class of a class. -/
def metaclass (model : Model) (type : Ancestor) : String :=
  ((model.ancestryOf type).findSome? Ancestor.metaclass?).getD "type"

/-- Instances of the class can be referred to without being kept; the first class in a line of
descent makes it so. -/
def startsReferences (declared : ClassDecl) : Bool :=
  declared.ancestry.drop 1 |>.all fun ancestor =>
    match ancestor with
    | .declared _ => false
    | .language name => name ∈ ["object", "Generic", "list", "dict", "float", "complex", "str"]

/-- The attribute that a class itself has under a name. -/
def ownAttribute? (model : Model) (type : Ancestor) (name : String) : Option Attribute :=
  match type with
  | .language className => do
    let type ← LanguageClass.find? className
    let entry ← type.attribute? name
    return .ofLanguage type entry
  | .declared ref => do
    let declared ← model.find? ref
    match declared.ownValue? name with
    | some value => return ⟨type, .value, name, value⟩
    | none =>
      if declared.entries.isSome && name ∈ ClassDecl.recordFunctions then
        return ⟨type, .function, name, .none⟩
      else if name = "__weakref__" && startsReferences declared then
        return ⟨type, .computed, name, .none⟩
      else none

/-- The attribute of a class: its own, or that of the nearest of its ancestors. -/
def attribute? (model : Model) (type : Ancestor) (name : String) : Option Attribute :=
  (model.ancestryOf type).findSome? fun ancestor => model.ownAttribute? ancestor name

/-- The classes that a class is derived from. -/
def parentsOf (model : Model) : Ancestor → List Ancestor
  | .declared ref => ((model.find? ref).map ClassDecl.parents).getD []
  | .language name =>
    match LanguageClass.find? name with
    | some type => (type.ancestry.drop 1).take 1 |>.map .language
    | none => [.language "object"]

/-- The value that the class of classes works out for a class. -/
def classValue? (model : Model) (type : Ancestor) (name : String) : Option HostType :=
  let declared? : Option ClassDecl :=
    match type with
    | .declared ref => model.find? ref
    | .language _ => none
  match name with
  | "__class__" => some (.ofLanguage (model.metaclass type))
  | "__name__" => some (.text type.name)
  | "__qualname__" => some (.text type.qualifiedName)
  | "__module__" =>
    some (.text (match type with
      | .declared ref => ref.module
      | .language name => ((LanguageClass.find? name).map LanguageClass.module).getD "builtins"))
  | "__bases__" => some (.container .tuple ((model.parentsOf type).map Ancestor.asValue))
  | "__base__" => some (((model.parentsOf type).head?.map Ancestor.asValue).getD .none)
  | "__mro__" => some (.container .tuple ((model.ancestryOf type).map Ancestor.asValue))
  | "__doc__" =>
    if type.name = "type" then some (.named "str" "<str>")
    else (model.ownAttribute? type name).map Attribute.value
  | "__annotations__" =>
    some (.ofFields ((declared?.bind ClassDecl.annotations).getD []))
  | "__members__" => declared?.map fun declared =>
      .container .proxy (declared.memberEntries.map fun (name, value) =>
        .container .tuple [.text name, value])
  | _ => none

def classAttribute (model : Model) (type : Ancestor) (name : String) : Except Fault HostType :=
  let metaclass := model.metaclass type
  let above? := model.attribute? (.language metaclass) name
  let isMissing : Bool :=
    name == "__abstractmethods__" || (name == "__annotations__" && type.isBuiltIn)
  match above?.filter Attribute.isComputed with
  | some above =>
    if isMissing then .error (.noMember name)
    else .ok (above.ofInstance type.asValue type (model.classValue? type name))
  | none =>
    match (model.attribute? type name).filter (·.kind != .own), above? with
    | some found, _ =>
      if found.kind = .property && metaclass = "EnumType" then
        .error (.operation .missingAttribute
          (type.asValue.shown ++ " has no attribute " ++ quoted name))
      else .ok (found.ofClass type)
    | none, some above => .ok (above.ofInstance type.asValue type none)
    | none, none =>
      .error (if metaclass = "EnumType" then .noMember name else .noClassAttribute type.name name)

end Model

namespace Constant

def numberValue? (value : Json) (name : String) : Option HostType :=
  match value, name with
  | .bool value, "real" | .bool value, "numerator" =>
    some (.constant (.int (if value then 1 else 0)))
  | .int value, "real" | .int value, "numerator" => some (.constant (.int value))
  | .bool _, "imag" | .int _, "imag" => some (.constant (.int 0))
  | .bool _, "denominator" | .int _, "denominator" => some (.constant (.int 1))
  | .float value, "real" => some (.constant (.float value))
  | .float _, "imag" => some (.constant (.float (.ofInt 0)))
  | _, _ => none

/-- The value that a constant has under a name. -/
def value? (value : Constant) (name : String) : Option HostType :=
  let number? := value.content?.bind fun content => numberValue? content name
  match value with
  | .member owner memberName content =>
    match name with
    | "name" | "_name_" => some (.text memberName)
    | "value" | "_value_" => some (.ofMemberValue content)
    | "__objclass__" => some (.declared owner)
    | _ => number?
  | .routine typeName qualifiedName _ =>
    match name with
    | "__module__" =>
      if typeName = "builtin_function_or_method" && qualifiedName.contains '.' then some .none
      else Option.none
    | "__name__" => some (.text (lastComponent qualifiedName))
    | "__qualname__" => some (.text qualifiedName)
    | "__objclass__" =>
      some (.ofLanguage (".".intercalate (Text.partsAt '.' qualifiedName).dropLast))
    | _ => none
  | _ => number?

end Constant

namespace HostType

def classOf : HostType → Ancestor
  | .record (.declared ref) _ => .declared ref
  | .constant (.member owner _ _) => .declared owner
  | type => .language (lastComponent type.typeName)

/-- What stands before the brackets of an applied type. -/
def origin? : HostType → Option HostType
  | .applied head _ =>
    match head with
    | .list _ => some (.builtin (.classNamed "list"))
    | .map _ => some (.builtin (.classNamed "dict"))
    | .box => some (.builtin .box)
    | .declared ref => some (.declared ref)
    | .builtin name => some (.builtin (.classNamed name))
    | .generic => some (.builtin .genericForm)
    | .classVar | .literal => Option.none
  | .union .qualified _ => some (.builtin .unionForm)
  | .annotated base _ => some base
  | .builtin .listForm => some (.builtin (.classNamed "list"))
  | .builtin .mapForm => some (.builtin (.classNamed "dict"))
  | _ => Option.none

def arguments? : HostType → Option (List HostType)
  | .applied _ args => some args
  | .union _ members => some members
  | .annotated base _ => some [base]
  | _ => Option.none

def formName? : HostType → Option String
  | .builtin .listForm | .applied (.list .qualified) _ => some "List"
  | .builtin .mapForm | .applied (.map .qualified) _ => some "Dict"
  | .builtin .optionalForm | .union .qualified [_, .noneType] | .union .qualified [.noneType, _] =>
    some "Optional"
  | .builtin .unionForm | .union .qualified _ => some "Union"
  | .builtin .classVarForm | .applied .classVar _ => some "ClassVar"
  | .applied .literal _ => some "Literal"
  | _ => Option.none

def ownValue? (type : HostType) (name : String) : Option HostType :=
  match type, name with
  | .record _ attributes, name => attributes.lookup name
  | .constant value, name => value.value? name
  | .bound receiver _ _, "__self__" => some receiver
  | .bound _ owner (.routine "method" qualifiedName _), "__func__" =>
    some (Attribute.routine "function" (owner.qualifiedName ++ "." ++ lastComponent qualifiedName)
      ("<function " ++ owner.qualifiedName ++ "." ++ lastComponent qualifiedName ++ ">"))
  | .bound _ _ routine, name => routine.value? name
  | .primitive type, "__name__" | .primitive type, "__qualname__" => some (.text type.name)
  | .primitive type, "__supertype__" =>
    some (.primitive (if type = .f32 || type = .f64 then .float else .int))
  | .primitive _, "__module__" => some (.text "dtogen.host")
  | .variable name, "__name__" => some (.text name)
  | .reference _ expression, "__forward_arg__" => some (.text expression)
  | .initVar type, "type" => some type
  | .builtin .renameFunction, "__name__" | .builtin .renameFunction, "__qualname__" =>
    some (.text "rename")
  | .builtin .renameFunction, "__module__" => some (.text "dtogen.host")
  | .builtin (.functionNamed name), "__name__" | .builtin (.functionNamed name), "__qualname__" =>
    some (.text name)
  | .builtin (.functionNamed _), "__module__" => some (.text "builtins")
  | .builtin .optionalForm, "_name" => some (.text "Optional")
  | .builtin .optionalForm, "_getitem" =>
    some (Attribute.routine "function" "Optional" "<function Optional>")
  | .builtin .unionForm, "_name" => some (.text "Union")
  | .builtin .unionForm, "_getitem" =>
    some (Attribute.routine "function" "Union" "<function Union>")
  | .builtin .listForm, "__doc__" => some (.text "A generic version of list.")
  | .builtin .mapForm, "__doc__" => some (.text "A generic version of dict.")
  | type, "__origin__" => type.origin?
  | type, "__args__" => type.arguments?.map (.container .tuple)
  | type, "__parameters__" =>
    type.arguments?.map fun _ => .container .tuple (type.freeVariables.map .variable)
  | .annotated _ metadata, "__metadata__" => some (.container .tuple metadata)
  | _, _ => Option.none

/-- The attributes that a native form has itself; for others it asks what stands before its
brackets. -/
def nativeFormAttributes : List String := [
  "__class__", "__origin__", "__args__", "__unpacked__", "__parameters__",
  "__typing_unpacked_tuple_args__", "__mro_entries__", "__reduce_ex__", "__reduce__", "__copy__",
  "__deepcopy__"]

/-- An attribute of a value that is no class, as its class has it or the value itself. -/
def instanceAttribute? (model : Model) (type : HostType) (name : String) : Option HostType :=
  let owner := type.classOf
  let own? := if name = "__class__" then some owner.asValue else type.ownValue? name
  match model.attribute? owner name with
  | some found =>
    if found.isComputed then some (found.ofInstance type owner own?)
    else some (own?.getD (found.ofInstance type owner Option.none))
  | Option.none => own?

/-- The function that a method takes the attributes from that it lacks. -/
def methodFunction? : HostType → Option HostType
  | .bound _ _ (.routine "method" qualifiedName _) =>
    some (Attribute.routine "function" qualifiedName ("<function " ++ qualifiedName ++ ">"))
  | _ => Option.none

def instanceAttribute (model : Model) (type : HostType) (name : String) : Except Fault HostType :=
  match type.instanceAttribute? model name,
      type.methodFunction?.bind (·.instanceAttribute? model name) with
  | some value, _ | Option.none, some value => .ok value
  | Option.none, Option.none => .error (.noValueAttribute type.typeName name)

/-- The type is a qualified form, which asks what stands before its brackets for what it lacks. -/
def relaysAttributes : HostType → Bool
  | .applied head _ => !head.isNative
  | .union .qualified _ | .annotated .. => true
  | .builtin .listForm | .builtin .mapForm | .builtin .optionalForm | .builtin .unionForm
  | .builtin .classVarForm => true
  | _ => false

/-- The name begins and ends with double underscores. -/
def isReserved (name : String) : Bool :=
  name.startsWith "__" && name.endsWith "__"

/-- The attribute of a value. Native forms have most of their attributes from what stands before
their brackets. Qualified forms have those that they lack, names between double underscores
apart. -/
def getAttribute (model : Model) : HostType → String → Except Fault HostType
  | .annotated base metadata, name =>
    match (annotated base metadata).instanceAttribute model name with
    | .ok value => .ok value
    | .error _ =>
      if isReserved name && name != "__name__" && name != "__qualname__" then
        .error (.noMember name)
      else getAttribute model base name
  | type, name =>
    match type.asClass?, type.origin?.bind asClass? with
    | some owner, _ => model.classAttribute owner name
    | Option.none, origin? =>
      if type.relaysAttributes then
        match type.instanceAttribute model name with
        | .ok value => .ok value
        | .error _ =>
          if name = "__name__" || name = "__qualname__" then
            .ok (.text ((type.formName?.or (origin?.map Ancestor.name)).getD name))
          else if isReserved name then .error (.noMember name)
          else origin?.elim (.error (.noMember name)) fun owner => model.classAttribute owner name
      else
        match type, origin? with
        | .applied .., some owner =>
          if name ∈ nativeFormAttributes then type.instanceAttribute model name
          else model.classAttribute owner name
        | type, _ => type.instanceAttribute model name

end HostType

end WireModel
