import WireModel.Codec.Equality
import WireModel.Codec.Shown

/-!
Attributes of values and classes: the fields of an instance and what was set on it besides, the
constants and nested classes of a class, and its functions, which an instance binds to itself.
-/

namespace WireModel.Codec

open Schema Text
open Render.Python (attributeName keptName)

def recordFunctions : List String :=
  ["__init__", "__eq__", "__repr__", "to_json"]

/-- The name of the function of a data enum that refuses other variants. -/
def expectName : String :=
  "_expect"

def dataEnumFunctions : List String :=
  ["__init__", "__eq__", "__repr__", expectName, "to_json"]

/-- The comparisons that no class answers. -/
def orderFunctions : List String :=
  ["__lt__", "__le__", "__gt__", "__ge__"]

def callName : String :=
  "__call__"

def constructorName : String :=
  "__init__"

/-- The name under which a class lists its fields. -/
def listingName : String :=
  "__json_fields__"

def decoderName : String :=
  "from_json"

namespace Library

/-- The fields of a record as its class lists them, with their tags. -/
def listedFields (fields : List Field) : Value :=
  .tuple (fields.map fun field => .tuple [.text (attributeName field), .text field.tag])

def bound (path : ClassPath) (name : String) : Option Value → Value
  | some receiver => .method path name receiver
  | none => .function path name

/-- A value that was set as an attribute of a class, as it is got from the class or from an
instance. -/
def boundTo (receiver : Option Value) : Value → Value
  | .function path name => bound path name receiver
  | value => value

def recordMember? (path : ClassPath) (fields : List Field) (receiver : Option Value)
    (name : String) :
    Option Value :=
  if name = listingName then some (listedFields fields)
  else if name = decoderName then some (.method path name (.type path))
  else if name ∈ recordFunctions then some (bound path name receiver)
  else none

/-- An attribute of a data enum: a method of a variant, one that all data enums have, or a class
nested in it. -/
def dataEnumMember? (library : Library) (entity : DataEnum) (receiver : Option Value)
    (name : String) : Option Value :=
  let path := ClassPath.top entity.className
  match method? entity name with
  | some (.factory _) => some (.function path name)
  | some _ => some (bound path name receiver)
  | none =>
    if name = decoderName then some (.method path name (.type path))
    else if name = "variant" then some (.language (.named "property" "<property object>"))
    else if name ∈ dataEnumFunctions then some (bound path name receiver)
    else
      (library.classes.find? fun type =>
        match type.path with
        | .nested outer inner => outer == entity.className && keptName outer inner == name
        | .top _ => false).map fun type => .type type.path

def rootClass : Value :=
  .language (.ofLanguage "object")

/-- The constants of an enumeration by all their names. -/
def namedConstants (constants : Constants) : List (Value × Value) :=
  (constants.entries.map (·.1)).eraseDups.filterMap fun name =>
    if constants.isConstant name then (constants.named? name).map fun value => (.text name, value)
    else none

/-- The constants of an enumeration in their order, each with its name and its tag. -/
def distinctConstants (constants : Constants) : List (String × String) :=
  (namedConstants constants).filterMap fun
    | (.text name, .constant _ first tag) => if name = first then some (name, tag) else none
    | _ => none

/-- What an enumeration knows about its constants. -/
def constantsValue? (constants : Constants) (name : String) : Option Value :=
  let distinct := distinctConstants constants
  match name with
  | "_member_names_" => some (.list (distinct.map fun (name, _) => .text name))
  | "_member_map_" => some (.map (namedConstants constants))
  | "_value2member_map_" => some (.map (distinct.map fun (name, tag) =>
      (.text tag, .constant constants.owner name tag)))
  | "_member_type_" => some rootClass
  | "_unhashable_values_" => some (.list [])
  | "_use_args_" => some (.bool false)
  | "_value_repr_" => some .null
  | _ => none

def ownMember? (library : Library) (path : ClassPath) (receiver : Option Value) (name : String) :
    Option Value :=
  match library.at? path with
  | some (.record _ _ fields) => recordMember? path fields receiver name
  | some (.dataEnum entity) => library.dataEnumMember? entity receiver name
  | some (.enumeration constants) =>
    (constants.named? name).or (constantsValue? constants name)
  | none => none

def commonMember? (library : Library) (path : ClassPath) (receiver : Option Value) (name : String) :
    Option Value :=
  match name with
  | "__module__" => some (.text (library.moduleOf path))
  | "__doc__" => some .null
  | "__weakref__" => if receiver.isSome then some .null else none
  | "__hash__" =>
    match library.at? path with
    | some (.enumeration _) => none
    | _ => some .null
  | "__name__" => if receiver.isNone then some (.text path.name) else none
  | "__qualname__" => if receiver.isNone then some (.text path.qualifiedName) else none
  | _ => none

def enumerationClass : Value :=
  .language (.ofLanguage "Enum")

/-- An attribute that a class has as a value of its own, which its instances do not get. -/
def typeMember? (library : Library) (path : ClassPath) (name : String) : Option Value :=
  match library.at? path, name with
  | some (.enumeration constants), "__members__" =>
    some (.view .proxy (.map (namedConstants constants)))
  | some (.enumeration _), "__class__" => some (.language (.ofLanguage "EnumType"))
  | some _, "__annotations__" => some (.map [])
  | some (.enumeration _), "__base__" => some enumerationClass
  | some (.enumeration _), "__bases__" => some (.tuple [enumerationClass])
  | some (.enumeration _), "__mro__" => some (.tuple [.type path, enumerationClass, rootClass])
  | some _, "__class__" => some (.language (.ofLanguage "type"))
  | some _, "__base__" => some rootClass
  | some _, "__bases__" => some (.tuple [rootClass])
  | some _, "__mro__" => some (.tuple [.type path, rootClass])
  | _, _ => none

/-- What was set as an attribute of a class, as it is got from the class or from an instance. An
instance does not get the names of its class. -/
def changedMember? (library : Library) (path : ClassPath) (receiver : Option Value)
    (name : String) :
    Option Value :=
  if receiver.isSome ∧ (name = "__name__" ∨ name = "__qualname__") then none
  else (library.changed? path name).map (boundTo receiver)

/-- An attribute that a class has from the class of the language that it is derived from, or that an
instance has. -/
def inheritedMember? (library : Library) (path : ClassPath) (receiver : Option Value)
    (name : String) : Option Value :=
  let base := Ancestor.language (library.baseName path)
  match receiver with
  | none =>
    match Model.empty.classAttribute base name with
    | .ok (.bound ..) => some (.method path name (.type path))
    | .ok (.constant (.routine ..)) => some (.function path name)
    | .ok value => some (.ofLanguage value)
    | .error _ => none
  | some value => do
    let slot ← Model.empty.attribute? base name
    match slot.kind with
    | .operator | .method | .function => return .method path name value
    | .classMethod | .classFunction => return .method path name (.type path)
    | .creator => return .function path name
    | _ => return .ofLanguage slot.value

/-- An attribute of a class, or of an instance that has none of that name itself. -/
def classMember? (library : Library) (path : ClassPath) (receiver : Option Value) (name : String) :
    Option Value :=
  (((library.changedMember? path receiver name).orElse fun _ =>
    library.ownMember? path receiver name).orElse fun _ =>
    library.commonMember? path receiver name).orElse fun _ =>
    (if receiver.isNone then library.typeMember? path name else none).orElse fun _ =>
    library.inheritedMember? path receiver name

/-- The parts of an instance by their names. -/
def partsOf (value : Value) : List (String × Value) :=
  (match value.content with
  | .record _ attributes => attributes
  | .choice _ discriminant payload => [("_variant", discriminant), ("_value", payload)]
  | _ => []) ++ value.extras

/-- The class of an instance of a generated class. -/
def classOf? (value : Value) : Option ClassPath :=
  match value.content with
  | .record path _ => some path
  | .choice owner _ _ => some (.top owner)
  | .constant owner _ _ => some owner
  | _ => none

/-- An attribute of a constant that was changed. -/
def alteredAttribute? (attributes : List (String × Value)) : String → Option Value
  | "name" => attributes.lookup "_name_"
  | "value" => attributes.lookup "_value_"
  | name => attributes.lookup name

/-- An attribute that stands before those that were set. -/
def fixedAttribute? (library : Library) (value : Value) (name : String) : Option Value :=
  match value, value.content, name with
  | _, _, "__class__" => (classOf? value).map .type
  | .altered attributes _, _, name => alteredAttribute? attributes name
  | _, .constant _ constantName _, "name" | _, .constant _ constantName _, "_name_" =>
    some (.text constantName)
  | _, .constant _ _ tag, "value" | _, .constant _ _ tag, "_value_" => some (.text tag)
  | _, .constant owner _ _, "__objclass__" => some (.type owner)
  | _, .choice owner discriminant _, "variant" =>
    if (library.changed? (.top owner) name).isNone then some discriminant else none
  | _, .record .., "__dict__" | _, .choice .., "__dict__" =>
    some (.map ((partsOf value).map fun (name, part) => (.text name, part)))
  | _, _, _ => none

/-- The parameters of a function with the texts of their types, and whether they may be left out. A
function that the class takes from elsewhere has none that are written. -/
def writtenParameters (library : Library) (path : ClassPath) (name : String) :
    List (String × String) × Bool :=
  let typed (names : List String) (types : List TypeExpr) : List (String × String) :=
    (names.map (keptName path.name)).zip (types.map fun type => type.text .python)
  match library.at? path with
  | some (.record _ _ fields) =>
    if name = constructorName then
      (typed (fields.map attributeName) (fields.map fun field => field.type), true)
    else ([], false)
  | some (.dataEnum entity) =>
    match method? entity name with
    | some method => (typed method.parameters method.parameterTypes, false)
    | none => ([], false)
  | _ => ([], false)

/-- An attribute of a function, which a method has too. -/
def functionAttribute? (library : Library) (path : ClassPath) (function name : String) :
    Option Value :=
  let (parameters, mayBeLeftOut) := library.writtenParameters path function
  let isWritten := (library.inherited? path function).isNone
  match name with
  | "__name__" => some (.text function)
  | "__qualname__" => some (.text (library.functionName path function))
  | "__doc__" => some .null
  | "__module__" => if isWritten then some (.text (library.moduleOf path)) else none
  | "__annotations__" =>
    if isWritten then some (.map (parameters.map fun (name, type) => (.text name, .text type)))
    else none
  | "__defaults__" =>
    if !isWritten then none
    else if mayBeLeftOut && !parameters.isEmpty then
      some (.tuple (parameters.map fun _ => .null))
    else some .null
  | "__kwdefaults__" | "__closure__" => if isWritten then some .null else none
  | "__dict__" => if isWritten then some (.map []) else none
  | _ => none

/-- A value of the language that has the same attributes as a value of no generated class. Its items
are left out. -/
def standIn : Value → HostType
  | .list _ => .container .list []
  | .tuple _ => .container .tuple []
  | .map _ => .container .map []
  | .view (.listed part) _ => .container (.view part) []
  | .view .proxy _ => .container .proxy []
  | .function .. => .constant (.routine "function" "" "<function>")
  | .method .. => .constant (.routine "method" "" "<bound method>")
  | .object _ _ content => standIn content
  | value => value.asLanguage?.getD (.named "object" "<object object>")

/-- An attribute of a value that is no instance of a generated class. -/
def plainAttribute? (library : Library) (value : Value) (name : String) : Option Value :=
  let found :=
    match value.content, name with
    | .function path function, name => library.functionAttribute? path function name
    | .method _ _ receiver, "__self__" => some receiver
    | .method path function _, "__func__" => some (.function path function)
    | .method path function _, name => library.functionAttribute? path function name
    | .view (.listed _) whole, "mapping" => some (.view .proxy whole)
    | _, _ => none
  found.orElse fun _ =>
    match (standIn value).getAttribute .empty name with
    | .ok value => some (.ofLanguage value)
    | .error _ => none

def «attribute» (library : Library) (value : Value) (name : String) : Except CodecError Value :=
  let found :=
    match value.content, classOf? value with
    | .type path, _ => library.classMember? path none name
    | _, some path =>
      ((library.fixedAttribute? value name).or
        (((partsOf value).lookup name).filter Value.isSet)).or
        (library.classMember? path (some value) name)
    | _, none => library.plainAttribute? value name
  match found.filter Value.isSet with
  | some value => .ok value
  | none => .error (.fault .missingAttribute)

/-- What a name in the package stands for, with names of attributes behind it. -/
def member (library : Library) (qualifiedName : String) : Except CodecError Value :=
  match partsAt '.' qualifiedName with
  | name :: names =>
    match library.at? (.top name) with
    | some type => names.foldlM library.attribute (.type type.path)
    | none => .error (.fault .missingAttribute)
  | [] => .error (.fault .missingAttribute)

/-- An attribute that every instance has already takes no value of any other kind than its own. -/
def checkAttribute (name : String) (value : Value) : Except CodecError Unit :=
  match name, value.content with
  | "__class__", .type _ => .ok ()
  | "__class__", _ => .error (.fault .wrongType)
  | "__dict__", content => if content.kind = .map then .ok () else .error (.fault .wrongType)
  | "__weakref__", _ => .error (.fault .missingAttribute)
  | _, _ => .ok ()

def makeRecord (path : ClassPath) (attributes : List (String × Value)) :
    Except CodecError Value := do
  attributes.forM fun (name, value) => checkAttribute name value
  return .record path attributes

/-- The name is that of an attribute which instances of the class have and which cannot be set: the
second name of the discriminant, or the name and the tag of a constant. -/
def isFixed (library : Library) (path : ClassPath) (name : String) : Bool :=
  match library.at? path with
  | some (.dataEnum _) => name == "variant" && (library.changed? path name).isNone
  | some (.enumeration _) => name == "name" || name == "value"
  | _ => false

/-- Refuses an attribute that cannot be set on a class. -/
def checkClassAttribute (library : Library) (path : ClassPath) (name : String) (value : Value) :
    Except CodecError Unit :=
  match library.at? path, name with
  | _, "__name__" | _, "__qualname__" =>
    match value.content with
    | .text _ => .ok ()
    | _ => .error (.fault .wrongType)
  | _, "__class__" | _, "__bases__" => .error (.fault .wrongType)
  | _, "__dict__" | _, "__mro__" | _, "__base__" => .error (.fault .missingAttribute)
  | some (.enumeration constants), name =>
    if name == "__members__" || ((constants.named? name).isSome && constants.isConstant name) then
      .error (.fault .missingAttribute)
    else .ok ()
  | _, _ => .ok ()

end Library

end WireModel.Codec
