import WireModel.Host.Declaration
import WireModel.Host.Resolution

/-!
Models in JSON: a list of declarations, whose types are names or objects with one leading key.
-/

namespace WireModel

namespace Notation

def missing {α : Type} (name : String) : Resolving α :=
  throw (.fault (.undeclared name))

/-- The names that are neither primitive nor declared. -/
def special? : String → Option HostType
  | "any" => some (.builtin .any)
  | "bytes" => some (.builtin (.classNamed "bytes"))
  | "object" => some (.builtin (.classNamed "object"))
  | "complex" => some (.builtin (.classNamed "complex"))
  | "none" => some .none
  | "nonetype" => some .noneType
  | "list" => some (.builtin (.classNamed "list"))
  | "dict" => some (.builtin (.classNamed "dict"))
  | "List" => some (.builtin .listForm)
  | "Dict" => some (.builtin .mapForm)
  | "Box" => some (.builtin .box)
  | "one" => some (.constant (.int 1))
  | _ => none

/-- The type of a name: a primitive, a declared class, or a special name. -/
def readName (model : Model) (name : String) : Resolving HostType :=
  match Primitive.ofName? name with
  | some type => return .primitive type
  | none =>
    match model.named? name with
    | some ref => return .declared ref
    | none =>
      match special? name with
      | some type => return type
      | none => missing name

def readMetadata : Json → Resolving HostType
  | .object entries =>
    match entries.lookup "rename" with
    | some tag => return .record .rename [("json_name", .ofJson tag)]
    | none => missing "rename"
  | note => return .ofJson note

def literalType (values : List Json) : HostType :=
  .applied .literal (HostType.distinctLiterals (HostType.ofItems values))

def textAt (json : Json) (key : String) : Resolving String :=
  match json.get? key with
  | some (.string text) => return text
  | _ => missing key

def textAtOr (json : Json) (key default : String) : String :=
  ((json.get? key).bind Json.asText?).getD default

/-- The array at a key of an object; without the key it is empty. -/
def arrayAt (json : Json) (key : String) : List Json :=
  ((json.get? key).bind Json.asArray?).getD []

mutual

/-- Reads a type. The leading key of an object says which form it has. -/
def readType (model : Model) : Json → Resolving HostType
  | .string name => readName model name
  | .object (("list", item) :: _) => do
    return .applied (.list .native) [← readType model item]
  | .object (("List", item) :: _) => do
    HostType.subscript (.builtin .listForm) [← readType model item] false
  | .object (("map", .array [key, value]) :: _) => do
    let key ← readType model key
    return .applied (.map .native) [key, ← readType model value]
  | .object (("Map", .array [key, value]) :: _) => do
    let key ← readType model key
    HostType.subscript (.builtin .mapForm) [key, ← readType model value] true
  | .object (("opt", item) :: _) => do (← readType model item).optional
  | .object (("union", .array members) :: _) => do
    HostType.unionOf (← readTypes model members) true
  | .object (("pipe", .array members) :: _) => do HostType.bars (← readTypes model members)
  | .object (("box", item) :: _) => do
    HostType.subscript (.builtin .box) [← readType model item] false
  | .object (("var", .string name) :: _) => return .variable name
  | .object (("fwd", .string text) :: _) => return .text text
  | .object (("ref", .string name) :: rest) => do
    let some ref := model.named? name | missing name
    let type := HostType.declared ref
    match rest with
    | ("args", .array (first :: args)) :: _ =>
      let first ← readType model first
      type.subscript (first :: (← readTypes model args)) (!args.isEmpty)
    | _ => return type
  | .object (("ann", base) :: rest) => do
    let base ← readType model base
    match rest with
    | ("meta", .array (first :: notes)) :: _ =>
      base.annotate (← (first :: notes).mapM readMetadata)
    | ("meta", .array []) :: _ => throw (.fault .annotationMissing)
    | _ => missing "meta"
  | .object (("classvar", item) :: _) => do
    HostType.subscript (.builtin .classVarForm) [← readType model item] false
  | .object (("initvar", item) :: _) => do return .initVar (← readType model item)
  | .object (("tuple", .array items) :: _) => do
    return .applied (.builtin "tuple") (← readTypes model items)
  | .object (("rawlist", .array items) :: _) => do
    return .applied (.list .native) (← readTypes model items)
  | .object (("rawdict", .array items) :: _) => do
    return .applied (.map .native) (← readTypes model items)
  | .object (("literal", .array values) :: _) => return literalType values
  | .object (("special", .string name) :: _) =>
    match special? name with
    | some type => return type
    | none => missing name
  | .object ((key, _) :: _) => missing key
  | _ => missing "type"

def readTypes (model : Model) : List Json → Resolving (List HostType)
  | [] => return []
  | json :: rest => do
    let type ← readType model json
    return type :: (← readTypes model rest)

end

def readField (model : Model) : Json → Resolving (String × HostType)
  | .array [.string name, type] => do return (name, ← readType model type)
  | _ => missing "fields"

/-- Adds a name with a type; a known name keeps its place and takes the new type. -/
def bindFields (fields : List (String × HostType)) : List (String × HostType) :=
  fields.foldl (fun known (name, type) => bindEntry known name type) []

def readFields (model : Model) (json : Json) : Resolving (List (String × HostType)) := do
  return bindFields (← (arrayAt json "fields").mapM (readField model))

def readVariant (model : Model) (json : Json) : Resolving Variant := do
  let name ← textAt json "name"
  let rename := (json.get? "rename").bind Json.asText?
  match ← textAt json "shape" with
  | "unit" => return ⟨name, .unit, rename⟩
  | "tuple" =>
    let slots ← readTypes model (arrayAt json "slots")
    if slots.isEmpty then throw (.generation .emptyTupleVariant)
    return ⟨name, .tuple slots, rename⟩
  | "object" =>
    let fields ← readFields model json
    if fields.any (·.1 == "rename") then
      throw (.fault (.operation .wrongType "got multiple values for keyword argument 'rename'"))
    return ⟨name, .object fields, rename⟩
  | shape => missing shape

/-- Adds a variant; one of the same name keeps its place. -/
def bindVariant (variants : List Variant) (variant : Variant) : List Variant :=
  if variants.any (·.name == variant.name) then
    variants.map fun old => if old.name == variant.name then variant else old
  else
    variants ++ [variant]

def readShape (model : Model) (json : Json) : Resolving ClassShape := do
  match ← textAt json "kind" with
  | "struct" => return .annotated true (← readFields model json)
  | "plain" => return .annotated false (← readFields model json)
  | "enum" =>
    let entries ← (arrayAt json "members").mapM fun
      | .array [.string name, value] => pure (name, value)
      | _ => missing "members"
    match textAtOr json "base" "Enum" with
    | "Enum" => return .enumeration .plain entries
    | "IntEnum" => return .enumeration .integers entries
    | "StrEnum" => return .enumeration .texts entries
    | "Flag" => return .enumeration .flags entries
    | base => missing base
  | "data_enum" =>
    let variants ← (arrayAt json "variants").mapM (readVariant model)
    return .dataEnum (variants.foldl bindVariant [])
  | kind => missing kind

def readDeclaration (module : String) (model : Model) (json : Json) :
    Resolving Declaration := do
  let name ← textAt json "name"
  let bases ← readTypes model (arrayAt json "bases")
  return {
    name := name
    module := textAtOr json "module" module
    qualifiedName := textAtOr json "qualname" name
    boundAs := textAtOr json "as" name
    parameters := (arrayAt json "params").filterMap Json.asText?
    bases := bases
    shape := ← readShape model json }

mutual

/-- The type variables that a value mentions. -/
def variablesOf : Json → List String
  | .object (("var", .string name) :: _) => [name]
  | .object entries => variablesAmong entries
  | .array items => variablesIn items
  | _ => []

/-- The type variables that the items of an array mention. -/
def variablesIn : List Json → List String
  | [] => []
  | item :: rest => variablesOf item ++ variablesIn rest

/-- The type variables that the entries of an object mention. -/
def variablesAmong : List (String × Json) → List String
  | [] => []
  | (_, value) :: rest => variablesOf value ++ variablesAmong rest

end

/-- Refuses a data enum without variants, which is found when its class is there. -/
def checkVariants (declaration : Declaration) (declared : ClassDecl) :
    Except GenerationError Unit :=
  match declaration.shape with
  | .dataEnum _ =>
    if declared.variants.isEmpty then .error (.noVariants declaration.qualifiedName) else .ok ()
  | _ => .ok ()

def readModule (module : String) (model : Model) (declarations : List Json) : Resolving Model :=
  declarations.foldlM (fun model json => do
    let declaration ← readDeclaration module model json
    let model ← model.declare declaration
    if let some declared := model.classes.getLast? then checkVariants declaration declared
    return { model with typeVariables := (model.typeVariables ++ variablesOf json).eraseDups })
      model

end Notation

end WireModel
