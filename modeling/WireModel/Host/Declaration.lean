import WireModel.Host.Inheritance

/-!
Declaring classes: records with the fields of their ancestors, enumerations with their members, and
data enums with their variants.
-/

namespace WireModel

open Text

/-- The shape of a class to be declared. -/
inductive ClassShape where
  /-- A record, or a class with annotations that is not made a record itself. -/
  | annotated (isRecord : Bool) (fields : List (String × HostType))
  | enumeration (base : EnumBase) (entries : List (String × Json))
  | dataEnum (variants : List Variant)

/-- A class to be declared. -/
structure Declaration where
  name : String
  module : String
  qualifiedName : String
  /-- The name under which the module knows the class. -/
  boundAs : String
  parameters : List String
  bases : List HostType
  shape : ClassShape

namespace Declaration

/-- All bases of a class: brackets of type parameters stand last. -/
def allBases (declaration : Declaration) : Building (List HostType) := do
  if declaration.parameters.isEmpty then return declaration.bases
  let parameters := declaration.parameters.map HostType.variable
  return declaration.bases ++ [← HostType.subscript (.builtin .genericForm) parameters true]

def enumerationParent : EnumBase → Ancestor
  | .plain => .language "Enum"
  | .integers => .language "IntEnum"
  | .texts => .language "StrEnum"
  | .flags => .language "Flag"

/-- The classes that the class is derived from. -/
def parents (model : Model) (declaration : Declaration) (bases : List HostType) :
    Except Fault (List Ancestor) :=
  match declaration.shape with
  | .enumeration base _ => .ok [enumerationParent base]
  | _ => Inheritance.parentsOf model bases bases

/-- A name that says something about a class and declares no variant. -/
def isReservedVariantName (name : String) : Bool :=
  name == "__slots__" || name == "__classcell__" || name == "__qualname__"

/-- No variant has a name that says something about its class. -/
def checkVariants (declaration : Declaration) : Except Fault Unit :=
  match declaration.shape with
  | .dataEnum variants =>
    match variants.find? fun variant => isReservedVariantName variant.name with
    | some variant => .error (.reservedVariantName variant.name)
    | none => .ok ()
  | _ => .ok ()

/-- The category of the class: an enumeration if it is derived from one, and a record if an ancestor
is one. -/
def category (model : Model) (declaration : Declaration) (ancestors : List Ancestor) : Category :=
  let enumeration? := ancestors.findSome? fun
    | .declared ref =>
      match ref.category with
      | .enumeration base => some base
      | _ => none
    | .language _ => none
  let hasRecord := ancestors.any fun
    | .declared ref => (model.entries? ref).isSome
    | .language _ => false
  match declaration.shape, enumeration? with
  | .enumeration base _, _ => .enumeration base
  | _, some base => .enumeration base
  | .dataEnum _, _ => .dataEnum
  | .annotated isRecord _, _ => if isRecord || hasRecord then .record else .opaqueClass

/-- The variants among the attributes of a class that is to be a data enum. An enumeration makes
members of most of them, which cannot be if members are numbers or texts. -/
def variantsAmong (declaration : Declaration) (category : Category) (ancestors : List Ancestor)
    (attributes : List Variant) : Except Fault (List Variant) := do
  match category with
  | .enumeration _ =>
    let body ← Enumeration.Body.ofEntries declaration.name
      (attributes.map fun variant => (variant.name, .null))
    let isShaped := ancestors.any fun
      | .language name => Inheritance.hasOwnShape name
      | .declared _ => false
    if isShaped && !body.members.isEmpty then throw (.unsuitedMemberValue .wrongType)
    return attributes.filter fun variant => !body.members.any (·.name == variant.name)
  | _ =>
    -- a generic class has its type parameters under this name
    let isGeneric := ancestors.contains (.language "Generic")
    return attributes.filter fun variant => !(isGeneric && variant.name == "__parameters__")

/-- The class without the entries of a record. -/
def build (model : Model) (declaration : Declaration) : Building ClassDecl := do
  let bases ← declaration.allBases
  let parents ← declaration.parents model bases
  let ancestors ← Inheritance.ancestors model parents
  let parameters ← Inheritance.parameters bases ancestors
  declaration.checkVariants
  let (memberNames, members) ←
    match declaration.shape with
    | .enumeration base entries => Enumeration.build declaration.name base entries
    | _ => pure ([], [])
  let category := declaration.category model ancestors
  let variants ←
    match declaration.shape with
    | .dataEnum attributes => declaration.variantsAmong category ancestors attributes
    | _ => pure []
  let ref : ClassRef := {
    serial := model.classes.length
    module := declaration.module
    qualifiedName := declaration.qualifiedName
    name := declaration.name
    category := category
    parameters := parameters
    brackets := Inheritance.brackets model ancestors }
  return {
    ref := ref
    bases := bases
    parents := if parents.isEmpty then [.language "object"] else parents
    ancestry := .declared ref :: ancestors
    annotations :=
      match declaration.shape with
      | .annotated _ fields => some fields
      | _ => none
    entries := none
    memberNames := memberNames
    members := members
    variants := variants }

def roleOf : HostType → FieldRole
  | .applied .classVar _ => .classVariable
  | .initVar _ => .parameter
  | _ => .field

/-- The value that stands for a field that is left out: an attribute of the class that has its name,
unless instances keep it at a fixed place. What the class is to be as a record is known by then. -/
def defaultOf? (model : Model) (declared : ClassDecl) (name : String) : Option HostType :=
  match (HostType.declared declared.ref).getAttribute model name with
  | .ok (.constant (.routine "member_descriptor" _ _)) => none
  | .ok value => some value
  | .error _ =>
    if name = "__dataclass_params__" then { declared with entries := some [] }.namedValue? name
    else none

def entryOf (model : Model) (declared : ClassDecl) (field : String × HostType) :
    Except Fault RecordEntry := do
  let role := roleOf field.2
  let default := defaultOf? model declared field.1
  if role == .field && default.any HostType.hasUnhashableClass then
    throw (.mutableDefault field.1)
  return ⟨field.1, role, field.2, default⟩

/-- Adds an entry; one of the same name keeps its place. -/
def bindField (entries : List RecordEntry) (entry : RecordEntry) : List RecordEntry :=
  if entries.any (·.name == entry.name) then
    entries.map fun old => if old.name == entry.name then entry else old
  else
    entries ++ [entry]

/-- A parameter that may not be left out stands behind one that may. -/
def misplaced? : List RecordEntry → Option RecordEntry
  | [] => none
  | entry :: rest =>
    if entry.default.isSome then rest.find? (·.default.isNone) else misplaced? rest

/-- The parameters can be declared: those that may be left out stand last, and their names can be
bound and are in their normal form. -/
def checkParameters (parameters : List RecordEntry) : Except Fault Unit := do
  if let some entry := misplaced? parameters then throw (.misplacedField entry.name)
  if let some entry := parameters.find? (!isBindable ·.name) then
    throw (.brokenFieldName entry.name)
  if let some entry := parameters.find? fun entry => normalized entry.name != entry.name then
    throw (.unnormalizedFieldName entry.name)

/-- The entries of a record: those of its ancestors, the farthest first, and then its own. The class
is known to the model. -/
def entriesOf (model : Model) (declared : ClassDecl) : Except Fault (List RecordEntry) := do
  let inherited := (declared.ancestry.drop 1).reverse.flatMap fun
    | .declared ancestor => (model.entries? ancestor).getD []
    | .language _ => []
  let own ← (declared.annotations.getD []).mapM (entryOf model declared)
  let entries := (inherited ++ own).foldl bindField []
  checkParameters (entries.filter RecordEntry.isParameter)
  return entries

end Declaration

def Model.declare (model : Model) (declaration : Declaration) : Building Model := do
  let declared ← declaration.build model
  let extended (declared : ClassDecl) : Model := {
    model with
    classes := model.classes ++ [declared]
    bindings := model.bindings ++ [⟨declaration.module, declaration.boundAs, declared.ref⟩]
    typeVariables := (model.typeVariables ++ declared.ref.parameters).eraseDups }
  match declaration.shape with
  | .annotated true _ =>
    let entries ← Declaration.entriesOf (extended declared) declared
    return extended { declared with entries := some entries }
  | _ => return extended declared

end WireModel
