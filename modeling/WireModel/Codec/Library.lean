import WireModel.Codec.Class
import WireModel.Host.Construction
import WireModel.Package
import WireModel.Render.Generation

/-!
A generated package after it was loaded: its classes by name, the types that its type expressions
stand for, and the discriminants of its variants.
-/

namespace WireModel.Codec

open Schema Text

/-- A generated package: its name, the entities that its classes come from, and the attributes that
were set on classes since it was loaded. -/
structure Library where
  package : String
  entities : List Entity
  changes : List (ClassPath × List (String × Value)) := []

namespace Library

/-- All classes of the package. A class whose name is not in its normal form is never asked for. -/
def classes (library : Library) : List Class :=
  (library.entities.filter fun entity => normalized entity.className == entity.className).flatMap
    Class.ofEntity

def class? (library : Library) (qualifiedName : String) : Option Class :=
  library.classes.find? (·.path.qualifiedName == qualifiedName)

def at? (library : Library) (path : ClassPath) : Option Class :=
  library.classes.find? (·.path == path)

def dataEnum? (library : Library) (className : String) : Option DataEnum :=
  match library.at? (.top className) with
  | some (.dataEnum entity) => some entity
  | _ => none

def fields? (library : Library) (path : ClassPath) : Option (List Field) :=
  match library.at? path with
  | some (.record _ _ fields) => some fields
  | _ => none

/-- What was set as an attribute of a class. -/
def changed? (library : Library) (path : ClassPath) (name : String) : Option Value :=
  (library.changes.lookup path).bind (·.lookup name)

/-- A text that a class tells about itself, unless another one was set. -/
def ownText (library : Library) (path : ClassPath) (name text : String) : String :=
  match library.changed? path name with
  | some (.text text) => text
  | _ => text

def nameOf (library : Library) (path : ClassPath) : String :=
  library.ownText path "__name__" path.name

/-- The class whose function of a name a class has: its own, or the one that was set in its place.
Nothing else that may be set can be called like it. -/
def provider (library : Library) (path : ClassPath) (name : String) : Except CodecError ClassPath :=
  match library.changed? path name with
  | none => .ok path
  | some (.function owner other) => if other == name then .ok owner else .error (.fault .wrongType)
  | some _ => .error (.fault .wrongType)

def moduleOf (library : Library) (path : ClassPath) : String :=
  library.ownText path "__module__" (library.package ++ "." ++ Render.moduleName path.outermost)

def ref (library : Library) (type : Class) : ClassRef where
  serial := 0
  module := library.moduleOf type.path
  qualifiedName := type.path.qualifiedName
  name := library.nameOf type.path
  category := type.category
  parameters := []
  brackets := .none

def typeOf (library : Library) (type : Class) : HostType :=
  .declared (library.ref type)

/-- The type that a name stands for: the classes of the package hide the names of the language. -/
def typeNamed (library : Library) (name : String) : Except Fault HostType :=
  match library.at? (.top (normalized name)) with
  | some type => .ok (library.typeOf type)
  | none =>
    match name with
    | "bool" => .ok (.primitive .bool)
    | "int" => .ok (.primitive .int)
    | "float" => .ok (.primitive .float)
    | "str" => .ok (.primitive .str)
    | "list" => .ok (.builtin (.classNamed "list"))
    | "dict" => .ok (.builtin (.classNamed "dict"))
    | _ => .error (.unknownName name)

/-- The type that a type expression stands for, made from those of its parts. -/
def evaluate (library : Library) : TypeExpr → Except Fault HostType
  | .named name => library.typeNamed name
  | .list item => do
    let container ← library.typeNamed "list"
    let item ← library.evaluate item
    (container.subscript [item] false).alone
  | .map key value => do
    let container ← library.typeNamed "dict"
    let key ← library.evaluate key
    let value ← library.evaluate value
    (container.subscript [key, value] true).alone

/-- The type that a type expression stands for. It is read from its text, in which only so many
brackets may stand inside each other. -/
def resolve (library : Library) (type : TypeExpr) : Except Fault HostType :=
  if Expression.maxNesting < type.nesting then .error (.notAnExpression (type.text .python))
  else library.evaluate type

/-- The types that the type expressions of a class stand for. -/
def resolveAll (library : Library) (className : String) (types : List TypeExpr) :
    Except CodecError (List HostType) :=
  match types.mapM library.resolve with
  | .ok types => .ok types
  | .error fault => .error (.mismatch (.unresolvableTypes className fault))

/-- The discriminant of a variant. A private name is looked for as a name of the data enum. -/
def discriminant (entity : DataEnum) (v : Schema.Variant) : Except CodecError Value :=
  match (Constants.ofVariants entity).named?
      (Render.Python.keptName entity.className v.name.upperSnake) with
  | some value => .ok value
  | none => .error (.fault .missingAttribute)

/-- The discriminant of a variant, as methods reach it through the name of the data enum. -/
def ownDiscriminant (entity : DataEnum) (v : Schema.Variant) : Except CodecError Value :=
  if reachesItself entity.className then discriminant entity v
  else .error (.fault .unknownName)

/-- The name of a discriminant. Any value that has a name can stand in its place. -/
def discriminantName (discriminant : Value) : Except CodecError String :=
  let name : Option Value :=
    match discriminant with
    | .constant _ name _ => some (.text name)
    | .altered attributes _ => attributes.lookup "_name_"
    | .object _ extras (.record _ attributes) => (attributes ++ extras).lookup "name"
    | .object _ extras _ => extras.lookup "name"
    | _ => none
  match name with
  | some (.text name) => .ok name
  | some .null => .ok "None"
  | some (.bool value) => .ok (if value then "True" else "False")
  | some (.int value) => .ok (toString value)
  | some (.float value) => .ok value.text
  | _ => .error (.fault .missingAttribute)

/-- The module of a class is found under the name by which it is loaded, and holds a class of the
name that is asked for. Both names are in their normal form. -/
def checkModule (entities : List Entity) (entity : Entity) : Except Fault Unit :=
  let module := normalized (Render.moduleName entity.className)
  match entities.find? fun other => Render.moduleName other.className == module with
  | none => .error (.operation .missingModule ("No module named " ++ quoted module))
  | some other =>
    if normalized other.className = normalized entity.className then .ok ()
    else .error (.operation .missingName ("cannot import name " ++ quoted entity.className))

/-- The package can be loaded: its modules are found, and the names of its constants can be set. -/
def check (library : Library) : Except Fault Unit :=
  library.entities.forM fun entity => do
    checkModule library.entities entity
    (Class.ofEntity entity).forM fun
      | .enumeration constants => constants.check
      | _ => .ok ()

/-- Generates the classes that some types need as one package, and loads it. -/
def ofTypes (package : String) (model : Model) (types : List HostType) : Resolving Library := do
  let schema ← Schema.ofTypes .python model types
  let generated ← schema.generate .python
  match Package.moduleClash? [] generated with
  | some (first, second, module) => throw (.generation (.moduleClash first second module))
  | none =>
    let library : Library := { package := package, entities := schema.entities }
    library.check
    return library

end Library

end WireModel.Codec
