import WireModel.Codec.Error
import WireModel.Host.Enumeration
import WireModel.Render.PythonClass

/-!
The classes of a generated package as the codec meets them: records and holders with their fields,
enumerations with their constants, and data enums with the methods that their variants bring. Names
are as classes keep them: in their normal form, and private ones under the name of the class.
-/

namespace WireModel.Codec

open Schema Text
open Render.Python (attributeName keptName)

/-- The class of an enumeration: the names that are set in it, in their order, with their tags. -/
structure Constants where
  owner : ClassPath
  entries : List (String × String)

namespace Constants

def ofEnumeration (entity : Schema.Enumeration) : Constants where
  owner := .top entity.className
  entries := entity.constants.map fun constant =>
    (keptName entity.className (Render.pythonIdentifier constant.name.upperSnake), constant.tag)

/-- The name of the class that holds the discriminants of a data enum. -/
def discriminantClass : String :=
  "Variant"

def ofVariants (entity : DataEnum) : Constants where
  owner := .nested entity.className discriminantClass
  entries := entity.variants.map fun v =>
    (keptName discriminantClass v.name.upperSnake, v.name.pascal)

/-- The name stands for a constant; private names are plain texts. -/
def isConstant (constants : Constants) (name : String) : Bool :=
  !isPrivateOf constants.owner.name name && !isDunder name

/-- The constant of a tag: names with one tag are one constant, which has the first of them. -/
def ofTag? (constants : Constants) (tag : String) : Option Value :=
  (constants.entries.find? fun entry => constants.isConstant entry.1 && entry.2 == tag).map
    fun entry => .constant constants.owner entry.1 entry.2

def named? (constants : Constants) (name : String) : Option Value :=
  match constants.entries.reverse.lookup name with
  | some tag => if constants.isConstant name then constants.ofTag? tag else some (.text tag)
  | none => none

/-- The constant of a tag, or the constant itself. -/
def ofValue? (constants : Constants) (value : Value) : Option Value :=
  match value with
  | .text tag => constants.ofTag? tag
  | .constant owner name tag =>
    if owner = constants.owner then some (.constant owner name tag) else none
  | _ => none

def check (constants : Constants) : Except Fault Unit := do
  discard (WireModel.Enumeration.Body.ofEntries constants.owner.name
    (constants.entries.map fun entry => (entry.1, .string entry.2)))

end Constants

/-- A method that a variant brings. -/
inductive Method where
  /-- Makes an instance of the variant. -/
  | factory (v : Schema.Variant)
  /-- Gets the payload of the variant, or one of its slots. -/
  | accessor (v : Schema.Variant) (slot : Option Nat)
  /-- Tells whether an instance is of the variant. -/
  | test (v : Schema.Variant)

def Method.parameters : Method → List String
  | factory v =>
    match v.payload with
    | .unit => []
    | .tuple slots => (List.range slots.length).map fun place => "arg" ++ toString place
    | .object fields => fields.map attributeName
  | accessor .. | test _ => []

def Method.parameterTypes : Method → List TypeExpr
  | factory v =>
    match v.payload with
    | .unit => []
    | .tuple slots => slots
    | .object fields => fields.map (·.type)
  | accessor .. | test _ => []

def factoryName (v : Schema.Variant) : String :=
  normalized ("of_" ++ v.name.snake)

def variantMethods (v : Schema.Variant) : List (String × Method) :=
  let getter := normalized ("get_" ++ v.name.snake)
  (factoryName v, .factory v) ::
  (match v.payload with
  | .unit => []
  | .object _ => [(getter, Method.accessor v none)]
  | .tuple [_] => [(getter, .accessor v (some 0))]
  | .tuple slots => (List.range slots.length).map fun place =>
      (getter ++ toString place, .accessor v (some place))) ++
  [(normalized ("is_" ++ v.name.snake), .test v)]

/-- The methods of a data enum, in their order. -/
def methods (entity : DataEnum) : List (String × Method) :=
  entity.variants.flatMap variantMethods

/-- The method of a name: of several the last, which replaces the others. -/
def method? (entity : DataEnum) (name : String) : Option Method :=
  (methods entity).reverse.lookup name

/-- The name that methods of a class find the class under is its own. -/
def reachesItself (className : String) : Bool :=
  keptName className className == className

/-- A class of a package. -/
inductive Class where
  /-- The label is the name of the class in the texts of its instances. -/
  | record (path : ClassPath) (label : String) (fields : List Field)
  | enumeration (constants : Constants)
  | dataEnum (entity : DataEnum)

namespace Class

def path : Class → ClassPath
  | record path .. => path
  | enumeration constants => constants.owner
  | dataEnum entity => .top entity.className

/-- What the generator calls such a class. -/
def category : Class → Category
  | record .. => .record
  | enumeration _ => .enumeration .plain
  | dataEnum _ => .dataEnum

def holderPath (entity : DataEnum) (v : Schema.Variant) : ClassPath :=
  .nested entity.className (normalized v.name.pascal)

def holder? (entity : DataEnum) (v : Schema.Variant) : Option Class :=
  match v.payload with
  | .object fields => some (.record (holderPath entity v) v.name.pascal fields)
  | _ => none

/-- The classes nested in a data enum. Of holder classes with one name the last one stays, and so
they stand in reverse. -/
def nestedIn (entity : DataEnum) : List Class :=
  .enumeration (.ofVariants entity) :: entity.variants.reverse.filterMap (holder? entity)

def ofEntity : Entity → List Class
  | .record entity => [.record (.top entity.className) entity.className entity.fields]
  | .enumeration entity => [.enumeration (.ofEnumeration entity)]
  | .dataEnum entity => .dataEnum entity :: nestedIn entity

end Class

end WireModel.Codec
