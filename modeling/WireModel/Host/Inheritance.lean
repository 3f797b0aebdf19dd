import WireModel.Host.Attribute

/-!
What a class is derived from: the classes that its bases stand for, one order for all its ancestors,
and the type parameters that it takes over. The order keeps each class before those it is derived
from, and bases as they are written.
-/

namespace WireModel

namespace Linearization

/-- The first head of the lists that stands in no tail. -/
def candidate? (lists : List (List Ancestor)) : Option Ancestor :=
  (lists.filterMap List.head?).find? fun head =>
    lists.all fun list => !(list.drop 1).contains head

/-- Merges the lists, keeping the order of each. -/
def merge : Nat → List (List Ancestor) → Option (List Ancestor)
  | 0, lists => if lists.all List.isEmpty then some [] else none
  | fuel + 1, lists =>
    if lists.all List.isEmpty then some []
    else do
      let next ← candidate? lists
      let rest ← merge fuel (lists.map fun list =>
        if list.head? = some next then list.drop 1 else list)
      some (next :: rest)

end Linearization

namespace Inheritance

/-- The type is a qualified form with or without brackets, a declared class with brackets, or an
annotated type. -/
def isAlias : HostType → Bool
  | .builtin .listForm | .builtin .mapForm | .annotated .. => true
  | .applied head _ => !head.isNative
  | _ => false

/-- A base that stands behind an alias already makes the class generic. -/
def bringsGeneric (model : Model) (base : HostType) : Except Fault Bool :=
  if isAlias base then .ok true
  else
    match base.asClass? with
    | some type => .ok ((model.ancestryOf type).contains (.language "Generic"))
    | none => .error .unsuitedBases

/-- None of the bases makes the class generic, which is asked up to the first that does. -/
def lacksGeneric (model : Model) : List HostType → Except Fault Bool
  | [] => .ok true
  | base :: rest => do
    if ← bringsGeneric model base then return false
    else lacksGeneric model rest

/-- The classes that a list or a map in the qualified spelling stands for. -/
def ofAlias (model : Model) (bases behind : List HostType) (name : String) :
    Except Fault (List Ancestor) := do
  let isWritten := bases.any ((HostType.builtin (.classNamed name)).same ·)
  let lacks ← lacksGeneric model behind
  return (if isWritten then [] else [.language name]) ++
    (if lacks then [.language "Generic"] else [])

/-- The classes of the language that no class is derived from. -/
def isFinal (name : String) : Bool :=
  name ∈ ["bool", "NoneType", "Generic", "Annotated"]

/-- The class that a type is, if others can be derived from it. -/
def parent (type : HostType) : Except Fault (List Ancestor) :=
  match type.asClass? with
  | some (.language name) =>
    if isFinal name then .error .unsuitedBases else .ok [.language name]
  | some (.declared ref) => .ok [.declared ref]
  | none => .error .unsuitedBases

/-- The classes that a base stands for, given the bases behind it. -/
def parents (model : Model) (bases behind : List HostType) (base : HostType) :
    Except Fault (List Ancestor) :=
  match base with
  | .builtin .listForm | .applied (.list .qualified) _ => ofAlias model bases behind "list"
  | .builtin .mapForm | .applied (.map .qualified) _ => ofAlias model bases behind "dict"
  | .applied (.list .native) _ => .ok [.language "list"]
  | .applied (.map .native) _ => .ok [.language "dict"]
  | .applied (.builtin name) _ => .ok [.language name]
  | .applied .box _ => .ok [.language "Box"]
  | .applied (.declared ref) _ => .ok [.declared ref]
  | .applied .generic _ => .ok (if behind.any isAlias then [] else [.language "Generic"])
  | .annotated base _ => parent base
  | base => parent base

/-- The classes that some bases stand for. -/
def parentsOf (model : Model) (bases : List HostType) : List HostType → Except Fault (List Ancestor)
  | [] => .ok []
  | base :: behind => do
    let first ← parents model bases behind base
    return first ++ (← parentsOf model bases behind)

/-- The classes of the language whose instances have a shape of their own. -/
def hasOwnShape (name : String) : Bool :=
  name ∈ ["int", "float", "complex", "str", "bytes", "tuple", "list", "dict", "set", "frozenset"]

/-- The classes of the language whose instances vary in size, so that each class that is derived
from one directly gives its instances another shape. -/
def sizedClasses : List Ancestor :=
  [.language "int", .language "bytes", .language "tuple"]

/-- The ancestors that are derived from a class directly. -/
def directlyFrom (model : Model) (base : Ancestor) (ancestors : List Ancestor) : List Ancestor :=
  let isBelow (type : Ancestor) : Bool := type != base && (model.ancestryOf type).contains base
  ancestors.filter fun type => isBelow type && !((model.ancestryOf type).drop 1).any isBelow

/-- The instances of all ancestors have one shape, or one that is part of it. -/
def checkShapes (model : Model) (ancestors : List Ancestor) : Except Fault Unit := do
  let shapes := ancestors.filter fun
    | .language name => hasOwnShape name
    | .declared _ => false
  if 1 < shapes.length then throw .unsuitedBases
  if sizedClasses.any fun base => 1 < (directlyFrom model base ancestors).length then
    throw .unsuitedBases

/-- A class that has members cannot be extended, and what makes an enumeration stands last. -/
def checkEnumerations (model : Model) (parents : List Ancestor) : Except Fault Unit := do
  let isEnumeration (type : Ancestor) : Bool := model.metaclass type == "EnumType"
  if parents.any isEnumeration then
    let hasMembers := parents.any fun type =>
      (model.ancestryOf type).any fun
        | .declared ref => !(model.members ref).isEmpty
        | .language _ => false
    if hasMembers || !(parents.getLast?.any isEnumeration) then throw .unsuitedBases
    if parents.any fun type => model.metaclass type == "_AnyMeta" then throw .unsuitedBases

/-- The ancestors of a class that is derived from some classes, nearest first. -/
def ancestors (model : Model) (parents : List Ancestor) : Except Fault (List Ancestor) := do
  let parents := if parents.isEmpty then [.language "object"] else parents
  if parents.eraseDups != parents then throw .unsuitedBases
  checkEnumerations model parents
  let lines := parents.map model.ancestryOf
  match Linearization.merge (lines.flatten.length + parents.length) (lines ++ [parents]) with
  | none => throw .unsuitedBases
  | some ancestors => do
    checkShapes model ancestors
    return ancestors

/-- The type variables of the bases that are no classes, each once. -/
def variablesOf (bases : List HostType) : List String :=
  HostType.freeVariablesOf (bases.filter fun base => !base.isClass)

/-- The type parameters of a class that takes some: those that are written, which then must cover
those of the bases, or else those of the bases. -/
def parameters (bases : List HostType) (ancestors : List Ancestor) :
    Except Fault (List String) := do
  if !ancestors.contains (.language "Generic") then return []
  let inherited := variablesOf bases
  match bases.filterMap written? with
  | [] => return inherited
  | [names] => if inherited.all names.contains then return names else throw .unsuitedBases
  | _ => throw .unsuitedBases
where
  /-- The type variables in the brackets that make a class generic. -/
  written? : HostType → Option (List String)
    | .applied .generic args => some (HostType.freeVariablesOf args)
    | _ => none

/-- What brackets behind a class may hold: the nearest ancestor that takes some decides. -/
def brackets (model : Model) (ancestors : List Ancestor) : Brackets :=
  (ancestors.findSome? fun
    | .language "Generic" => some .parameters
    | .language name =>
      if ((LanguageClass.find? name).bind (·.attribute? "__class_getitem__")).isSome then
        some .anyNumber
      else none
    | .declared ref =>
      if (model.variants ref).any (·.name == "__class_getitem__") then some .none else
        none).getD .none

end Inheritance

end WireModel
