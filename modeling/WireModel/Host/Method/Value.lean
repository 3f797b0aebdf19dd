import WireModel.Host.Method.Bytes
import WireModel.Host.Method.Container
import WireModel.Host.Method.Number
import WireModel.Host.Operation.Instance

/-!
Methods that all values have, or all classes and types: comparisons, texts, attributes, brackets and
bars, and what a class knows about its ancestors.
-/

namespace WireModel

open Text

namespace HostType

/-- A class compares its values with another value. -/
def isComparable (owner : String) (value other : HostType) : Bool :=
  match owner with
  | "str" => other.asText?.isSome
  | "int" => other.integer?.isSome
  | "float" => other.numeral?.isSome
  | "complex" =>
    other.numeral?.isSome || (match other with | .constant (.complex ..) => true | _ => false)
  | _ => value.typeName == other.typeName

def orderedClasses : List String :=
  ["str", "int", "float", "bytes", "slice"]

/-- What a comparison says as a method of a class, which may leave it open. -/
def compareAs (owner : String) (comparison : Comparison) (value other : HostType) :
    Except Fault HostType := do
  let isRoot := owner = "object"
  match comparison.isOrder with
  | true =>
    if owner ∈ orderedClasses && isComparable owner value other then
      return ofBool (← value.ordered comparison other)
    else return undecided
  | false =>
    if isRoot && !value.isIdentical other then
      if comparison = .notEqual && isComparable value.typeName value other then
        return ofBool !(value.same other)
      else return undecided
    else if isRoot || isComparable owner value other then
      return ofBool (value.same other == (comparison == .equal))
    else return undecided

def shownAs (owner : String) (value : HostType) : String :=
  match owner, value.numeral?, value.asText? with
  | "int", some (.integer number), _ => toString number
  | "str", _, some content => quoted content
  | _, _, _ => value.shown

/-- The text that a value is written as, by a class. -/
def writtenAs (owner : String) (value : HostType) : String :=
  match owner with
  | "object" | "int" => shownAs owner value
  | _ => value.written

def attributeName (type : HostType) : Except Fault String :=
  match type.asText? with
  | some name => .ok name
  | Option.none =>
    .error (.wrongOperands ("attribute name must be string, not '" ++ type.typeName ++ "'"))

def changeAttribute (model : Model) (value : HostType) (name : String) : Except Fault HostType :=
  match value.asClass? with
  | some (.language owner) =>
    .error (.wrongOperands ("cannot set " ++ quoted name ++ " attribute of immutable type '" ++
      owner ++ "'"))
  | some (.declared _) => .ok .none
  | Option.none =>
    match value, value.getAttribute model name with
    | .record (.declared _) _, _ => .ok .none
    | value, .ok _ =>
      .error (.operation .missingAttribute
        ("'" ++ value.typeName ++ "' object attribute '" ++ name ++ "' is read-only"))
    | _, .error fault => .error fault

/-- A bar between two types, which other values leave open. -/
def openBar (left right : HostType) : Building HostType :=
  tryCatch (left.bar right) fun fault =>
    match fault with
    | .unsupportedUnion .. => return undecided
    | fault => throw fault

/-- What stands in brackets behind a type, one value or the items of a tuple. -/
def bracketed (target key : HostType) : Building HostType :=
  match key with
  | .container .tuple items => target.subscript items true
  | key => target.subscript [key] false

/-- The declared classes that are derived from a class without another one between. -/
def directlyDerived (model : Model) (type : Ancestor) : List HostType :=
  model.classes.filterMap fun found =>
    if found.parents.contains type then some (.declared found.ref) else Option.none

/-- What a class answers about itself. -/
def classMethod? (model : Model) (type : HostType) (name : String) (given : Given) :
    Option (Except Fault HostType) :=
  match name, type.asClass?, given.at? 0 with
  | "mro", some found, _ =>
    some (.ok (.container .list ((model.ancestryOf found).map Ancestor.asValue)))
  | "__subclasses__", some found, _ => some (.ok (.container .list (directlyDerived model found)))
  | "__instancecheck__", some _, some value => some (value.isInstance model type)
  | "__subclasscheck__", some _, some value => some (value.isDerived model type)
  | "__instancecheck__", Option.none, some value =>
    if type.classesIn?.isSome then some (value.isInstance model type) else Option.none
  | "__subclasscheck__", Option.none, some value =>
    if type.classesIn?.isSome then some (value.isDerived model type) else Option.none
  | _, _, _ => Option.none

/-- What a set of flags or an enumeration answers. -/
def memberMethod? (model : Model) (value : HostType) (name : String) (given : Given) :
    Option (Except Fault HostType) :=
  let other := (given.at? 0).getD .none
  match value.flags?, operatorOf? name, name with
  | some _, some (isTurned, operator), _ =>
    some (match if isTurned then flagOperation model operator other value
        else flagOperation model operator value other with
      | some result => .ok result
      | Option.none => .ok undecided)
  | some _, _, "__invert__" => some (unaryOperation model .inverted value)
  | some (owner, content), _, "__len__" =>
    some (.ok (ofInt (flagsIn model owner content).length))
  | _, _, "__contains__" => some do return ofBool (← other.isContained model value)
  | _, _, "__iter__" =>
    (value.items? model).map fun items => .ok (.container (.stream "generator") items)
  | _, _, "__reversed__" =>
    (value.items? model).map fun items => .ok (.container (.stream "generator") items.reverse)
  | _, _, "__len__" => (value.items? model).map fun items => .ok (ofInt items.length)
  | _, _, _ => Option.none

/-- What a method gives that every value, every class or every type has. -/
def commonMethod? (context : MethodContext) (owner : String) (value : HostType) (name : String)
    (given : Given) (arguments : CallArguments) : Option (Building HostType) :=
  let model := context.model
  let settled (answer : Except Fault HostType) : Option (Building HostType) :=
    some do return ← answer
  match name, given.at? 0 with
  | "__repr__", _ => some do return .text (shownAs owner value)
  | "__str__", _ => some do return .text (writtenAs owner value)
  | "__format__", _ => some do
    let spec ← textAt given 0 (argumentMustBeText name "")
    return .text (← value.formatted spec)
  | "__bool__", _ => some do return ofBool value.isTrue
  | "__init__", _ | "__init_subclass__", _ | "__getstate__", _ => some do return .none
  | "__subclasshook__", _ => some do return undecided
  | "__call__", _ => some (context.call value arguments)
  | "__getattribute__", some key | "__getattr__", some key => some do
    value.getAttribute model (← key.attributeName)
  | "__setattr__", some key | "__delattr__", some key => some do
    value.changeAttribute model (← key.attributeName)
  | "__class_getitem__", some key => some (value.bracketed key)
  | "__or__", some other => some (value.openBar other)
  | "__ror__", some other => some (other.openBar value)
  | "__getitem__", some key => some (itemAtKey model value key)
  | name, other =>
    match (classMethod? model value name given).or (memberMethod? model value name given) with
    | some answer => settled answer
    | Option.none =>
      match Comparison.ofMethod? name, other with
      | some comparison, some other => settled (compareAs owner comparison value other)
      | _, _ => Option.none

end HostType

end WireModel
