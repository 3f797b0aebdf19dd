import WireModel.Host.Operation.Items

/-!
Which class a value is an instance of, and which classes are among the ancestors of which.
-/

namespace WireModel

namespace HostType

/-- The class of a value, which for a class is the class of classes. -/
def ownClass (model : Model) (type : HostType) : Ancestor :=
  match type.asClass? with
  | some found => .language (model.metaclass found)
  | Option.none => type.classOf

def typeOf (model : Model) (type : HostType) : HostType :=
  (type.ownClass model).asValue

/-- The instances of one class are among those of another one. -/
def isSubclass (model : Model) (type base : Ancestor) : Bool :=
  (model.ancestryOf type).contains base

/-- The classes that a value stands for where classes are asked for. -/
def classesIn? (base : HostType) : Option (List Ancestor) :=
  match base with
  | .container .tuple classes => some (classes.filterMap asClass?)
  | .union _ members => some (members.filterMap asClass?)
  | base => base.asClass?.map fun found => [found]

/-- A value is an instance of a class, or of one of several. -/
def isInstance (model : Model) (type base : HostType) : Except Fault HostType :=
  match base.classesIn? with
  | some classes => .ok (ofBool (classes.any (isSubclass model (type.ownClass model))))
  | Option.none =>
    .error (.wrongOperands "isinstance() arg 2 must be a type, a tuple of types, or a union")

def isDerived (model : Model) (type base : HostType) : Except Fault HostType :=
  match type.asClass?, base.classesIn? with
  | some type, some classes => .ok (ofBool (classes.any (isSubclass model type)))
  | Option.none, _ => .error (.wrongOperands "issubclass() arg 1 must be a class")
  | _, Option.none =>
    .error (.wrongOperands "issubclass() arg 2 must be a class, a tuple of classes, or a union")

end HostType

end WireModel
