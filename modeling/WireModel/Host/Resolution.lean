import WireModel.Error
import WireModel.Host.Annotation

/-!
Closing a type: string annotations are evaluated in the module of their owner, and type variables
are replaced by the types that an instantiation gives them.
-/

namespace WireModel

/-- Types for type variables. -/
abbrev TypeBindings := List (String × HostType)

/-- A step that closes types. What was built before it failed is remembered. -/
abbrev Resolving (α : Type) := ExceptT Failure (StateM Memory) α

/-- A fault is a failure. -/
instance : MonadLift (ExceptT Fault (StateM Memory)) (ExceptT Failure (StateM Memory)) :=
  ⟨ExceptT.adapt .fault⟩

/-- A broken rule of generation is a failure. -/
instance : MonadLift (Except GenerationError) (ExceptT Failure (StateM Memory)) :=
  ⟨fun result => ExceptT.adapt .generation (liftExcept result)⟩

namespace HostType

mutual

/-- Closes a type, given how a string annotation is closed. -/
def closeWith (onText : String → Resolving HostType) (owner : ClassRef) (bindings : TypeBindings) :
    HostType → Resolving HostType
  | .text expression | .reference _ expression => onText expression
  | .variable name =>
    match bindings.lookup name with
    | some type => return type
    | Option.none => throw (.generation (.unboundVariableIn name owner.qualifiedName))
  | .applied head [] => return .applied head []
  | .applied head args => do rebuild head (← closeAllWith onText owner bindings args)
  | .union _ members => do unionOf (← closeAllWith onText owner bindings members) true
  | .annotated base metadata => do (← closeWith onText owner bindings base).annotate metadata
  | type => return type

def closeAllWith (onText : String → Resolving HostType) (owner : ClassRef)
    (bindings : TypeBindings) : List HostType → Resolving (List HostType)
  | [] => return []
  | type :: rest => do
    let type ← closeWith onText owner bindings type
    return type :: (← closeAllWith onText owner bindings rest)

end

end HostType

namespace Model

/-- The type that a string annotation of a class stands for. -/
def evaluate (model : Model) (owner : ClassRef) (expression : String) : Resolving HostType :=
  ExceptT.adapt
    (fun fault => .generation (.unresolvable expression owner.qualifiedName fault))
    (let scope : Scope := ⟨model, owner.module, some owner, none⟩
    scope.run (scope.typeOfText expression false))

/-- Closes a type; each string annotation takes one unit of fuel. -/
def closeAt (model : Model) (owner : ClassRef) (bindings : TypeBindings) :
    Nat → HostType → Resolving HostType
  | 0, type => type.closeWith (fun _ => throw (.fault .tooDeep)) owner bindings
  | fuel + 1, type =>
    type.closeWith
      (fun expression => do
        closeAt model owner bindings fuel (← model.evaluate owner expression))
      owner bindings

/-- Closes a type of a class. What a string annotation stands for holds no string annotation but in
literals, so that few steps suffice; one that stands for itself has no end. -/
def close (model : Model) (owner : ClassRef) (bindings : TypeBindings) (type : HostType) :
    Resolving HostType :=
  model.closeAt owner bindings 4 type

/-- The annotations of a record and its ancestors, evaluated; the nearest class has the last
word. -/
def fieldTypes (model : Model) (ref : ClassRef) : Building (List (String × HostType)) :=
  (model.declarations ref).reverse.foldlM (fun known found => do
    let scope : Scope := ⟨model, found.ref.module, none, some found.ref⟩
    let evaluated (field : String × HostType) : Evaluation (String × HostType) := do
      return (field.1, ← scope.fieldType field.2)
    let own ← scope.run ((found.annotations.getD []).mapM evaluated)
    return own.foldl (fun known field => bindEntry known field.1 field.2) known) []

/-- The fields of a record with their evaluated annotations. -/
def typedFields (model : Model) (ref : ClassRef) : Resolving (List (String × HostType)) := do
  let failure (fault : Fault) : Failure :=
    match fault.kind with
    | .unknownName | .wrongType => .generation (.unreadableFields ref.qualifiedName fault)
    | _ => .fault fault
  let types ← ExceptT.adapt failure (model.fieldTypes ref)
  return (model.fields ref).map fun field =>
    (field.name, (types.lookup field.name).getD field.type)

end Model

end WireModel
