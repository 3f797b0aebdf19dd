import WireModel.Host.Evaluation

/-!
What string annotations stand for: an expression is evaluated, and then the strings inside its value
are evaluated in their turn. A string that is met again while it is evaluated stays a reference.
-/

namespace WireModel

namespace HostType

/-- How a reference to the expression of a text is resolved. -/
abbrev Resolver := Nat → String → Evaluation HostType

/-- The strings among the arguments of a native form are expressions, all of them before any is
evaluated. -/
def checkTexts (args : List HostType) : Except Fault Unit :=
  args.forM fun arg =>
    match arg.asText? with
    | some expression => discard (Expression.ofText expression)
    | Option.none => .ok ()

mutual

/-- Replaces the references inside a type by what they stand for. A type in which this changes
nothing is not built again. -/
def resolveReferences (onReference : Resolver) : HostType → Evaluation HostType
  | .reference serial expression => onReference serial expression
  | .applied .literal args => return .applied .literal args
  | .applied head args => do
    if head.isNative then checkTexts args
    let resolved ← resolveAll onReference head.isNative args
    return .applied head (if sameList args resolved then args else resolved)
  | .union spelling members => do
    let resolved ← resolveAll onReference false members
    if sameList members resolved then return .union spelling members
    else
      match spelling with
      | .native => bars resolved
      | .qualified => unionOf resolved true
  | .annotated base metadata => do
    let resolved ← resolveReferences onReference base
    if base.same resolved then return .annotated base metadata else resolved.withMetadata metadata
  | type => return type

/-- Replaces the references inside some types. The flag says that strings among them are
references. -/
def resolveAll (onReference : Resolver) (hasTexts : Bool) :
    List HostType → Evaluation (List HostType)
  | [] => return []
  | type :: rest => do
    let type ←
      match hasTexts, type.asText? with
      | true, some expression => do onReference (← Building.newReference false) expression
      | _, _ => resolveReferences onReference type
    return type :: (← resolveAll onReference hasTexts rest)

end

end HostType

namespace Scope

/-- The longest chain of strings that stand for strings. -/
def maxChain : Nat := 100

/-- How deep functions may be inside functions. -/
def maxDepth : Nat := 900

/-- What expressions of a scope are evaluated in, where texts and functions that are evaluated on
the way may be so deep inside each other. -/
def setting (scope : Scope) : Nat → Setting
  | 0 => ⟨scope, fun _ _ => throw .tooDeep, fun _ _ => throw .tooDeep⟩
  | depth + 1 =>
    ⟨scope, fun locals text => (setting scope depth).evaluateText locals text,
      fun serial arguments => (setting scope depth).applyFunction serial arguments⟩

/-- The type that a reference stands for, given the strings that are being evaluated; each string
inside it takes one unit of fuel. Where a reference has all its names in one module, it stands for
what it was found to stand for before. -/
def resolve (scope : Scope) : Nat → List String → Nat → String → Evaluation HostType
  | 0, _, _, _ => throw .tooDeep
  | fuel + 1, begun, serial, text => do
    if begun.contains text then return .reference serial text
    let known := (← getThe Memory).reference serial
    match known.value, scope.record with
    | some value, none => return value
    | _, _ =>
      let expression ← Expression.ofText text
      let value ← (scope.setting maxDepth).evaluateWhole expression
      let type ← value.checkedForm known.allowsClassVar .reference
      let type ← type.resolveReferences (scope.resolve fuel (text :: begun))
      Building.settle serial type
      return type

def typeOfText (scope : Scope) (text : String) (allowsClassVar : Bool) : Evaluation HostType := do
  discard (Expression.ofText text)
  scope.resolve maxChain [] (← Building.newReference allowsClassVar) text

/-- The type that an annotation of a record stands for: the absent value for its type, and all
strings evaluated. -/
def fieldType (scope : Scope) (type : HostType) : Evaluation HostType :=
  match type, type.asText? with
  | .none, _ => return .noneType
  | _, some expression => scope.typeOfText expression true
  | type, _ => type.resolveReferences (scope.resolve maxChain [])

end Scope

end WireModel
