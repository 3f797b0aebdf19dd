import WireModel.Host.Expression.Parser
import WireModel.Host.Operation.Items
import WireModel.Host.Scope

/-!
Names that expressions bind. A name has its place before it has a value, so that a function sees
what is bound behind it too; inside functions and comprehensions names belong to these.
-/

namespace WireModel

open Text

/-- A step of an evaluation, which may bind names. -/
abbrev Evaluation := StateT Locals (ExceptT Fault (StateM Memory))

namespace Local

/-- The name is seen where an expression stands. -/
def isSeen (isInner : Bool) (place : Local) : Bool :=
  !isInner || place.reach != .outermost

/-- The name as functions inside the one see it that it belongs to. -/
def fromInside (place : Local) : Local :=
  if place.reach = .own then { place with reach := .around } else place

/-- The name as it is in a copy of all names. -/
def unrestricted (place : Local) : Local :=
  { place with reach := .everywhere }

end Local

namespace Locals

def place? (locals : Locals) (isInner : Bool) (name : String) : Option Local :=
  (locals.find? fun (other, place) => other == name && place.isSeen isInner).map (·.2)

/-- The names as functions inside see them. -/
def fromInside (locals : Locals) : Locals :=
  locals.map fun (name, place) => (name, place.fromInside)

def unrestricted (locals : Locals) : Locals :=
  locals.map fun (name, place) => (name, place.unrestricted)

end Locals

namespace Evaluation

def declare (name : String) (reach : Reach) (value : Option HostType) : Evaluation Local := do
  let place : Local := ⟨← Building.newCell value, reach⟩
  modify ((name, place) :: ·)
  return place

def bindName (isInner : Bool) (name : String) (value : HostType) : Evaluation Unit := do
  match (← getThe Locals).place? isInner name with
  | some place => Building.setCell place.cell value
  | none => discard (declare name .everywhere (some value))

/-- The value that a name is bound to, if it is; the names of functions have no other meaning. -/
def boundValue? (isInner : Bool) (name : String) : Evaluation (Option HostType) := do
  match (← getThe Locals).place? isInner name with
  | none => return none
  | some place =>
    match (← getThe Memory).cell? place.cell, place.reach with
    | some value, _ => return some value
    | none, .own =>
      throw (.operation .unknownName ("cannot access local variable " ++ quoted name ++
        " where it is not associated with a value"))
    | none, .around =>
      throw (.operation .unknownName ("cannot access free variable " ++ quoted name ++
        " where it is not associated with a value in enclosing scope"))
    | none, _ => return none

/-- Makes places for the names that an expression assigns. In the annotations of a record those that
no comprehension assigns are names of the module. -/
def declareAssigned (scope : Scope) (expression : Expression) : Evaluation Unit :=
  (expression.assignments false).forM fun (name, isComprehended) => do
    let reach := if scope.record.isSome && !isComprehended then Reach.outermost else .everywhere
    if !((← getThe Locals).any fun (other, place) => other == name && place.reach == reach) then
      let place ← declare name reach none
      if reach = .outermost then
        modifyThe Memory fun memory =>
          let known := (name, place) :: memory.localsOf scope.module
          { memory with
            modules := (scope.module, known) :: memory.modules.filter (·.1 != scope.module) }

/-- The values for some targets, one of which may take several. -/
def shares (count : Nat) (star : Option Nat) (values : List HostType) :
    Except Fault (List HostType) :=
  let complaint (text : String) : Except Fault (List HostType) :=
    .error (.operation .wrongValue text)
  match star with
  | none =>
    if values.length < count then
      complaint ("not enough values to unpack (expected " ++ toString count ++ ", got " ++
        toString values.length ++ ")")
    else if count < values.length then
      complaint ("too many values to unpack (expected " ++ toString count ++ ")")
    else .ok values
  | some place =>
    if values.length + 1 < count then
      complaint ("not enough values to unpack (expected at least " ++ toString (count - 1) ++
        ", got " ++ toString values.length ++ ")")
    else
      let behind := count - 1 - place
      let middle := (values.drop place).take (values.length - place - behind)
      .ok (values.take place ++ [.container .list middle] ++ values.drop (values.length - behind))

mutual

/-- Binds the names of a target of a comprehension to a value, or to its items. -/
def bindTarget (model : Model) : Expression → HostType → Evaluation Unit
  | .name identifier, value => bindName true identifier value
  | .unpacked target, value => bindTarget model target value
  | .display _ targets, value => do
    match value.items? model with
    | none =>
      throw (.wrongOperands ("cannot unpack non-iterable " ++ value.typeName ++ " object"))
    | some items =>
      let star := targets.findIdx? fun
        | .unpacked _ => true
        | _ => false
      bindTargets model targets (← shares targets.length star items)
  | _, value => throw (.wrongOperands
      ("'" ++ value.typeName ++ "' object does not support item assignment"))

def bindTargets (model : Model) : List Expression → List HostType → Evaluation Unit
  | target :: targets, value :: values => do
    bindTarget model target value
    bindTargets model targets values
  | _, _ => pure ()

end

end Evaluation

namespace Scope

/-- The names that are bound in a scope before anything is evaluated there: a record has those of
its module themselves, and all else a copy of them. -/
def locals (scope : Scope) : Building Locals := do
  let known := (← getThe Memory).localsOf scope.module
  if scope.record.isSome then return known
  else
    known.mapM fun (name, place) => do
      let value := (← getThe Memory).cell? place.cell
      return (name, ⟨← Building.newCell value, .everywhere⟩)

/-- Evaluates something in a scope. -/
def run {α : Type} (scope : Scope) (step : Evaluation α) : Building α := do
  step.run' (← scope.locals)

end Scope

end WireModel
