import WireModel.Host.Composition
import WireModel.Host.Expression.Basic

/-!
What is remembered while types are built. Brackets with equal arguments behind equal targets give
the type that was built first, in the spelling that its arguments had then; and a string annotation
inside a type keeps what it was found to stand for. The names that expressions bind, and the
functions that they make, live on as well.
-/

namespace WireModel

/-- Arguments in brackets behind a target. The flag says that they were written as a tuple. -/
structure Construction where
  target : HostType
  args : List HostType
  isTuple : Bool

namespace Construction

/-- The same arguments stand behind the same target. -/
def same (construction other : Construction) : Bool :=
  construction.isTuple == other.isTuple && construction.target.same other.target &&
    HostType.sameList construction.args other.args

/-- Nothing about it can change, so that it can be recognized. -/
def isStable (construction : Construction) : Bool :=
  (HostType.unhashableIn? (construction.target :: construction.args)).isNone

/-- The type is what the construction gives by itself, where no argument is a string annotation. Of
the targets whose arguments are no more than put together nothing is said. -/
def Gives (construction : Construction) (type : HostType) : Prop :=
  match construction.target, construction.args with
  | .builtin .unionForm, args =>
    (∀ arg ∈ args, arg.asText? = none) → type = .unite .qualified (args.map HostType.present)
  | .builtin .box, args =>
    (∀ arg ∈ args, arg.asText? = none) → type = .applied .box (args.map HostType.present)
  | .declared ref, args =>
    (∀ arg ∈ args, arg.asText? = none) → type = .applied (.declared ref) (args.map HostType.present)
  | .builtin .annotatedForm, base :: metadata =>
    base.asText? = none → base.present.withMetadata metadata = .ok type
  | _, _ => True

end Construction

/-- A type that was built for arguments behind a target, by which it is recognized. -/
structure Built where
  construction : Construction
  type : HostType
  stable : construction.isStable = true
  gives : construction.Gives type

/-- What is known about a string annotation inside a type. -/
structure ReferenceState where
  /-- It stands where a class variable may stand. -/
  allowsClassVar : Bool
  /-- What it was last found to stand for. -/
  value : Option HostType

/-- From where a name that an expression binds is seen. -/
inductive Reach where
  /-- From functions too. The name may mean something else as long as it is not bound. -/
  | everywhere
  /-- From outside functions only. -/
  | outermost
  /-- From the function that it belongs to. -/
  | own
  /-- From the functions inside the one that it belongs to. -/
  | around
  deriving DecidableEq, Repr

/-- The place of the value of a name. -/
structure Local where
  cell : Nat
  reach : Reach

/-- The names that may be bound where an expression stands. -/
abbrev Locals := List (String × Local)

/-- A function that an expression has made: its parameters with the values that they have of their
own, and the names that it sees. -/
structure WrittenFunction where
  name : String
  parameters : List (Parameter × Option HostType)
  body : Expression
  locals : Locals

/-- The types that were built, the string annotations inside types, the values of names and the
functions that expressions have made, by their numbers, and the names that annotations have bound in
modules. -/
structure Memory where
  built : List Built
  references : List ReferenceState
  cells : Array (Option HostType)
  functions : Array WrittenFunction
  modules : List (String × Locals)

namespace Memory

def empty : Memory :=
  ⟨[], [], #[], #[], []⟩

/-- The type that was built first for equal arguments. -/
def find? (memory : Memory) (construction : Construction) : Option HostType :=
  (memory.built.find? (·.construction.same construction)).map (·.type)

/-- What is known about a string annotation inside a type. -/
def reference (memory : Memory) (serial : Nat) : ReferenceState :=
  memory.references[serial]?.getD ⟨false, none⟩

/-- The value of a name, if it is bound. -/
def cell? (memory : Memory) (place : Nat) : Option HostType :=
  memory.cells[place]?.join

/-- The names that annotations have bound in a module. -/
def localsOf (memory : Memory) (module : String) : Locals :=
  (memory.modules.lookup module).getD []

end Memory

/-- A step of building types. What was built before it failed is remembered. -/
abbrev Building (α : Type) := ExceptT Fault (StateM Memory) α

namespace Building

/-- What a step gives where nothing was built before. -/
def alone {α : Type} (step : Building α) : Except Fault α :=
  (step.run .empty).1

/-- A sequence of steps gives a value only if the first one gives one that the others go on with. -/
theorem exists_of_bind {α β : Type} {step : Building α} {next : α → Building β}
    {before after : Memory}
    {result : β} (succeeds : (step >>= next).run.run before = (.ok result, after)) :
    ∃ value between, step.run.run before = (.ok value, between) ∧
      (next value).run.run between = (.ok result, after) := by
  rw [ExceptT.run_bind, StateT.run_bind] at succeeds
  rcases run : step.run.run before with ⟨fault | value, between⟩
  · rw [run] at succeeds
    cases succeeds
  · rw [run] at succeeds
    exact ⟨value, between, rfl, succeeds⟩

/-- A step with what is known about the values that it gives. -/
def attach {α : Type} {property : α → Prop} (step : Building α)
    (gives : ∀ {before value after}, step.run.run before = (.ok value, after) → property value) :
    Building {value : α // property value} :=
  ExceptT.mk fun before =>
    match run : step.run.run before with
    | (.ok value, after) => (.ok ⟨value, gives run⟩, after)
    | (.error fault, after) => (.error fault, after)

theorem run_attach_ok {α : Type} {property : α → Prop} {step : Building α}
    {gives : ∀ {before value after}, step.run.run before = (.ok value, after) → property value}
    {before after : Memory} {value : α} (run : step.run.run before = (.ok value, after)) :
    (attach step gives).run.run before = (.ok ⟨value, gives run⟩, after) := by
  have unfolded : (attach step gives).run.run before =
      match run : step.run.run before with
      | (.ok value, after) => (.ok ⟨value, gives run⟩, after)
      | (.error fault, after) => (.error fault, after) := rfl
  rw [unfolded]
  split <;> (rename_i same; cases same.symm.trans run)
  rfl

theorem run_attach_error {α : Type} {property : α → Prop} {step : Building α}
    {gives : ∀ {before value after}, step.run.run before = (.ok value, after) → property value}
    {before after : Memory} {fault : Fault} (run : step.run.run before = (.error fault, after)) :
    (attach step gives).run.run before = (.error fault, after) := by
  have unfolded : (attach step gives).run.run before =
      match run : step.run.run before with
      | (.ok value, after) => (.ok ⟨value, gives run⟩, after)
      | (.error fault, after) => (.error fault, after) := rfl
  rw [unfolded]
  split <;> (rename_i same; cases same.symm.trans run)
  rfl

/-- Builds a type unless it was built before. -/
def once (construction : Construction) (make : Building HostType)
    (gives : ∀ {before type after}, make.run.run before = (.ok type, after) →
      construction.Gives type) :
    Building HostType := do
  match (← get).find? construction with
  | some type => return type
  | none =>
    let ⟨type, given⟩ ← attach make gives
    if stable : construction.isStable then
      modify fun memory =>
        { memory with built := ⟨construction, type, stable, given⟩ :: memory.built }
    return type

/-- The number of a new string annotation inside a type. -/
def newReference (allowsClassVar : Bool) : Building Nat := do
  let memory ← get
  set ({ memory with references := memory.references ++ [⟨allowsClassVar, none⟩] } : Memory)
  return memory.references.length

/-- Keeps what a string annotation was found to stand for. -/
def settle (serial : Nat) (value : HostType) : Building Unit :=
  modify fun memory =>
    let known := { memory.reference serial with value := some value }
    { memory with references := memory.references.set serial known }

/-- The place of a new value of a name. -/
def newCell (value : Option HostType) : Building Nat := do
  let memory ← get
  set ({ memory with cells := memory.cells.push value } : Memory)
  return memory.cells.size

/-- Gives a name a value. -/
def setCell (place : Nat) (value : HostType) : Building Unit :=
  modify fun memory => { memory with cells := memory.cells.setIfInBounds place (some value) }

def newFunction (function : WrittenFunction) : Building Nat := do
  let memory ← get
  set ({ memory with functions := memory.functions.push function } : Memory)
  return memory.functions.size

end Building

end WireModel
