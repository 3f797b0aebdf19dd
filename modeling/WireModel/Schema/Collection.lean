import WireModel.Host.Resolution
import WireModel.Schema.Basic
import WireModel.TypeText

/-!
Collecting the classes that some types need. Each type identity is walked once: it is marked before
its parts are visited, so that types may refer to themselves, and it stays marked when its parts
turn out to be unsupported.
-/

namespace WireModel

/-- What was collected so far, and the identities that were met. -/
structure Collection where
  target : Target
  schema : Schema
  seen : List Identity

namespace Collection

/-- Nothing collected. -/
def empty (target : Target) : Collection :=
  ⟨target, .empty, []⟩

/-- The identity was met. -/
def hasSeen (collection : Collection) (identity : Identity) : Bool :=
  identity ∈ collection.seen

def mark (collection : Collection) (identity : Identity) : Collection :=
  if collection.hasSeen identity then collection
  else { collection with seen := collection.seen ++ [identity] }

def add (collection : Collection) (entity : Schema.Entity) : Collection :=
  { collection with schema := collection.schema.add entity }

end Collection

/-- A step of collecting, which keeps what was collected and built when it fails. -/
abbrev Collect (α : Type) := ExceptT Failure (StateT Collection (StateM Memory)) α

namespace Collect

/-- A step of closing types as a step. -/
def resolve {α : Type} (step : Resolving α) : Collect α :=
  ExceptT.mk (StateT.lift step.run)

def ofRule {α : Type} (result : Except GenerationError α) : Collect α :=
  resolve result

def typeExpr (type : HostType) : Collect TypeExpr := do
  type.view.typeExpr (← get).target

def className (type : HostType) : Collect String := do
  type.view.className (← get).target

/-- The class has something else than its type parameters under their name. -/
def hidesParameters (model : Model) (ref : ClassRef) : Bool :=
  match (model.attribute? (.declared ref) "__parameters__").map Attribute.value with
  | some (.record ..) => true
  | _ => false

/-- The types that an instantiation gives the type parameters of its class. -/
def bindings (model : Model) (ref : ClassRef) (type : HostType) : Except Failure TypeBindings :=
  let args := type.parts
  if hidesParameters model ref then
    .error (.fault (.operation .wrongType "object of type 'VariantDecl' has no len()"))
  else if ref.parameters.length = args.length then .ok (ref.parameters.zip args)
  else
    .error (.generation
      (.argumentCount ref.qualifiedName ref.parameters.length args.length))

/-- The name of a constant of an enumeration: declared in upper snake case if it has only upper-case
letters, and else in Pascal case. -/
def constantName (name : String) : Name :=
  if Text.isUpperText name.toList then .ofUpperSnake name else .ofPascal name

def enumeration (model : Model) (ref : ClassRef) (className : String) : Schema.Enumeration where
  name := .ofPascal ref.name
  className := className
  constants := (model.members ref).map fun member => ⟨constantName member.name, member.tag⟩

/-- The tag of a field on the wire: that of its annotation unless it is empty, else its name. -/
def fieldTag (name : String) (type : HostType) : String :=
  match type.wireName? with
  | some tag => if tag.isEmpty then name else tag
  | none => name

section Visit

variable (model : Model) (visit : HostType → Collect Unit)

def dependency (ref : ClassRef) (bindings : TypeBindings) (type : HostType) : Collect HostType := do
  let closed ← resolve (model.close ref bindings type)
  visit closed
  return closed

def field (ref : ClassRef) (bindings : TypeBindings) (declared : String × HostType) :
    Collect Schema.Field := do
  let type ← dependency model visit ref bindings declared.2
  return ⟨.ofSnake declared.1, fieldTag declared.1 type, ← typeExpr type⟩

def record (ref : ClassRef) (type : HostType) : Collect Schema.Record := do
  let bindings ← bindings model ref type
  let fields ← resolve (model.typedFields ref)
  let className ← className type
  return ⟨.ofPascal ref.name, className, ← fields.mapM (field model visit ref bindings)⟩

/-- Collects what a variant carries. -/
def payload (ref : ClassRef) (bindings : TypeBindings) : Payload → Collect Schema.Payload
  | .unit => return .unit
  | .tuple slots => do
    let types ← slots.mapM (dependency model visit ref bindings)
    return .tuple (← types.mapM typeExpr)
  | .object fields => return .object (← fields.mapM (field model visit ref bindings))

def «variant» (ref : ClassRef) (bindings : TypeBindings) (declared : Variant) :
    Collect Schema.Variant := do
  return ⟨.ofPascal declared.name, declared.tag,
    ← payload model visit ref bindings declared.payload⟩

def dataEnum (ref : ClassRef) (type : HostType) : Collect Schema.DataEnum := do
  let bindings ← bindings model ref type
  let className ← className type
  let variants ← (model.variants ref).mapM («variant» model visit ref bindings)
  return ⟨.ofPascal ref.name, className, .external, variants⟩

/-- Visits the parts of a type that was met for the first time, and adds its class. The arguments of
containers may be visited in a way of their own. -/
def visitParts (visitArgument : HostType → Collect Unit) (type : HostType) : Collect Unit := do
  match type.view with
  | .refused error => throw (.generation error)
  | .primitive _ => return
  | .list _ | .map _ | .optional _ | .box _ => type.parts.forM visitArgument
  | .record ref _ => do
    discard (className type)
    let collected ← record model visit ref type
    modify (·.add (.record collected))
  | .enumeration ref => do
    let className ← className type
    modify (·.add (.enumeration (enumeration model ref className)))
  | .dataEnum ref _ => do
    discard (className type)
    let collected ← dataEnum model visit ref type
    modify (·.add (.dataEnum collected))

end Visit

/-- How deep collecting may go. A step into a container takes one unit, a step into a field takes
three, and the identity of a type takes two for each type inside another one. -/
def maxDepth : Nat := 975

/-- Collects a type and all that it depends on, down to a depth. -/
def addAt (model : Model) : Nat → HostType → Collect Unit
  | depth + 3, type => do
    let identity ← ofRule type.view.identity
    if depth < 2 * identity.height then throw (.fault .tooDeep)
    if (← get).hasSeen identity then return
    modify (·.mark identity)
    visitParts model (addAt model depth) (addAt model (depth + 2)) type
  | _, _ => throw (.fault .tooDeep)

def add (model : Model) (type : HostType) : Collect Unit :=
  addAt model maxDepth type

def addAll (model : Model) (types : List HostType) : Collect Unit :=
  types.forM (add model)

end Collect

/-- The classes that some types need. -/
def Schema.ofTypes (target : Target) (model : Model) (types : List HostType) : Resolving Schema :=
  ExceptT.mk do
    let (result, collection) ← (Collect.addAll model types).run.run (.empty target)
    return result.map fun _ => collection.schema

end WireModel
