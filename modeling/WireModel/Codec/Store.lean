import WireModel.Codec.Library
import WireModel.Host.Memory

/-!
Objects that outlive a step. Each has a number, under which the store keeps what it is; a value that
is held outside the store is plain or a reference to an object, and so are the parts of objects. An
instance of a class keeps its attributes in a map, which is an object by itself.

What a reference stands for is found by unfolding it, with every object under its number, up to
where an object would be unfolded inside itself.
-/

namespace WireModel.Codec

open Schema
open Render.Python (attributeName keptName)

namespace Value

/-- The name of the map in which an instance keeps its attributes. -/
def dictionaryName : String :=
  "__dict__"

/-- Changes the immediate parts of a value. -/
def mapParts (change : Value → Value) : Value → Value
  | .list items => .list (items.map change)
  | .tuple items => .tuple (items.map change)
  | .map entries => .map (entries.map fun (key, value) => (change key, change value))
  | .record path attributes =>
    .record path (attributes.map fun (name, value) => (name, change value))
  | .choice owner discriminant payload => .choice owner (change discriminant) (change payload)
  | .method owner name receiver => .method owner name (change receiver)
  | .view kind whole => .view kind (change whole)
  | value => value

def namedEntries : Value → List (String × Value)
  | .map entries => entries.filterMap fun (key, value) =>
    match key with
    | .text name => some (name, value)
    | _ => none
  | _ => []

/-- A map with an entry for a text, which takes the place of one that is there. -/
def withEntry (container : Value) (name : String) (part : Value) : Value :=
  match container with
  | .map entries =>
    let isNamed : Value → Bool
      | .text key => key == name
      | _ => false
    if entries.any fun entry => isNamed entry.1 then
      .map (entries.map fun entry => if isNamed entry.1 then (entry.1, part) else entry)
    else .map (entries ++ [(.text name, part)])
  | value => value

end Value

/-- The objects of a session by their numbers. An instance of a class is one with a reference to its
attributes. What was set on constants and classes is kept besides: constants have the numbers of
their attributes once these were asked for. -/
structure Store where
  objects : List Value
  constants : List ((ClassPath × String) × Nat)
  classes : List (ClassPath × List (String × Value))
  /-- The types that were built. -/
  memory : Memory

namespace Store

def empty (memory : Memory) : Store :=
  ⟨[], [], [], memory⟩

def stored (store : Store) (value : Value) : Value :=
  match value with
  | .reference serial _ => store.objects[serial]?.getD value
  | value => value

/-- The attributes that the map of a number holds. -/
def attributesAt (store : Store) (serial : Nat) : List (String × Value) :=
  ((store.objects[serial]?).map Value.namedEntries).getD []

/-- The class of an instance and the map of its attributes. -/
def instance? (store : Store) (value : Value) : Option (ClassPath × Value) :=
  match value, store.stored value with
  | .reference .., .record path [(_, dictionary)] => some (path, dictionary)
  | _, _ => none

def replace (store : Store) (value content : Value) : Store :=
  match value with
  | .reference serial _ => { store with objects := store.objects.set serial content }
  | _ => store

def add (content : Value) : StateM Store Value := do
  let store ← get
  set { store with objects := store.objects ++ [content] }
  return .reference store.objects.length content.kind

/-- Adds an instance. Its attributes are set one after the other: its class and the map of its
attributes can be among them. -/
def addInstance (path : ClassPath) (attributes : List (String × Value)) : StateM Store Value := do
  let first ← add (.map [])
  let (path, dictionary) ← attributes.foldlM (fun (path, dictionary) (name, part) => do
    match name, part with
    | "__class__", .type path => return (path, dictionary)
    | "__dict__", part => return (path, part)
    | name, part =>
      modify fun store => store.replace dictionary ((store.stored dictionary).withEntry name part)
      return (path, dictionary)) (path, first)
  add (.record path [(Value.dictionaryName, dictionary)])

mutual

/-- Keeps a value: what is in the store already stays itself, and all else with parts becomes new
objects. -/
def hold (value : Value) : StateM Store Value :=
  match value with
  | .list items => do add (.list (← holdAll items))
  | .tuple items => do add (.tuple (← holdAll items))
  | .map entries => do add (.map (← holdEntries entries))
  | .record path attributes => do addInstance path (← holdAttributes attributes)
  | .choice owner discriminant payload => do
    let discriminant ← hold discriminant
    addInstance (.top owner) [("_variant", discriminant), ("_value", ← hold payload)]
  | .method owner name receiver => do add (.method owner name (← hold receiver))
  | .view kind whole => do add (.view kind (← hold whole))
  | .bare => add .bare
  | .language (.container .set items) => add (.language (.container .set items))
  | .object serial _ content => return .reference serial content.kind
  | .altered _ base => return base
  | value => return value

def holdAll (values : List Value) : StateM Store (List Value) :=
  match values with
  | [] => return []
  | value :: rest => do
    let value ← hold value
    return value :: (← holdAll rest)

/-- Keeps the entries of a map. A key that is no number is an object by itself. -/
def holdEntries (entries : List (Value × Value)) : StateM Store (List (Value × Value)) :=
  match entries with
  | [] => return []
  | (key, value) :: rest => do
    let key ← if key.isNotANumber then add key else hold key
    let value ← hold value
    return (key, value) :: (← holdEntries rest)

/-- Keeps the attributes of an instance. -/
def holdAttributes (attributes : List (String × Value)) : StateM Store (List (String × Value)) :=
  match attributes with
  | [] => return []
  | (name, value) :: rest => do
    let value ← hold value
    return (name, value) :: (← holdAttributes rest)

end

/-- The parts that a class gives its instances. -/
def partNames (library : Library) (path : ClassPath) : List String :=
  match library.at? path with
  | some (.record _ _ fields) => fields.map fun field => keptName path.name (attributeName field)
  | some (.dataEnum _) => ["_variant", "_value"]
  | _ => []

/-- An instance, given its attributes and the map that holds them. An attribute that it has not may
be one of its class. -/
def instanceOf (library : Library) (serial : Nat) (path : ClassPath)
    (attributes : List (String × Value)) (dictionary : Unit → Value) : Value :=
  let names := partNames library path
  let part (name : String) : Value :=
    if name = "__class__" then .type path
    else if name = Value.dictionaryName then dictionary ()
    else ((attributes.lookup name).or (library.changed? path name)).getD .unset
  let extras := attributes.filter fun entry => !names.contains entry.1
  match library.at? path with
  | some (.dataEnum entity) =>
    .object serial extras (.choice entity.className (part "_variant") (part "_value"))
  | _ => .object serial extras (.record path (names.map fun name => (name, part name)))

/-- Unfolds a value, given the containers around it and the instances within the innermost of them.
What lists the entries of a map is not inside the map, so that the map may be unfolded once more
there. Every step goes deeper into one or the other, so that there are fewer than the square of
their number. -/
def unfold (library : Library) (store : Store) : Nat → List Nat → List Nat → Value → Value
  | depth + 1, containers, instances, .reference serial kind =>
    match store.objects[serial]? with
    | none => .reference serial kind
    | some content =>
      if serial ∈ containers ∨ serial ∈ instances then .reference serial kind
      else
        match content with
        | .record path [(_, .reference dictionary _)] =>
          let part := store.unfold library depth containers (serial :: instances)
          instanceOf library serial path
            ((store.attributesAt dictionary).map fun (name, value) => (name, part value))
            fun _ => part (.reference dictionary .map)
        | .view (.listed part) whole =>
          .object serial [] (.view (.listed part) ((store.stored whole).mapParts
            (store.unfold library depth (serial :: containers) [])))
        | content =>
          let part :=
            if kind = .record then store.unfold library depth containers (serial :: instances)
            else store.unfold library depth (serial :: containers) []
          .object serial [] (content.mapParts part)
  | depth + 1, containers, instances, .constant owner name tag =>
    match store.constants.lookup (owner, name) with
    | none => .constant owner name tag
    | some serial =>
      if serial ∈ instances then .reference serial .record
      else
        .altered (((store.attributesAt serial).filter fun (name, _) =>
            name == "_name_" || name == "_value_").map fun (name, value) =>
          (name, store.unfold library depth containers (serial :: instances) value))
          (.constant owner name tag)
  | _, _, _, value => value

def view (library : Library) (store : Store) (value : Value) : Value :=
  let count := store.objects.length + 1
  store.unfold library (count * count) [] [] value

/-- The package with what was set on its classes. -/
def changedLibrary (library : Library) (store : Store) : Library :=
  { library with
    changes := store.classes.map fun (path, attributes) =>
      (path, attributes.map fun (name, value) => (name, store.view library value)) }

def setOnClass (path : ClassPath) (name : String) (part : Value) (store : Store) : Store :=
  let attributes := bindEntry ((store.classes.lookup path).getD []) name part
  { store with classes := (path, attributes) :: store.classes.filter (·.1 != path) }

/-- Keeps the attributes of a constant in a map. -/
def keepConstant (owner : ClassPath) (name : String) (dictionary : Value) (store : Store) : Store :=
  match dictionary with
  | .reference serial _ =>
    { store with constants :=
        ((owner, name), serial) :: store.constants.filter (·.1 != (owner, name)) }
  | _ => store

/-- The map of the attributes of a constant. -/
def dictionaryOf (library : Library) (owner : ClassPath) (name tag : String) :
    StateM Store Value := do
  match (← get).constants.lookup (owner, name) with
  | some serial => return .reference serial .map
  | none =>
    let place := match library.at? owner with
      | some (.enumeration constants) =>
        (((constants.entries.filter fun entry => constants.isConstant entry.1).map
          (·.2)).eraseDups.idxOf tag)
      | _ => 0
    let dictionary ← add (.map [(.text "_value_", .text tag), (.text "_name_", .text name),
      (.text "__objclass__", .type owner), (.text "_sort_order_", .int place)])
    modify (keepConstant owner name dictionary)
    return dictionary

end Store

end WireModel.Codec
