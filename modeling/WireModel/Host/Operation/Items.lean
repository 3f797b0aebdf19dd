import WireModel.Host.Operation.Arithmetic

/-!
The items of values: what a value gives when it is walked, places in sequences, and containers that
are written out.
-/

namespace WireModel

open Text

namespace HostType

/-- How many integers a range has. -/
def rangeCount (first last step : Int) : Nat :=
  (if 0 < step then Int.fdiv (last - first + step - 1) step
    else if step < 0 then Int.fdiv (first - last - step - 1) (-step) else 0).toNat

def rangeItems (first last step : Int) : List HostType :=
  (List.range (rangeCount first last step)).map fun (place : Nat) =>
    ofInt (first + step * (place : Int))

def rangePlace? (first last step value : Int) : Option Nat :=
  let place := Int.fdiv (value - first) step
  if step != 0 && Int.fmod (value - first) step = 0 && 0 ≤ place &&
      place < rangeCount first last step then some place.toNat
  else Option.none

/-- The first integer of a range, the one in front of which it ends, and the step. -/
def rangeBounds? : HostType → Option (Int × Int × Int)
  | .record .range [(_, first), (_, last), (_, step)] => do
    return (← first.integer?, ← last.integer?, ← step.integer?)
  | _ => Option.none

/-- The items that a value gives when it is walked. -/
def items? (model : Model) (type : HostType) : Option (List HostType) :=
  match type with
  | .container .map pairs | .container .proxy pairs => some (pairs.map keyOf)
  | .container _ items => some items
  | .record .range attributes =>
    (HostType.record .range attributes).rangeBounds?.map fun (first, last, step) =>
      rangeItems first last step
  | .constant (.bytes content) => some (content.map fun (byte : Nat) => ofInt byte)
  | .declared ref =>
    match ref.category with
    | .enumeration _ => (model.find? ref).map fun found => found.members.map found.memberValue
    | _ => Option.none
  | type =>
    match type.flags?, type.asText? with
    | some (owner, value), _ => some (flagsIn model owner value)
    | Option.none, content? =>
      content?.map fun content => (letters content).map .text

/-- The items that a value gives when it is walked, or a complaint. -/
def walked (model : Model) (type : HostType) : Except Fault (List HostType) :=
  match type.items? model with
  | some items => .ok items
  | Option.none => .error (.notWalkable type)

/-- The bound of a range of places; the absent value is none. -/
def bound? : HostType → Except Fault (Option Int)
  | .none => .ok Option.none
  | type =>
    match type.integer? with
    | some value => .ok (some value)
    | Option.none =>
      .error (.wrongOperands "slice indices must be integers or None or have an __index__ method")

/-- The places from a first one on, up to before another one, in steps; negative bounds count from
the end. -/
def placesBetween (length : Nat) (first last : Option Int) (step : Int) : List Nat :=
  let clamp (lowest highest value : Int) : Int :=
    max lowest (min highest (if value < 0 then value + length else value))
  let (lowest, highest) : Int × Int := if 0 < step then (0, length) else (-1, (length : Int) - 1)
  let first := (first.map (clamp lowest highest)).getD (if 0 < step then lowest else highest)
  let last := (last.map (clamp lowest highest)).getD (if 0 < step then highest else lowest)
  (rangeItems first last step).filterMap fun place => place.integer?.map Int.toNat

def itemsAt {α : Type} (items : List α) (first last step : HostType) : Except Fault (List α) := do
  let step := (← step.bound?).getD 1
  if step = 0 then throw (.operation .wrongValue "slice step cannot be zero")
  let first ← first.bound?
  let last ← last.bound?
  return (placesBetween items.length first last step).filterMap (items[·]?)

def sliceValue (first last step : HostType) : HostType :=
  .record .slice [("start", first), ("stop", last), ("step", step)]

/-- The item of a list at a place; a negative one counts from the end. -/
def itemAt? {α : Type} (items : List α) (place : Int) : Option α :=
  if 0 ≤ place then items[place.toNat]?
  else if place + items.length < 0 then Option.none
  else items[(place + items.length).toNat]?

/-- What brackets behind a sequence give. -/
def itemOf (typeName hint : String) (items : List HostType) (key : HostType) :
    Except Fault HostType :=
  match key.integer? with
  | some place =>
    match itemAt? items place with
    | some item => .ok item
    | Option.none => .error (.operation .missingIndex (typeName ++ " index out of range"))
  | Option.none => .error (.wrongOperands hint)

/-- What brackets behind a value give. -/
def indexed (model : Model) (target key : HostType) : Building HostType := do
  let asTypes : Building HostType :=
    match key with
    | .container .tuple items => target.subscript items true
    | key => target.subscript [key] false
  match target with
  | .container .map pairs | .container .proxy pairs =>
    match key.unhashable? with
    | some typeName => throw (.unhashable typeName)
    | Option.none =>
      match pairs.find? fun pair => (keyOf pair).same key with
      | some (.container _ [_, value]) => return value
      | _ => throw (.operation .missingKey key.shown)
  | .container kind items =>
    match kind with
    | .list | .tuple =>
      itemOf kind.typeName (kind.typeName ++ " indices must be integers or slices, not " ++
        key.typeName) items key
    | _ => throw (.notSubscriptable kind.typeName)
  | .declared ref =>
    match key, model.find? ref with
    | .text name, some found =>
      match found.memberValue? name with
      | some member => return member
      | Option.none => asTypes
    | _, _ => asTypes
  | .record .range attributes =>
    match key.integer?, (HostType.record .range attributes).rangeBounds? with
    | some place, some (first, last, step) =>
      let count : Int := rangeCount first last step
      let fromStart := if place < 0 then place + count else place
      if 0 ≤ fromStart && fromStart < count then return ofInt (first + step * fromStart)
      else throw (.operation .missingIndex "range object index out of range")
    | _, _ =>
      throw (.wrongOperands ("range indices must be integers or slices, not " ++ key.typeName))
  | .constant (.bytes content) =>
    match key.integer? with
    | some place =>
      match itemAt? content place with
      | some byte => return ofInt byte
      | Option.none => throw (.operation .missingIndex "index out of range")
    | Option.none =>
      throw (.wrongOperands ("byte indices must be integers or slices, not " ++ key.typeName))
  | target =>
    match target.asText? with
    | some content =>
      itemOf "string" ("string indices must be integers, not '" ++ key.typeName ++ "'")
        ((letters content).map .text) key
    | Option.none => asTypes

/-- What brackets with a range of places behind a value give. -/
def sliced (model : Model) (target first last step : HostType) : Building HostType := do
  match target with
  | .container .list items => return .container .list (← itemsAt items first last step)
  | .container .tuple items => return .container .tuple (← itemsAt items first last step)
  | .constant (.bytes content) => return .constant (.bytes (← itemsAt content first last step))
  | target =>
    match target.asText? with
    | some content => return .text (String.join (← itemsAt (letters content) first last step))
    | Option.none => target.indexed model (sliceValue first last step)

/-- The items of a set: each once, and none that can change. -/
def setOf (items : List HostType) : Except Fault (List HostType) := do
  checkHashable items
  return arrangedInSet (withoutRepetitions items)

/-- The pairs of a map: each key once, with the last value. -/
def mapOf (pairs : List HostType) : Except Fault (List HostType) := do
  checkHashable (pairs.map keyOf)
  return pairs.foldl bindPair []

def containerOf (kind : Container) (items : List HostType) : Except Fault HostType := do
  match kind with
  | .set | .frozenSet => return .container kind (← setOf items)
  | .map => return .container .map (← mapOf items)
  | kind => return .container kind items

end HostType

end WireModel
