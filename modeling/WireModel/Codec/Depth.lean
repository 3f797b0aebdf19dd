import WireModel.Codec.Value

/-!
How deep values are. Whatever follows a value down to its innermost part takes some steps on the way
into each kind of value, and gives up when they become too many.
-/

namespace WireModel.Codec

/-- The steps that are taken on the way into values, by their kinds. -/
structure Descent where
  /-- Into a list, a tuple or a map. -/
  container : Nat
  record : Nat
  /-- Into the payload of an instance of a data enum. -/
  choice : Nat
  /-- Into the only slot of a payload. -/
  slot : Nat
  /-- Into one of several slots of a payload. -/
  slots : Nat

namespace Descent

/-- The way of decoding, by the value that comes out. -/
def decoding : Descent where
  container := 2
  record := 4
  choice := 2
  slot := 1
  slots := 2

def encoding : Descent where
  container := 2
  record := 4
  choice := 2
  slot := 0
  slots := 2

/-- The way to the text of a value. -/
def showing : Descent where
  container := 1
  record := 2
  choice := 2
  slot := 1
  slots := 1

/-- The way of comparing a value with another one. -/
def comparing : Descent where
  container := 1
  record := 3
  choice := 3
  slot := 1
  slots := 1

/-- How many steps may be taken. -/
def maxSteps : Nat := 985

mutual

/-- The steps that it takes to go through a value. -/
def steps (descent : Descent) : Value → Nat
  | .list items | .tuple items => descent.container + descent.stepsOfItems items
  | .map entries => descent.container + descent.stepsOfEntries entries
  | .view _ whole => descent.container + descent.steps whole
  | .record _ attributes => descent.record + descent.stepsOfParts attributes
  | .choice _ _ (.tuple [item]) | .choice _ _ (.object _ _ (.tuple [item])) =>
    descent.choice + descent.slot + descent.steps item
  | .choice _ _ (.tuple items) | .choice _ _ (.object _ _ (.tuple items)) =>
    descent.choice + descent.slots + descent.stepsOfItems items
  | .choice _ _ payload => descent.choice + descent.steps payload
  | .object _ _ content => descent.steps content
  | _ => 1

/-- The steps that it takes to go through the deepest of some items. -/
def stepsOfItems (descent : Descent) : List Value → Nat
  | [] => 0
  | item :: rest => max (descent.steps item) (descent.stepsOfItems rest)

/-- The steps that it takes to go through the deepest of some entries. -/
def stepsOfEntries (descent : Descent) : List (Value × Value) → Nat
  | [] => 0
  | (key, value) :: rest =>
    max (max (descent.steps key) (descent.steps value)) (descent.stepsOfEntries rest)

/-- The steps that it takes to go through the deepest of some attributes. -/
def stepsOfParts (descent : Descent) : List (String × Value) → Nat
  | [] => 0
  | (_, value) :: rest => max (descent.steps value) (descent.stepsOfParts rest)

end

/-- The value is not too deep. -/
def reaches (descent : Descent) (value : Value) : Bool :=
  descent.steps value ≤ maxSteps

end Descent

end WireModel.Codec
