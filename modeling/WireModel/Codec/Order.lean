import WireModel.Codec.Equality
import WireModel.Host.Operation.Comparison

/-!
The order of values: numbers by their value, texts by their characters, lists and tuples by the
first items that differ, and what is like a set by what it holds. Other values have none.
-/

namespace WireModel.Codec

namespace Value

/-- The order of two numbers of items. -/
def orderedCounts (comparison : Comparison) (count other : Nat) : Bool :=
  match comparison with
  | .less => count < other
  | .lessEqual => count ≤ other
  | .greater => other < count
  | _ => other ≤ count

def allAmong (values others : List Value) : Bool :=
  values.all fun value => others.any fun other => value.isIdentical other ||
    isYes (equal value other)

def orderedSets (comparison : Comparison) (items others : List Value) : Bool :=
  match comparison with
  | .less => items.length < others.length && allAmong items others
  | .lessEqual => allAmong items others
  | .greater => others.length < items.length && allAmong others items
  | _ => allAmong others items

/-- The order of values without parts. -/
def orderedPlain (comparison : Comparison) (value other : Value) : Except CodecError Bool :=
  match value.setItems?, other.setItems?, value.asLanguage?, other.asLanguage? with
  | some items, some others, _, _ => .ok (orderedSets comparison items others)
  | _, _, some value, some other =>
    match value.ordered comparison other with
    | .ok answer => .ok answer
    | .error fault => .error (.fault fault.kind)
  | _, _, _, _ => .error (.fault .wrongType)

mutual

/-- The first value stands to the second one as a comparison has it. -/
def ordered (comparison : Comparison) (value : Value) : Value → Except CodecError Bool :=
  match value with
  | .object serial extras content => fun other =>
    match content with
    | .view .. => orderedPlain comparison (.object serial extras content) other
    | _ => ordered comparison content other
  | .list items => fun other =>
    match other.content with
    | .list others => orderedItems comparison items others
    | _ => .error (.fault .wrongType)
  | .tuple items => fun other =>
    match other.content with
    | .tuple others => orderedItems comparison items others
    | _ => .error (.fault .wrongType)
  | value => orderedPlain comparison value
termination_by structural value

/-- The order of two rows: that of the first items that differ, or of their lengths. -/
def orderedItems (comparison : Comparison) (items : List Value) :
    List Value → Except CodecError Bool :=
  match items with
  | [] => fun others => .ok (orderedCounts comparison 0 others.length)
  | item :: rest => fun
    | [] => .ok (orderedCounts comparison (rest.length + 1) 0)
    | other :: others => do
      if ← (if item.isIdentical other then .ok true else equal item other) then
        orderedItems comparison rest others
      else ordered comparison item other
termination_by structural items

end

end Value

end WireModel.Codec
