import WireModel.Host.Expression.Basic
import WireModel.Host.Fault

/-!
What containers ask of the values that they hold, whatever these values are, and what their methods
answer.
-/

namespace WireModel

/-- The containers whose items stand in a row. -/
inductive RowKind where
  | list
  | tuple
  deriving DecidableEq, Repr, Inhabited

def RowKind.name : RowKind → String
  | .list => "list"
  | .tuple => "tuple"

/-- What containers ask of values. -/
structure ItemRules (m : Type → Type) (α : Type) where
  /-- The values are one and the same, or equal. -/
  same : α → α → m Bool
  ordered : Comparison → α → α → m Bool
  /-- The integer that a value counts as. -/
  integer? : α → Option Int
  /-- The items of a value, if it can be walked. -/
  items? : α → m (Option (List α))
  row? : α → m (Option (RowKind × List α))
  /-- The entries of a map. -/
  map? : α → m (Option (List (α × α)))
  /-- The entries of a map, perhaps of one that cannot be changed. -/
  mapping? : α → m (Option (List (α × α)))
  /-- The items of a set, or of what a map lists and that is like one. -/
  set? : α → m (Option (List α))
  pair : α → α → m α
  /-- The absent value. -/
  nothing : m α
  /-- Refuses a value that cannot be a key. -/
  checkKey : α → m Unit
  shown : α → m String
  typeName : α → m String
  refuse : {β : Type} → FaultKind → String → m β

/-- What a method of a container answers. -/
inductive Answer (α : Type) where
  | value (item : α)
  /-- The absent value. -/
  | absent
  | integer (value : Int)
  | truth (value : Bool)
  | row (kind : RowKind) (items : List α)
  | set (items : List α)
  | map (entries : List (α × α))
  /-- The container itself. -/
  | receiver
  /-- The decision is left to the other value. -/
  | undecided
  /-- Items to walk, by the name of what walks them. -/
  | walk (typeName : String) (items : List α)
  /-- Entries to walk. -/
  | entryWalk (typeName : String) (entries : List (α × α))
  /-- What the map lists of its entries. -/
  | view (part : MapPart)

namespace ItemRules

variable {m : Type → Type} [Monad m] {α : Type} (rules : ItemRules m α)

def walk (value : α) : m (List α) := do
  match ← rules.items? value with
  | some items => return items
  | none =>
    rules.refuse .wrongType ("'" ++ (← rules.typeName value) ++ "' object is not iterable")

def integer (value : α) : m Int := do
  match rules.integer? value with
  | some value => return value
  | none =>
    rules.refuse .wrongType
      ("'" ++ (← rules.typeName value) ++ "' object cannot be interpreted as an integer")

def maxSize : Int := (Nat.pow 2 63 : Int) - 1

def size (kind : FaultKind) (complaint : String) (value : α) : m Int := do
  let value ← rules.integer value
  if value < -maxSize - 1 || maxSize < value then rules.refuse kind complaint else return value

def places (value : α) : m Int :=
  rules.size .overflow "Python int too large to convert to C ssize_t" value

/-- A value as a number of repetitions. -/
def count (value : α) : m Nat := do
  return (← rules.size .overflow "cannot fit 'int' into an index-sized integer" value).toNat

/-- The place of the first item that is the same as a value. -/
def placeOf? (items : List α) (value : α) : m (Option Nat) :=
  match items with
  | [] => return none
  | item :: rest => do
    if ← rules.same item value then return some 0
    else return (← placeOf? rest value).map (· + 1)

/-- How many items are the same as a value. -/
def occurrences (items : List α) (value : α) : m Nat :=
  match items with
  | [] => return 0
  | item :: rest => do
    let here ← rules.same item value
    return (← occurrences rest value) + (if here then 1 else 0)

/-- The items are the same, place by place. -/
def sameItems : List α → List α → m Bool
  | [], [] => return true
  | a :: as, b :: bs => do if ← rules.same a b then sameItems as bs else return false
  | _, _ => return false

/-- The order of two rows: that of the first items that differ, or of their lengths. -/
def orderedItems (comparison : Comparison) : List α → List α → m Bool
  | a :: as, b :: bs => do
    if ← rules.same a b then orderedItems comparison as bs else rules.ordered comparison a b
  | as, bs =>
    match comparison with
    | .less => return as.length < bs.length
    | .lessEqual => return as.length ≤ bs.length
    | .greater => return bs.length < as.length
    | .greaterEqual => return bs.length ≤ as.length
    | .notEqual => return as.length != bs.length
    | _ => return as.length == bs.length

end ItemRules

namespace Comparison

def ofMethod? : String → Option Comparison
  | "__eq__" => some equal
  | "__ne__" => some notEqual
  | "__lt__" => some less
  | "__le__" => some lessEqual
  | "__gt__" => some greater
  | "__ge__" => some greaterEqual
  | _ => none

/-- The comparison tells what comes first. -/
def isOrder : Comparison → Bool
  | less | lessEqual | greater | greaterEqual => true
  | _ => false

end Comparison

end WireModel
