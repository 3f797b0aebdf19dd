import WireModel.Items.Sorting

/-!
Methods of lists and tuples. A list that is changed is handed to what keeps it.
-/

namespace WireModel.ItemRules

variable {m : Type → Type} [Monad m] {α : Type} (rules : ItemRules m α)

/-- The place of an item of so many, counted from the end if it is negative. -/
def place? (count : Nat) (place : Int) : Option Nat :=
  if 0 ≤ place then (if place < count then some place.toNat else none)
  else if 0 ≤ place + count then some (place + count).toNat else none

/-- A place between items of which there are so many; one outside of them is at their end. -/
def clampedPlace (count : Nat) (place : Int) : Nat :=
  min count (if 0 ≤ place then place.toNat else (place + count).toNat)

def itemPlace (kind : RowKind) (complaint : String) (count : Nat) (key : α) : m Nat := do
  match rules.integer? key with
  | none =>
    rules.refuse .wrongType
      (kind.name ++ " indices must be integers or slices, not " ++ (← rules.typeName key))
  | some value =>
    if value < -maxSize - 1 || maxSize < value then
      rules.refuse .missingIndex "cannot fit 'int' into an index-sized integer"
    match place? count value with
    | some place => return place
    | none => rules.refuse .missingIndex complaint

/-- A bound of a range of places, which must be an integer; one below zero counts from the end. -/
def rangeBound (count default : Nat) (bound : Option α) : m Nat := do
  match bound with
  | none => return default
  | some bound =>
    match rules.integer? bound with
    | some place => return clampedPlace count place
    | none =>
      rules.refuse .wrongType "slice indices must be integers or have an __index__ method"

def rowIndex (kind : RowKind) (items : List α) (value : α) (first last : Option α) :
    m (Answer α) := do
  let first ← rules.rangeBound items.length 0 first
  let last ← rules.rangeBound items.length items.length last
  match ← rules.placeOf? ((items.take last).drop first) value with
  | some place => return .integer (first + place)
  | none =>
    match kind with
    | .list => rules.refuse .wrongValue ((← rules.shown value) ++ " is not in list")
    | .tuple => rules.refuse .wrongValue "tuple.index(x): x not in tuple"

def rowSum (kind : RowKind) (items : List α) (other : α) : m (Answer α) := do
  let refused : m (Answer α) := do
    rules.refuse .wrongType ("can only concatenate " ++ kind.name ++ " (not \"" ++
      (← rules.typeName other) ++ "\") to " ++ kind.name)
  match ← rules.row? other with
  | some (otherKind, others) =>
    if otherKind = kind then return .row kind (items ++ others) else refused
  | none => refused

/-- A row several times over. -/
def repeated (count : Nat) (items : List α) : List α :=
  (List.replicate count items).flatten

/-- What a comparison of a row with another value says; rows of two kinds leave it open. -/
def rowComparison (comparison : Comparison) (kind : RowKind) (items : List α) (other : α) :
    m (Answer α) := do
  match ← rules.row? other with
  | some (otherKind, others) =>
    if otherKind != kind then return .undecided
    match comparison with
    | .equal | .notEqual =>
      let areSame ←
        if kind = .list && items.length != others.length then pure false
        else rules.sameItems items others
      return .truth (areSame == (comparison == .equal))
    | comparison => return .truth (← rules.orderedItems comparison items others)
  | none => return .undecided

/-- What a row answers without being changed. -/
def rowMethod? (kind : RowKind) (items : List α) (name : String) (given : List (Option α)) :
    Option (m (Answer α)) :=
  let second := (given[1]?).join
  let third := (given[2]?).join
  match name, (given[0]?).join with
  | "index", some value => some (rules.rowIndex kind items value second third)
  | "count", some value => some do return .integer (← rules.occurrences items value)
  | "__contains__", some value => some do return .truth (← rules.placeOf? items value).isSome
  | "__getitem__", some key => some do
    let place ← rules.itemPlace kind (kind.name ++ " index out of range") items.length key
    return (items[place]?).elim .absent .value
  | "__add__", some other => some (rules.rowSum kind items other)
  | "__mul__", some count | "__rmul__", some count => some do
    return .row kind (repeated (← rules.count count) items)
  | "__len__", none => some do return .integer items.length
  | "__iter__", none => some do return .walk (kind.name ++ "_iterator") items
  | "__reversed__", none => some do return .walk "list_reverseiterator" items.reverse
  | name, some other =>
    (Comparison.ofMethod? name).map fun comparison =>
      rules.rowComparison comparison kind items other
  | _, none => none

/-- What a list does to itself and answers. -/
def listMethod? (become : List α → m Unit) (items : List α) (name : String)
    (given : List (Option α)) : Option (m (Answer α)) :=
  let count := items.length
  let changed (items : List α) : m (Answer α) := do
    become items
    return .absent
  let assignmentPlace (key : α) : m Nat :=
    rules.itemPlace .list "list assignment index out of range" count key
  match name, (given[0]?).join, (given[1]?).join with
  | "append", some item, _ => some (changed (items ++ [item]))
  | "extend", some others, _ => some do changed (items ++ (← rules.walk others))
  | "__iadd__", some others, _ => some do
    become (items ++ (← rules.walk others))
    return .receiver
  | "__imul__", some times, _ => some do
    become (repeated (← rules.count times) items)
    return .receiver
  | "insert", some place, some item => some do
    let place := clampedPlace count (← rules.places place)
    changed (items.take place ++ item :: items.drop place)
  | "pop", key, _ => some do
    let wanted ← match key with
      | some key => rules.places key
      | none => pure (-1)
    if items.isEmpty then rules.refuse .missingIndex "pop from empty list"
    match place? count wanted with
    | some place =>
      become (items.eraseIdx place)
      return (items[place]?).elim .absent .value
    | none => rules.refuse .missingIndex "pop index out of range"
  | "remove", some item, _ => some do
    match ← rules.placeOf? items item with
    | some place => changed (items.eraseIdx place)
    | none => rules.refuse .wrongValue "list.remove(x): x not in list"
  | "reverse", none, _ => some (changed items.reverse)
  | "clear", none, _ => some (changed [])
  | "copy", none, _ => some do return .row .list items
  | "sort", none, none => some do
    changed (← Sorting.sorted (rules.ordered .less) become items)
  | "__setitem__", some key, some item => some do changed (items.set (← assignmentPlace key) item)
  | "__delitem__", some key, _ => some do changed (items.eraseIdx (← assignmentPlace key))
  | "__init__", none, _ => some (changed [])
  | "__init__", some others, _ => some do
    become []
    changed (← rules.walk others)
  | _, _, _ => none

end WireModel.ItemRules
