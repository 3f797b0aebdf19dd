import WireModel.Host.Method.Basic
import WireModel.Host.Operation.Binary
import WireModel.Items.Row
import WireModel.Items.View

/-!
Methods of containers: rows, maps and what these list, ranges, and what can only be walked. A step
of such a method knows the container as it is by then.
-/

namespace WireModel

open Text

/-- A step of a method, which may change the value that it is called on. -/
abbrev Changing := StateT HostType Building

/-- A step of building, as one that changes nothing. -/
def Changing.unchanged (answer : Building HostType) : Changing HostType := do
  return ← answer

/-- An answer, as a step that changes nothing. -/
def Changing.settled (answer : Except Fault HostType) : Changing HostType := do
  return ← answer

namespace HostType

def entriesOf (pairs : List HostType) : List (HostType × HostType) :=
  pairs.map fun pair => (pair.keyOf, pair.valueOf)

def pairsOf (entries : List (HostType × HostType)) : List HostType :=
  entries.map fun (key, value) => .container .tuple [key, value]

/-- Refuses a value that cannot stand in a set. -/
def checkKey (type : HostType) : Except Fault Unit :=
  match type.unhashable? with
  | some typeName => .error (.unhashable typeName)
  | Option.none => .ok ()

def setLike? : HostType → Option (List HostType)
  | .container .set items | .container .frozenSet items | .container (.view .keys) items
  | .container (.view .entries) items => some items
  | _ => Option.none

/-- What containers ask of the values of expressions. -/
def itemRules (model : Model) : ItemRules Changing HostType where
  same a b := return a.same b
  ordered comparison a b := do return ← a.ordered comparison b
  integer? := integer?
  items? type := return type.items? model
  row? type := return match type with
    | .container .list items => some (.list, items)
    | .container .tuple items => some (.tuple, items)
    | _ => Option.none
  map? type := return match type with
    | .container .map pairs => some (entriesOf pairs)
    | _ => Option.none
  mapping? type := return match type with
    | .container .map pairs | .container .proxy pairs => some (entriesOf pairs)
    | _ => Option.none
  set? type := return type.setLike?
  pair a b := return .container .tuple [a, b]
  nothing := return .none
  checkKey type := do return ← type.checkKey
  shown type := return type.shown
  typeName type := return type.typeName
  refuse kind text := throw (.operation kind text)

def rowContainer : RowKind → Container
  | .list => .list
  | .tuple => .tuple

def ofAnswer (receiver : HostType) : Answer HostType → Changing HostType
  | .value item => return item
  | .absent => return .none
  | .integer value => return ofInt value
  | .truth value => return ofBool value
  | .row kind items => return .container (rowContainer kind) items
  | .set items => do return .container .set (← setOf items)
  | .map entries => return .container .map (pairsOf entries)
  | .receiver => get
  | .undecided => return undecided
  | .walk typeName items => return .container (.stream typeName) items
  | .entryWalk typeName entries => return .container (.stream typeName) (pairsOf entries)
  | .view part =>
    match part, receiver with
    | .keys, .container _ pairs => return .container (.view .keys) (pairs.map keyOf)
    | .values, .container _ pairs => return .container (.view .values) (pairs.map valueOf)
    | .entries, .container _ pairs => return .container (.view .entries) pairs
    | part, _ => return .container (.view part) []

/-- A row in order by keys that a function gives, the greatest first perhaps. Values of one key stay
in their order. -/
def sortedBy (context : MethodContext) (items : List HostType) (key : Option HostType)
    (goesDown : Bool) : Building (List HostType) := do
  let keyed ← items.mapM fun item => do
    match key with
    | Option.none | some .none => return (item, item)
    | some function => return (← context.call function ⟨[item], []⟩, item)
  let turned (items : List (HostType × HostType)) := if goesDown then items.reverse else items
  let isLess (a b : HostType × HostType) : Building Bool := do return ← a.1.ordered .less b.1
  let inOrder ← Sorting.sorted isLess (fun _ => pure ()) (turned keyed)
  return (turned inOrder).map (·.2)

/-- A direction of sorting. -/
def isDownward (given : Option HostType) : Except Fault Bool := do
  match given with
  | Option.none => return false
  | some type => return (← type.asInteger) != 0

/-- What a row answers about itself or does to itself. -/
def rowMethod? (context : MethodContext) (kind : RowKind) (items : List HostType) (name : String)
    (given : Given) : Option (Changing HostType) :=
  let rules := itemRules context.model
  let receiver : HostType := .container (rowContainer kind) items
  let become (items : List HostType) : Changing Unit := set (HostType.container .list items)
  match name, kind, (given.at? 0).bind sliceBounds? with
  | "__getitem__", _, some (first, last, step) =>
    some do return ← receiver.sliced context.model first last step
  | "sort", .list, _ => some do
    let inOrder ← sortedBy context items (given.at? 0) (← isDownward (given.at? 1))
    become inOrder
    return .none
  | "__getnewargs__", .tuple, _ => some do return .container .tuple [receiver]
  | name, kind, _ =>
    let answer? := (rules.rowMethod? kind items name given).or
      (if kind = .list then rules.listMethod? become items name given else Option.none)
    answer?.map fun answer => do receiver.ofAnswer (← answer)

/-- What a map answers about itself or does to itself. -/
def mapMethod? (context : MethodContext) (kind : Container) (pairs : List HostType) (name : String)
    (given : Given) (named : List (String × HostType)) : Option (Changing HostType) :=
  let rules := itemRules context.model
  let receiver : HostType := .container kind pairs
  let become (entries : List (HostType × HostType)) : Changing Unit :=
    set (HostType.container .map (pairsOf entries))
  let entries := entriesOf pairs
  let named := named.map fun (name, value) => (HostType.text name, value)
  let answer? := (rules.mapMethod? entries name given).or
    (if kind = .map then rules.changeMap? become entries name given named else Option.none)
  answer?.map fun answer => do receiver.ofAnswer (← answer)

def viewMethod? (context : MethodContext) (part : MapPart) (items : List HostType) (name : String)
    (given : Given) : Option (Changing HostType) :=
  let rules := itemRules context.model
  let entries := match part with
    | .keys => items.map fun item => (item, HostType.none)
    | .values => items.map fun item => (HostType.none, item)
    | .entries => entriesOf items
  (rules.viewMethod? part entries name given).map fun answer => do
    (HostType.container (.view part) items).ofAnswer (← answer)

def rangeMethod? (model : Model) (range : HostType) (name : String) (given : Given) :
    Option (Building HostType) := do
  let (first, last, step) ← range.rangeBounds?
  let place? (item : HostType) : Option Nat := item.integer?.bind (rangePlace? first last step)
  let count := rangeCount first last step
  match name, given.at? 0 with
  | "__len__", _ => some do
    if maxSize < (count : Int) then
      throw (.operation .overflow "Python int too large to convert to C ssize_t")
    return ofInt count
  | "__iter__", _ =>
    some do return .container (.stream "range_iterator") (rangeItems first last step)
  | "__reversed__", _ =>
    some do return .container (.stream "range_iterator") (rangeItems first last step).reverse
  | "__contains__", some item => some do return ofBool (← item.isContained model range)
  | "count", some item => some do return ofInt (if (place? item).isSome then 1 else 0)
  | "index", some item => some do
    match place? item with
    | some place => return ofInt place
    | Option.none => throw (.operation .wrongValue (item.shown ++ " is not in range"))
  | "__getitem__", some key => some (itemAtKey model range key)
  | "__bool__", _ => some do return ofBool (count != 0)
  | _, _ => Option.none

/-- What something answers that can only be walked. -/
def streamMethod? (typeName : String) (items : List HostType) (name : String) :
    Option (Changing HostType) :=
  match name, items with
  | "__iter__", _ => some get
  | "__next__", item :: rest => some do
    set (HostType.container (.stream typeName) rest)
    return item
  | "__next__", [] => some (throw (.operation .exhausted ""))
  | "__length_hint__", items => some do return ofInt items.length
  | _, _ => Option.none

/-- The places that a range of places stands for among so many. -/
def sliceIndices (first last step length : HostType) : Except Fault HostType := do
  let length ← length.asInteger
  if length < 0 then throw (.operation .wrongValue "length should not be negative")
  let stride := (← step.bound?).getD 1
  if stride = 0 then throw (.operation .wrongValue "slice step cannot be zero")
  let (lowest, highest) : Int × Int := if 0 < stride then (0, length) else (-1, length - 1)
  let clamp (value : Int) : Int :=
    max lowest (min highest (if value < 0 then value + length else value))
  let first := ((← first.bound?).map clamp).getD (if 0 < stride then lowest else highest)
  let last := ((← last.bound?).map clamp).getD (if 0 < stride then highest else lowest)
  return .container .tuple [ofInt first, ofInt last, ofInt stride]

end HostType

end WireModel
