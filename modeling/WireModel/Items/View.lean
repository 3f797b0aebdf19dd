import WireModel.Items.Map

/-!
Methods of what a map lists: its keys, its values, or its entries. Keys and entries are like sets.
-/

namespace WireModel.ItemRules

variable {m : Type → Type} [Monad m] {α : Type} (rules : ItemRules m α)

def listed (part : MapPart) (entries : List (α × α)) : m (List α) :=
  match part with
  | .keys => return entries.map (·.1)
  | .values => return entries.map (·.2)
  | .entries => entries.mapM fun (key, value) => rules.pair key value

def without (items others : List α) : m (List α) :=
  match items with
  | [] => return []
  | item :: rest => do
    let isThere := (← rules.placeOf? others item).isSome
    let rest ← without rest others
    return if isThere then rest else item :: rest

def within (items others : List α) : m (List α) :=
  match items with
  | [] => return []
  | item :: rest => do
    let isThere := (← rules.placeOf? others item).isSome
    let rest ← within rest others
    return if isThere then item :: rest else rest

def distinct (items : List α) : m (List α) :=
  items.foldlM (fun known item => do
    rules.checkKey item
    return if (← rules.placeOf? known item).isSome then known else known ++ [item]) []

/-- What a map lists, together with the items of another value as a set. -/
def combined (name : String) (items others : List α) : m (Option (List α)) := do
  let others ← rules.distinct others
  match name with
  | "__and__" | "__rand__" => return some (← rules.within others items)
  | "__or__" | "__ror__" => do
    let items ← rules.distinct items
    return some (items ++ (← rules.without others items))
  | "__sub__" => return some (← rules.without (← rules.distinct items) others)
  | "__rsub__" => return some (← rules.without others items)
  | "__xor__" | "__rxor__" => do
    let items ← rules.distinct items
    return some ((← rules.without items others) ++ (← rules.without others items))
  | _ => return none

def setComparison (comparison : Comparison) (items others : List α) : m Bool := do
  let allIn (a b : List α) : m Bool := do return (← rules.without a b).isEmpty
  match comparison with
  | .equal => if items.length = others.length then allIn items others else return false
  | .notEqual =>
    if items.length = others.length then return !(← allIn items others) else return true
  | .less => if items.length < others.length then allIn items others else return false
  | .lessEqual => allIn items others
  | .greater => if others.length < items.length then allIn others items else return false
  | _ => allIn others items

def walkerName (part : MapPart) (isReversed : Bool) : String :=
  "dict_" ++ (if isReversed then "reverse" else "") ++
    (match part with | .keys => "key" | .values => "value" | .entries => "item") ++ "iterator"

def isListed (part : MapPart) (entries : List (α × α)) (value : α) : m Bool := do
  match part with
  | .keys => return (← rules.entryAt? entries value).isSome
  | .values => return (← rules.placeOf? (entries.map (·.2)) value).isSome
  | .entries =>
    match ← rules.row? value with
    | some (.tuple, [key, part]) =>
      match ← rules.entryAt? entries key with
      | some (_, known) => rules.same known part
      | none => return false
    | _ => return false

/-- What a part of a map that is like a set answers about another value. -/
def setLikeMethod? (part : MapPart) (entries : List (α × α)) (name : String) (other : α) :
    Option (m (Answer α)) :=
  match name, Comparison.ofMethod? name with
  | "__contains__", _ => some do return .truth (← rules.isListed part entries other)
  | "isdisjoint", _ => some do
    let others ← rules.walk other
    return .truth (← rules.within (← rules.listed part entries) others).isEmpty
  | _, some comparison => some do
    match ← rules.set? other with
    | some others =>
      return .truth (← rules.setComparison comparison (← rules.listed part entries) others)
    | none => return .undecided
  | name, none =>
    if name ∈ ["__and__", "__rand__", "__or__", "__ror__", "__sub__", "__rsub__", "__xor__",
        "__rxor__"] then
      some do
        match ← rules.combined name (← rules.listed part entries) (← rules.walk other) with
        | some items => return .set items
        | none => return .undecided
    else none

def viewMethod? (part : MapPart) (entries : List (α × α)) (name : String)
    (given : List (Option α)) : Option (m (Answer α)) :=
  match name, (given[0]?).join, part with
  | "__len__", none, _ => some (pure (.integer entries.length))
  | "__iter__", none, _ => some do
    return .walk (walkerName part false) (← rules.listed part entries)
  | "__reversed__", none, _ => some do
    return .walk (walkerName part true) (← rules.listed part entries.reverse)
  | _, none, _ | _, some _, .values => none
  | name, some other, part => rules.setLikeMethod? part entries name other

end WireModel.ItemRules
