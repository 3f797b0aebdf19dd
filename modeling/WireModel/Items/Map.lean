import WireModel.Items.Basic

/-!
Methods of maps. A map that is changed is handed to what keeps it.
-/

namespace WireModel.ItemRules

variable {m : Type → Type} [Monad m] {α : Type} (rules : ItemRules m α)

/-- The place of a key among entries, and what stands at it. -/
def entryAt? (entries : List (α × α)) (key : α) : m (Option (Nat × α)) := do
  rules.checkKey key
  match ← rules.placeOf? (entries.map (·.1)) key with
  | some place => return (entries[place]?).map fun entry => (place, entry.2)
  | none => return none

/-- Binds a key in some entries: a known key keeps its place and takes the new value. -/
def bindEntry (entries : List (α × α)) (key value : α) : m (List (α × α)) := do
  match ← rules.entryAt? entries key with
  | some (place, _) => return entries.modify place fun entry => (entry.1, value)
  | none => return entries ++ [(key, value)]

/-- The key and the value that an item of a row stands for. -/
def entryOf (place : Nat) (item : α) : m (α × α) := do
  match ← rules.items? item with
  | some [key, value] => return (key, value)
  | some parts =>
    rules.refuse .wrongValue ("dictionary update sequence element #" ++ toString place ++
      " has length " ++ toString parts.length ++ "; 2 is required")
  | none =>
    rules.refuse .wrongType ("cannot convert dictionary update sequence element #" ++
      toString place ++ " to a sequence")

/-- The map is kept with one further entry after the other. -/
def bindAll (become : List (α × α) → m Unit) (entries : List (α × α)) :
    List (Unit → m (α × α)) → m (List (α × α))
  | [] => return entries
  | next :: rest => do
    let (key, value) ← next ()
    let entries ← rules.bindEntry entries key value
    become entries
    bindAll become entries rest

/-- Binds the keys of a map, or those of a row of pairs. -/
def updated (become : List (α × α) → m Unit) (entries : List (α × α)) (others : α) :
    m (List (α × α)) := do
  match ← rules.mapping? others with
  | some others => rules.bindAll become entries (others.map fun entry => fun _ => pure entry)
  | none =>
    let items ← rules.walk others
    rules.bindAll become entries (items.zipIdx.map fun (item, place) => fun _ =>
      rules.entryOf place item)

/-- For every entry there is one with the same key and the same value among the others. -/
def includedIn (others : List (α × α)) : List (α × α) → m Bool
  | [] => return true
  | (key, value) :: rest => do
    match ← rules.placeOf? (others.map (·.1)) key with
    | none => return false
    | some place =>
      match others[place]? with
      | some other => do
        if ← rules.same value other.2 then includedIn others rest else return false
      | none => return false

def keyMissing {β : Type} (key : α) : m β := do
  rules.refuse .missingKey (← rules.shown key)

/-- What a comparison of a map with another value says; an order between maps is left open. -/
def mapComparison (comparison : Comparison) (entries : List (α × α)) (other : α) :
    m (Answer α) := do
  match ← rules.map? other, comparison.isOrder with
  | some others, false =>
    let areSame ←
      if entries.length = others.length then rules.includedIn others entries else pure false
    return .truth (areSame == (comparison == .equal))
  | _, _ => return .undecided

/-- What a map answers without being changed. -/
def mapMethod? (entries : List (α × α)) (name : String) (given : List (Option α)) :
    Option (m (Answer α)) :=
  let second := (given[1]?).join
  match name, (given[0]?).join with
  | "get", some key => some do
    match ← rules.entryAt? entries key with
    | some (_, value) => return .value value
    | none => return second.elim .absent .value
  | "keys", none => some (pure (.view .keys))
  | "values", none => some (pure (.view .values))
  | "items", none => some (pure (.view .entries))
  | "copy", none => some (pure (.map entries))
  | "fromkeys", some keys => some do
    let keys ← rules.walk keys
    return .map (← keys.foldlM (fun entries key => do
      match second with
      | some value => rules.bindEntry entries key value
      | none => rules.bindEntry entries key (← rules.nothing)) [])
  | "__len__", none => some (pure (.integer entries.length))
  | "__iter__", none => some (pure (.walk "dict_keyiterator" (entries.map (·.1))))
  | "__reversed__", none =>
    some (pure (.walk "dict_reversekeyiterator" (entries.map (·.1)).reverse))
  | "__contains__", some key => some do return .truth (← rules.entryAt? entries key).isSome
  | "__getitem__", some key => some do
    match ← rules.entryAt? entries key with
    | some (_, value) => return .value value
    | none => rules.keyMissing key
  | "__or__", some other => some do
    match ← rules.map? other with
    | some others => return .map (← others.foldlM (fun all (key, value) =>
        rules.bindEntry all key value) entries)
    | none => return .undecided
  | "__ror__", some other => some do
    match ← rules.map? other with
    | some others => return .map (← entries.foldlM (fun all (key, value) =>
        rules.bindEntry all key value) others)
    | none => return .undecided
  | name, some other =>
    (Comparison.ofMethod? name).map fun comparison => rules.mapComparison comparison entries other
  | _, none => none

def popKey (become : List (α × α) → m Unit) (entries : List (α × α)) (key : α)
    (default : Option α) : m (Answer α) := do
  let found ← if entries.isEmpty then pure none else rules.entryAt? entries key
  match found, default with
  | some (place, value), _ =>
    become (entries.eraseIdx place)
    return .value value
  | none, some value => return .value value
  | none, none => rules.keyMissing key

/-- What a map does to itself and answers. The named values are bound behind those of another
map. -/
def changeMap? (become : List (α × α) → m Unit) (entries : List (α × α)) (name : String)
    (given : List (Option α)) (named : List (α × α)) : Option (m (Answer α)) :=
  let second := (given[1]?).join
  let changed (entries : List (α × α)) : m (Answer α) := do
    become entries
    return .absent
  let update (others : Option α) : m (Answer α) := do
    let entries ← match others with
      | some others => rules.updated become entries others
      | none => pure entries
    discard (rules.bindAll become entries (named.map fun entry => fun _ => pure entry))
    return .absent
  match name, (given[0]?).join, second with
  | "__setitem__", some key, some value => some do changed (← rules.bindEntry entries key value)
  | "__delitem__", some key, _ => some do
    match ← rules.entryAt? entries key with
    | some (place, _) => changed (entries.eraseIdx place)
    | none => rules.keyMissing key
  | "clear", none, _ => some (changed [])
  | "update", others, none | "__init__", others, none => some (update others)
  | "__ior__", some others, _ => some do
    discard (rules.updated become entries others)
    return .receiver
  | "setdefault", some key, default => some do
    match ← rules.entryAt? entries key with
    | some (_, value) => return .value value
    | none =>
      let value ← match default with
        | some value => pure value
        | none => rules.nothing
      become (← rules.bindEntry entries key value)
      return .value value
  | "pop", some key, default => some (rules.popKey become entries key default)
  | "popitem", none, _ => some do
    match entries.getLast? with
    | some (key, value) =>
      become entries.dropLast
      return .row .tuple [key, value]
    | none => rules.refuse .missingKey "'popitem(): dictionary is empty'"
  | _, _, _ => none

end WireModel.ItemRules
