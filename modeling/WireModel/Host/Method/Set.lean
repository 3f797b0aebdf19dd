import WireModel.Host.Method.Container

/-!
Methods of sets.
-/

namespace WireModel

namespace HostType

/-- The items that some values hold together. -/
def itemsOfAll (model : Model) (values : List HostType) : Except Fault (List HostType) := do
  return (← values.mapM (walked model)).flatten

/-- Some items without those of other values, or only those that all of them hold. -/
def restricted (model : Model) (isShared : Bool) (items : List HostType) (values : List HostType) :
    Except Fault (List HostType) :=
  values.foldlM (fun items value => do
    let others ← setOf (← value.walked model)
    return items.filter fun item => others.any (item.same ·) == isShared) items

def unshared (items others : List HostType) : List HostType :=
  itemsWithout items others ++ itemsWithout others items

/-- What a set answers without being changed. -/
def setAnswer? (model : Model) (kind : Container) (items : List HostType) (name : String)
    (given : Given) : Option (Except Fault HostType) :=
  let values := given.filterMap id
  let ofItems (items : List HostType) : Except Fault HostType := do
    return .container kind (← setOf items)
  match name, values with
  | "copy", [] => some (.ok (.container kind items))
  | "union", values => some do ofItems (items ++ (← itemsOfAll model values))
  | "intersection", values => some do ofItems (← restricted model true items values)
  | "difference", values => some do ofItems (← restricted model false items values)
  | "symmetric_difference", [other] => some do
    ofItems (unshared items (← setOf (← other.walked model)))
  | "issubset", [other] => some do return ofBool (isSubset items (← setOf (← other.walked model)))
  | "issuperset", [other] => some do return ofBool (isSubset (← setOf (← other.walked model)) items)
  | "isdisjoint", [other] => some do
    let others ← setOf (← other.walked model)
    return ofBool !(items.any fun item => others.any (item.same ·))
  | "__contains__", [item] =>
    some do return ofBool (← item.isContained model (.container kind items))
  | "__len__", [] => some (.ok (ofInt items.length))
  | "__iter__", [] => some (.ok (.container (.stream "set_iterator") items))
  | name, [other] =>
    match Comparison.ofMethod? name, other.setLike? with
    | some comparison, some others =>
      some (match comparison with
        | .equal => .ok (ofBool ((HostType.container kind items).same (.container .set others)))
        | .notEqual => .ok (ofBool !((HostType.container kind items).same (.container .set others)))
        | comparison => do
          return ofBool (← (HostType.container .set items).ordered comparison
            (.container .set others)))
    | some _, Option.none => some (.ok undecided)
    | Option.none, others? =>
      match name, others? with
      | "__and__", some others | "__rand__", some others =>
        some (ofItems (itemsWithout items (itemsWithout items others)))
      | "__or__", some others => some (ofItems (items ++ others))
      | "__ror__", some others => some (ofItems (others ++ items))
      | "__sub__", some others => some (ofItems (itemsWithout items others))
      | "__rsub__", some others => some (ofItems (itemsWithout others items))
      | "__xor__", some others | "__rxor__", some others => some (ofItems (unshared items others))
      | name, Option.none =>
        if name ∈ ["__and__", "__rand__", "__or__", "__ror__", "__sub__", "__rsub__", "__xor__",
            "__rxor__", "__iand__", "__ior__", "__isub__", "__ixor__"] then some (.ok undecided)
        else Option.none
      | _, _ => Option.none
  | _, _ => Option.none

def changeSet? (model : Model) (items : List HostType) (name : String) (given : Given) :
    Option (Changing HostType) :=
  let values := given.filterMap id
  let become (items : List HostType) : Changing Unit := do
    set (HostType.container .set (← setOf items))
  let changed (items : List HostType) : Changing HostType := do
    become items
    return .none
  let combined (name : String) (other : HostType) : Changing HostType := do
    match setAnswer? model .set items name [some other] with
    | some answer =>
      set (← answer)
      return ← get
    | Option.none => return undecided
  match name, values with
  | "add", [item] => some (changed (items ++ [item]))
  | "discard", [item] => some do
    item.checkKey
    changed (itemsWithout items [item])
  | "remove", [item] => some do
    item.checkKey
    if !items.any (item.same ·) then throw (.operation .missingKey item.shown)
    changed (itemsWithout items [item])
  | "pop", [] => some do
    match items with
    | item :: rest =>
      become rest
      return item
    | [] => throw (.operation .missingKey "'pop from an empty set'")
  | "clear", [] => some (changed [])
  | "update", values => some do changed (items ++ (← itemsOfAll model values))
  | "intersection_update", values => some do changed (← restricted model true items values)
  | "difference_update", values => some do changed (← restricted model false items values)
  | "symmetric_difference_update", [other] => some do
    changed (unshared items (← setOf (← other.walked model)))
  | "__iand__", [other] => some (combined "__and__" other)
  | "__ior__", [other] => some (combined "__or__" other)
  | "__isub__", [other] => some (combined "__sub__" other)
  | "__ixor__", [other] => some (combined "__xor__" other)
  | "__init__", [] => some (changed [])
  | "__init__", [others] => some do changed (← others.walked model)
  | _, _ => Option.none

/-- What a set answers about itself or does to itself. -/
def setMethod? (model : Model) (kind : Container) (items : List HostType) (name : String)
    (given : Given) : Option (Changing HostType) :=
  let change? := if kind = .set then changeSet? model items name given else Option.none
  change?.or ((setAnswer? model kind items name given).map Changing.settled)

end HostType

end WireModel
