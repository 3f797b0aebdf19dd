import WireModel.Codec.Session.Language
import WireModel.Items.Row
import WireModel.Items.View

/-!
What lists, tuples, maps and views of maps do by themselves. Their items are held values; a list or
a map that is changed has changed wherever it is held.
-/

namespace WireModel.Codec

namespace Session

variable (library : Library)

/-- The entries of a map, or of the map that a value shows. -/
def entriesAt? (value : Value) : Session (Option (List (Value × Value))) := do
  match (← get).stored value with
  | .map entries => return some entries
  | _ => return none

/-- What a map lists of its entries, as held values. -/
def listed (part : MapPart) (entries : List (Value × Value)) : Session (List Value) :=
  match part with
  | .keys => return entries.map (·.1)
  | .values => return entries.map (·.2)
  | .entries => entries.mapM fun (key, value) => tuple [key, value]

/-- The items of a held value, if it can be walked. -/
def itemsOf? (value : Value) : Session (Option (List Value)) := do
  match (← get).stored value with
  | .list items | .tuple items => return some items
  | .map entries => return some (entries.map (·.1))
  | .view kind whole =>
    let entries := (← entriesAt? whole).getD []
    match kind with
    | .listed part => return some (← listed part entries)
    | .proxy => return some (entries.map (·.1))
  | .type path =>
    match library.at? path with
    | some (.enumeration constants) =>
      return some ((Library.distinctConstants constants).map fun (name, tag) =>
        .constant path name tag)
    | _ => return none
  | value =>
    match value.asLanguage?.bind (HostType.items? .empty) with
    | some items => return some (← items.mapM ofLanguage)
    | none => return none

/-- The order of two held values. -/
def ordered (comparison : Comparison) (value other : Value) : Session Bool := do
  let value ← view library value
  let other ← view library other
  let answer ← ofExcept (value.ordered comparison other)
  checkDepth .comparing value
  return answer

/-- What containers ask of held values. -/
def itemRules : ItemRules Session Value where
  same := same library
  ordered := ordered library
  integer?
    | .int value => some value
    | .bool value => some (Value.ofBool value)
    | _ => none
  items? := itemsOf? library
  row? value := do
    match (← get).stored value with
    | .list items => return some (.list, items)
    | .tuple items => return some (.tuple, items)
    | _ => return none
  map? := entriesAt?
  mapping? value := do
    match (← get).stored value with
    | .map entries => return some entries
    | .view .proxy whole => return (← entriesAt? whole)
    | _ => return none
  set? value := do
    match (← get).stored value with
    | .view (.listed part) whole =>
      if part = .values then return none
      else return some (← listed part ((← entriesAt? whole).getD []))
    | .language value =>
      match value.setItems? with
      | some items => return some (← items.mapM ofLanguage)
      | none => return none
    | _ => return none
  pair a b := tuple [a, b]
  nothing := return .null
  checkKey value := do
    if !(← view library value).isHashable then throw (.fault .wrongType)
  shown _ := return ""
  typeName _ := return ""
  refuse kind _ := throw (.fault kind)

/-- What a container answers, as a held value. -/
def ofAnswer (receiver : Value) : Answer Value → Session Value
  | .value item => return item
  | .absent => return .null
  | .integer value => return .int value
  | .truth value => return .bool value
  | .row .list items => list items
  | .row .tuple items => tuple items
  | .set items => do
    let items ← items.mapM (toLanguage library)
    ofLanguage (← build do return ← HostType.containerOf .set items)
  | .map entries => map entries
  | .receiver => return receiver
  | .undecided => return .language .undecided
  | .walk typeName items => do
    return .language (.container (.stream typeName) (← items.mapM (toLanguage library)))
  | .entryWalk typeName entries => do
    let items ← entries.mapM fun (key, _) => toLanguage library key
    return .language (.container (.stream typeName) items)
  | .view part => perform (Store.add (.view (.listed part) receiver))

def becomeList (value : Value) (items : List Value) : Session Unit :=
  replace value (.list items)

def becomeMap (value : Value) (entries : List (Value × Value)) : Session Unit :=
  replace value (.map entries)

/-- What a container does by itself, given the values of the parameters of a method. -/
def containerMethod? (value : Value) (name : String) (given : List (Option Value)) :
    Session (Option (Session (Answer Value))) := do
  let rules := itemRules library
  match (← get).stored value with
  | .list items =>
    return (rules.rowMethod? .list items name given).or
      (rules.listMethod? (becomeList value) items name given)
  | .tuple items => return rules.rowMethod? .tuple items name given
  | .map entries =>
    return (rules.mapMethod? entries name given).or
      (rules.changeMap? (becomeMap value) entries name given [])
  | .view (.listed part) whole =>
    return rules.viewMethod? part ((← entriesAt? whole).getD []) name given
  | .view .proxy whole => return rules.mapMethod? ((← entriesAt? whole).getD []) name given
  | _ => return none

end Session

end WireModel.Codec
