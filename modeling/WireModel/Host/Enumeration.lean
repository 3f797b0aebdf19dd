import WireModel.Host.Fault
import WireModel.Json.Basic
import WireModel.Text.Digit
import WireModel.Text.Identifier
import WireModel.Text.Underscored

/-!
The members of a declared enumeration. A member whose value equals that of an earlier one is another
name for it and no member of its own; of flags only those with a single bit are members.
-/

namespace WireModel

open Text

/-- A member of an enumeration. -/
structure Member where
  name : String
  value : Json

namespace Member

/-- The tag of a member on the wire: its value if that is a text, else its name. -/
def tag (member : Member) : String :=
  match member.value with
  | .string value => value
  | _ => member.name

end Member

namespace Enumeration

/-- Names between single underscores that an enumeration may set without declaring a member. -/
def settings : List String :=
  ["_order_", "_generate_next_value_", "_numeric_repr_", "_missing_", "_ignore_", "_iter_member_",
    "_iter_member_by_value_", "_iter_member_by_def_"]

/-- The entries of an enumeration as far as they were set. -/
structure Body where
  /-- The entries that declare members. -/
  members : List Member
  /-- The names that are not to declare members. -/
  ignored : List String
  /-- The names among them that were set all the same. -/
  skipped : List String
  /-- The order in which the members are said to stand. -/
  order : Option Json
  /-- The names between double underscores with their values. -/
  special : List (String × Json)

namespace Body

def empty : Body :=
  ⟨[], [], [], none, []⟩

/-- The names that a text with blanks or commas between them lists. -/
def namesIn (text : String) : List String :=
  words (text.replace "," " ")

/-- The value cannot stand in a set. -/
def isCompound : Json → Bool
  | .array _ | .object _ => true
  | _ => false

def namesToIgnore : Json → Except Fault (List String)
  | .string text => .ok (namesIn text)
  | .array items =>
    if items.any isCompound then .error (.unsuitedMemberValue .wrongType)
    else .ok (items.filterMap Json.asText?)
  | .object entries => .ok (entries.map (·.1))
  | _ => .error (.unsuitedMemberValue .wrongType)

/-- Says which names are not to declare members; none of them may be set already. -/
def ignore (body : Body) (value : Json) : Except Fault Body := do
  let names ← namesToIgnore value
  match body.members.find? fun member => names.contains member.name with
  | some member => throw (.reservedMemberName member.name)
  | none => return { body with ignored := names }

/-- Sets a name that declares a member unless it is ignored. -/
def declare (body : Body) (name : String) (value : Json) : Except Fault Body :=
  if body.members.any (·.name == name) then .error (.repeatedMember name)
  else if body.ignored.contains name then .ok { body with skipped := name :: body.skipped }
  else if body.skipped.contains name then .error (.repeatedMember name)
  else .ok { body with members := body.members ++ [⟨name, value⟩] }

/-- Sets a name of a class: private names, settings and names between double underscores declare no
members. -/
def set (className : String) (body : Body) (name : String) (value : Json) : Except Fault Body :=
  if isPrivateOf className name then .ok body
  else if name = "_order_" || name = "__order__" then .ok { body with order := some value }
  else if isSunder name then
    if name = "_ignore_" then body.ignore value
    else if name ∈ settings then .ok body
    else .error (.reservedMemberName name)
  else if isDunder name then .ok { body with special := (name, value) :: body.special }
  else body.declare name value

/-- The names of the places that instances are said to have. -/
def placeNames : Json → Except Fault (List String)
  | .string name => .ok [name]
  | .array names =>
    if names.all fun name => name.asText?.isSome then .ok (names.filterMap Json.asText?)
    else .error (.unsuitedMemberValue .wrongType)
  | .object entries => .ok (entries.map (·.1))
  | _ => .error (.unsuitedMemberValue .wrongType)

/-- The places that instances are said to have are named like no member. Integers have no places. -/
def checkPlaces (base : EnumBase) (body : Body) : Except Fault Unit := do
  match body.special.lookup "__slots__" with
  | none => return
  | some value =>
    let names ← placeNames value
    if base = .integers && !names.isEmpty then throw (.unsuitedMemberValue .wrongType)
    if names.any fun name => !isIdentifier name || name = "__dict__" || name = "__weakref__" then
      throw (.unsuitedMemberValue .wrongType)
    if names.any fun name => body.members.any (·.name == name) then
      throw (.unsuitedMemberValue .wrongValue)

/-- The functions that make the members and keep their names can be called, if there are members. -/
def checkFunctions (base : EnumBase) (body : Body) : Except Fault Unit :=
  let isReplaced (name : String) : Bool := (body.special.lookup name).isSome
  let isMade := match body.special.lookup "__new__" with
    | none | some .null => false
    | some _ => true
  if isReplaced "__classcell__" || (!body.members.isEmpty &&
      (isMade || isReplaced "__init__" || isReplaced "__getattribute__" ||
        isReplaced "__setattr__" || (isReplaced "__getattr__" && base != .texts))) then
    .error (.unsuitedMemberValue .wrongType)
  else .ok ()

/-- Sets the entries of a class one after the other. No member may have an empty name or the name of
what orders the ancestors of classes. -/
def ofEntries (className : String) (entries : List (String × Json)) : Except Fault Body := do
  let body ← entries.foldlM (fun body entry => body.set className entry.1 entry.2) empty
  match body.members.find? fun member => member.name == "" || member.name == "mro" with
  | some member => throw (.reservedMemberName member.name)
  | none => return body

end Body

def asInteger : Json → Except Fault Int
  | .int value => .ok value
  | .bool value => .ok (if value then 1 else 0)
  | .float value =>
    match value.truncate? with
    | some value => .ok value
    | none => .error (.unsuitedMemberValue (if value.isInfinite then .overflow else .wrongValue))
  | .string value =>
    match readInteger? value with
    | some value => .ok value
    | none => .error (.unsuitedMemberValue .wrongValue)
  | _ => .error (.unsuitedMemberValue .wrongType)

/-- The value of a base that is written beside a number. -/
def asBase : Json → Except Fault Int
  | .int base => .ok base
  | .bool base => .ok (if base then 1 else 0)
  | _ => .error (.unsuitedMemberValue .wrongType)

/-- The integer that a text stands for to a base that stands beside it. -/
def asIntegerInBase (value base : Json) : Except Fault Int := do
  let base ← asBase base
  if base < 0 || base = 1 || 36 < base then throw (.unsuitedMemberValue .wrongValue)
  match value with
  | .string text =>
    match readIntegerInBase? base.toNat text with
    | some value => return value
    | none => throw (.unsuitedMemberValue .wrongValue)
  | _ => throw (.unsuitedMemberValue .wrongType)

/-- A value as the base of its enumeration takes it. -/
def adapted (base : EnumBase) (value : Json) : Except Fault Json :=
  match base, value with
  | .plain, value => .ok value
  | .integers, .array [] => .ok (.int 0)
  | .integers, .array [item] => (asInteger item).map .int
  | .integers, .array [item, base] => (asIntegerInBase item base).map .int
  | .integers, value => (asInteger value).map .int
  | .texts, .string value => .ok (.string value)
  | .texts, .array [] => .ok (.string "")
  | .texts, .array [.string value] => .ok (.string value)
  | .texts, _ => .error (.unsuitedMemberValue .wrongType)
  | .flags, value => .ok value

/-- The members without those whose value stands before already. -/
def withoutAliases : List Member → List Member
  | [] => []
  | member :: rest =>
    member :: (withoutAliases rest).filter fun other => !member.value.same other.value

/-- Exactly one bit of a value is set. -/
def isSingleBit : Json → Bool
  | .int value => value.toNat != 0 && value.toNat &&& (value.toNat - 1) == 0
  | .bool value => value
  | _ => false

/-- The value is an integer, or a truth value, which counts as one. -/
def isIntegral : Json → Bool
  | .int _ | .bool _ => true
  | _ => false

/-- The names in the order that is stated, and `none` in place of what is no name. An order that
states nothing is left alone. -/
def statedOrder : Json → Except Fault (List (Option String))
  | .null => .ok []
  | .string text => .ok ((Body.namesIn text).map some)
  | .array items => .ok (items.map Json.asText?)
  | .object entries => .ok (entries.map fun entry => some entry.1)
  | .bool value => if value then .error (.unsuitedMemberValue .wrongType) else .ok []
  | .int value => if value = 0 then .ok [] else .error (.unsuitedMemberValue .wrongType)
  | .float value =>
    if value.equalInt 0 then .ok [] else .error (.unsuitedMemberValue .wrongType)

/-- The members stand in the order that is stated: other names of members apart, it lists exactly
them. -/
def checkOrder (body : Body) (names members : List Member) : Except Fault Unit := do
  match body.order with
  | none => return
  | some order =>
    if body.ignored.contains "_order_" then return
    let stated ← statedOrder order
    if stated.isEmpty then return
    let isOtherName (name : Option String) : Bool :=
      names.any (some ·.name == name) && !members.any (some ·.name == name)
    if stated.filter (!isOtherName ·) != members.map (some ·.name) then
      throw (.unsuitedMemberValue .wrongType)

/-- All names of an enumeration with their values, and the members among them. -/
def build (className : String) (base : EnumBase) (entries : List (String × Json)) :
    Except Fault (List Member × List Member) := do
  let body ← Body.ofEntries className entries
  body.checkPlaces base
  body.checkFunctions base
  let names ← body.members.mapM fun member => do
    return { member with value := ← adapted base member.value }
  let distinct := withoutAliases names
  if base = .flags && !distinct.all (isIntegral ·.value) then
    throw (.unsuitedMemberValue .wrongType)
  let members := if base = .flags then distinct.filter (isSingleBit ·.value) else distinct
  checkOrder body names members
  return (names, members)

end Enumeration

end WireModel
