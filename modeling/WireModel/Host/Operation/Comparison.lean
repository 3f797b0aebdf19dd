import WireModel.Host.Operation.Items
import WireModel.Text.Part

/-!
Comparisons between the values of expressions: equality, order, identity, and being an item.
-/

namespace WireModel

namespace HostType

/-- The order of two lists: that of the first items that differ. -/
def lessItems (isLess : HostType → HostType → Except Fault Bool) (whenEqual : Bool) :
    List HostType → List HostType → Except Fault Bool
  | [], [] => .ok whenEqual
  | [], _ :: _ => .ok true
  | _ :: _, [] => .ok false
  | a :: as, b :: bs => if a.same b then lessItems isLess whenEqual as bs else isLess a b

/-- The first number is below the second one, or perhaps is equal to it. An integer is not rounded
for that. -/
def isBelow (whenEqual : Bool) : Numeral → Numeral → Bool
  | .integer a, .integer b => a < b || (whenEqual && a == b)
  | .floating a, .floating b => a.less b || (whenEqual && a.equal b)
  | .integer a, .floating b =>
    match b, b.ratio? with
    | _, some (n, d) => a * d < n || (whenEqual && a * d == n)
    | .infinite isNegative, _ => !isNegative
    | _, _ => false
  | .floating a, .integer b =>
    match a, a.ratio? with
    | _, some (n, d) => n < b * d || (whenEqual && n == b * d)
    | .infinite isNegative, _ => isNegative
    | _, _ => false

/-- The first value stands before the second one, or perhaps is equal to it. -/
def isBefore (comparison : Comparison) (whenEqual : Bool) : Nat → HostType → HostType →
    Except Fault Bool
  | 0, _, _ => .error .tooDeep
  | fuel + 1, left, right =>
    match left.numeral?, right.numeral?, left.asText?, right.asText? with
    | some a, some b, _, _ => .ok (isBelow whenEqual a b)
    | _, _, some a, some b => .ok (Text.isBefore a b || (whenEqual && a == b))
    | _, _, _, _ =>
      match left, right with
      | .constant (.bytes as), .constant (.bytes bs) =>
        .ok (as < bs || (whenEqual && as == bs))
      | .container .list as, .container .list bs | .container .tuple as, .container .tuple bs =>
        lessItems (isBefore comparison whenEqual fuel) whenEqual as bs
      | left, right =>
        .error
          (.wrongOperands ("'" ++ comparison.text ++ "' not supported between instances of '" ++
          left.typeName ++ "' and '" ++ right.typeName ++ "'"))

/-- A set holds all items of another one. -/
def isSubset (items others : List HostType) : Bool :=
  items.all fun item => others.any (item.same ·)

def setItems? : HostType → Option (List HostType)
  | .container .set items | .container .frozenSet items => some items
  | _ => Option.none

/-- How deep values are compared. -/
def maxDepth : Nat := 200

/-- An ordering between two values. The sides are turned for the orderings that look backwards, and
the complaint names them as they are written. -/
def ordered (comparison : Comparison) (left right : HostType) : Except Fault Bool :=
  let complaint (comparison : Comparison) : Except Fault Bool :=
    .error (.wrongOperands ("'" ++ comparison.text ++ "' not supported between instances of '" ++
      left.typeName ++ "' and '" ++ right.typeName ++ "'"))
  match left.setItems?, right.setItems?, comparison with
  | some as, some bs, .less => .ok (isSubset as bs && as.length < bs.length)
  | some as, some bs, .lessEqual => .ok (isSubset as bs)
  | some as, some bs, .greater => .ok (isSubset bs as && bs.length < as.length)
  | some as, some bs, .greaterEqual => .ok (isSubset bs as)
  | _, _, .less => isBefore .less false maxDepth left right
  | _, _, .lessEqual => isBefore .lessEqual true maxDepth left right
  | _, _, comparison =>
    match isBefore comparison (comparison == .greaterEqual) maxDepth right left with
    | .ok value => .ok value
    | .error _ => complaint comparison

/-- The values are one and the same. Containers that can change are made anew each time. -/
def isIdentical (left right : HostType) : Bool :=
  left.typeName == right.typeName && left.same right && !left.hasUnhashableClass &&
    match left with
    | .applied head _ => !head.isNative
    | .union .native _ => false
    | .record (.function _) _ => true
    | .record .. => false
    | _ => true

/-- A row stands inside another one. -/
def hasPart (part : List Nat) : List Nat → Bool
  | [] => part.isEmpty
  | byte :: rest => part.isPrefixOf (byte :: rest) || hasPart part rest

def isContained (model : Model) (item container : HostType) : Except Fault Bool :=
  match container.asText?, container with
  | some content, _ =>
    match item.asText? with
    | some part => .ok (Text.isPart part content)
    | Option.none =>
      .error (.wrongOperands
        ("'in <string>' requires string as left operand, not " ++ item.typeName))
  | Option.none, .container kind items =>
    match kind, item.unhashable? with
    | .map, some typeName | .set, some typeName | .frozenSet, some typeName =>
      .error (.unhashable typeName)
    | _, _ => .ok ((((HostType.container kind items).items? model).getD []).any (item.same ·))
  | Option.none, .constant (.bytes content) =>
    match item, item.integer? with
    | .constant (.bytes part), _ => .ok (hasPart part content)
    | _, some byte =>
      if byte < 0 || 256 ≤ byte then
        .error (.operation .wrongValue "byte must be in range(0, 256)")
      else .ok (content.contains byte.toNat)
    | item, Option.none =>
      .error (.wrongOperands ("a bytes-like object is required, not '" ++ item.typeName ++ "'"))
  | Option.none, .record .range attributes =>
    .ok (match item.integer?, (HostType.record .range attributes).rangeBounds? with
      | some value, some (first, last, step) => (rangePlace? first last step value).isSome
      | _, _ => (((HostType.record .range attributes).items? model).getD []).any (item.same ·))
  | Option.none, .declared ref =>
    match ref.category, item with
    | .enumeration _, .constant (.member owner _ _) => .ok (owner == ref)
    | .enumeration _, item => .error (.unsupportedOperands "'in'" item (.declared ref))
    | _, _ =>
      .error (.wrongOperands ("argument of type '" ++ container.typeName ++ "' is not iterable"))
  | Option.none, container =>
    match container.flags?, item.flags?, container.items? model with
    | some (ref, all), some (other, part), _ =>
      if ref = other then .ok (combineBits (· &&& ·) all part == part)
      else .error (.unsupportedOperands "'in'" item container)
    | some _, Option.none, _ => .error (.unsupportedOperands "'in'" item container)
    | Option.none, _, some items => .ok (items.any (item.same ·))
    | Option.none, _, Option.none =>
      .error (.wrongOperands ("argument of type '" ++ container.typeName ++ "' is not iterable"))

/-- A comparison between two values. -/
def compared (model : Model) (comparison : Comparison) (left right : HostType) :
    Except Fault Bool :=
  match comparison with
  | .equal => .ok (left.same right)
  | .notEqual => .ok (!left.same right)
  | .identical => .ok (left.isIdentical right)
  | .notIdentical => .ok (!left.isIdentical right)
  | .contained => left.isContained model right
  | .notContained => do return !(← left.isContained model right)
  | comparison => left.ordered comparison right

end HostType

end WireModel
