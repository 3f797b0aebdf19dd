import WireModel.Host.Operation.Basic
import WireModel.Number.Complex

/-!
Arithmetic on the values of expressions: on numbers, sets of flags, containers and texts. A bar
between types unites them.
-/

namespace WireModel

namespace HostType

/-- How many bits a number has. -/
def bitLength (value : Int) : Nat :=
  if value = 0 then 0 else value.natAbs.log2 + 1

/-- The bits of two integers combined. -/
def combineBits (operation : Nat → Nat → Nat) (a b : Int) : Int :=
  -- as many bits as either has, and one more for the sign
  let width := (max a.natAbs.log2 b.natAbs.log2) + 2
  let modulus := Nat.pow 2 width
  let unsigned (value : Int) : Nat := (value % (modulus : Int)).toNat
  let result := operation (unsigned a) (unsigned b)
  if result < Nat.pow 2 (width - 1) then result else (result : Int) - modulus

/-- The greatest number of places by which bits are shifted. -/
def maxShift : Int := (Nat.pow 2 63 : Int) - 1

/-- An integer with its bits shifted, to the left or to the right. -/
def shifted (toLeft : Bool) (value places : Int) : Except Fault HostType :=
  if places < 0 then .error (.operation .wrongValue "negative shift count")
  else if value = 0 then .ok (ofInt 0)
  else if toLeft then
    if maxShift < places then .error (.operation .overflow "too many digits in integer")
    else .ok (ofInt (value * Nat.pow 2 places.toNat))
  else if (value.natAbs.log2 : Int) < places then .ok (ofInt (if value < 0 then -1 else 0))
  else .ok (ofInt (Int.fdiv value (Nat.pow 2 places.toNat)))

/-- So many bits at most has a power of a double that is worked out exactly. -/
def maxPowerBits : Nat := Nat.pow 2 12

/-- A result that may be too great. -/
def bounded (value : Double) : Except Fault HostType :=
  if value.isInfinite then .error (.operation .overflow "(34, 'Numerical result out of range')")
  else .ok (ofDouble value)

def doubleToInteger (a : Double) (exponent : Int) : Except Fault HostType :=
  let bits := ((a.lowestRatio?).map fun (n, d) => n.natAbs.log2 + d.log2).getD 0 + 1
  let isNegative := a.isNegative && exponent % 2 != 0
  if bits * exponent.natAbs < maxPowerBits || a.isZero then
    let power := a.powerOf (if a.isZero then 2 - exponent.natAbs % 2 else exponent.natAbs)
    bounded (if 0 ≤ exponent then power else (Double.ofInt 1).divide power)
  else
    match (Complex.magnitude a).power? (.ofInt exponent) with
    | some power => bounded (if isNegative then power.negate else power)
    | Option.none => .ok (ofDouble .notANumber)

def powerOfComplex (a b : Complex) : Except Fault HostType :=
  let bounded (value : Complex) : Except Fault HostType :=
    if value.real.isInfinite || value.imaginary.isInfinite then
      .error (.operation .overflow "complex exponentiation")
    else .ok (ofComplex value)
  let whole? := b.real.truncate?.filter fun exponent =>
    b.imaginary.isZero && b.real.equalInt exponent && exponent.natAbs ≤ 100
  if b.isZero then .ok (ofComplex .one)
  else if a.isZero then
    if b.real.isNegative || !b.imaginary.isZero then
      .error (.zeroDivision "0.0 to a negative or complex power")
    else .ok (ofComplex (.ofDouble (.zero false)))
  else
    match whole?, a.power? b with
    | some exponent, _ => bounded (a.powerOf exponent)
    | Option.none, some power => bounded power
    | Option.none, Option.none => .ok (ofComplex ⟨.notANumber, .notANumber⟩)

def powerOfDoubles (a b : Double) : Except Fault HostType :=
  let size := Complex.magnitude a
  let one := Double.ofInt 1
  let infinitePower (isOdd : Bool) : HostType :=
    ofDouble (if b.isNegative then .zero (a.isNegative && isOdd)
      else .infinite (a.isNegative && isOdd))
  match b with
  | .notANumber => .ok (ofDouble (if a.equal one then one else .notANumber))
  | .infinite isNegative =>
    .ok (ofDouble (if a = .notANumber then .notANumber
      else if size.equal one then one
      else if one.less size = isNegative then .zero false
      else .infinite false))
  | b =>
    let exponent := (b.truncate?).getD 0
    let isWhole := b.equalInt exponent
    if b.isZero || a.equal one then .ok (ofDouble one)
    else if a = .notANumber then .ok (ofDouble .notANumber)
    else if a.isInfinite then .ok (infinitePower (isWhole && exponent % 2 != 0))
    else if a.isZero && b.isNegative then
      .error (.zeroDivision "0.0 cannot be raised to a negative power")
    else if isWhole then doubleToInteger a exponent
    else if a.isZero then .ok (ofDouble (.zero false))
    else if a.isNegative then powerOfComplex (.ofDouble a) (.ofDouble b)
    else
      match a.power? b with
      | some power => bounded power
      | Option.none => .ok (ofDouble .notANumber)

/-- An integer to the power of another one; a negative exponent makes a fraction of it. -/
def powerOfIntegers (base exponent : Int) : Except Fault HostType := do
  if 0 ≤ exponent then return ofInt (Int.pow base exponent.toNat)
  else powerOfDoubles (← Numeral.doubleOf base) (← Numeral.doubleOf exponent)

/-- An operator between two integers; without a result they do not take it. -/
def integerOperation (operator : BinaryOperator) (a b : Int) : Except Fault (Option HostType) :=
  let exact (value : Int) : Except Fault (Option HostType) := .ok (some (ofInt value))
  match operator with
  | .add => exact (a + b)
  | .subtract => exact (a - b)
  | .multiply => exact (a * b)
  | .matrixMultiply => .ok Option.none
  | .divide =>
    if b = 0 then .error (.zeroDivision "division by zero")
    else
      match Double.ofRatio ((a < 0) != (b < 0)) a.natAbs b.natAbs with
      | .infinite _ => .error (.operation .overflow "integer division result too large for a float")
      | value => .ok (some (ofDouble value))
  | .floorDivide =>
    if b = 0 then .error (.zeroDivision "integer division or modulo by zero")
    else exact (Int.fdiv a b)
  | .remainder =>
    if b = 0 then .error (.zeroDivision "integer modulo by zero") else exact (Int.fmod a b)
  | .power => do return some (← powerOfIntegers a b)
  | .leftShift => do return some (← shifted true a b)
  | .rightShift => do return some (← shifted false a b)
  | .bitAnd => exact (combineBits (· &&& ·) a b)
  | .bitOr => exact (combineBits (· ||| ·) a b)
  | .bitXor => exact (combineBits (· ^^^ ·) a b)

/-- An operator between two doubles; without a result they do not take it. -/
def doubleOperation (operator : BinaryOperator) (a b : Double) : Except Fault (Option HostType) :=
  let rounded (value : Double) : Except Fault (Option HostType) := .ok (some (ofDouble value))
  match operator with
  | .add => rounded (a.add b)
  | .subtract => rounded (a.add b.negate)
  | .multiply => rounded (a.multiply b)
  | .divide =>
    if b.isZero then .error (.zeroDivision "float division by zero") else rounded (a.divide b)
  | .floorDivide =>
    if b.isZero then .error (.zeroDivision "float floor division by zero")
    else rounded (a.divideDown b).1
  | .remainder =>
    if b.isZero then .error (.zeroDivision "float modulo") else rounded (a.divideDown b).2
  | .power => do return some (← powerOfDoubles a b)
  | _ => .ok Option.none

/-- The set of flags with a value. Its name lists the flags in it unless it has a name itself. -/
def flagSet (model : Model) (owner : ClassRef) (value : Int) : HostType :=
  let declared? := model.find? owner
  match declared?.bind fun declared =>
      declared.memberNames.find? fun member => member.value.same (.int value) with
  | some member => .constant (.member owner member.name member.value)
  | Option.none =>
    let inside (member : Member) : Bool :=
      match member.value with
      | .int bit => combineBits (· &&& ·) value bit == bit
      | _ => false
    let names := ((model.members owner).filter inside).map Member.name
    .constant (.member owner ("|".intercalate names) (.int value))

/-- The value of a set of flags, with its class. -/
def flags? : HostType → Option (ClassRef × Int)
  | .constant (.member owner _ (.int value)) =>
    match owner.category with
    | .enumeration .flags => some (owner, value)
    | _ => Option.none
  | _ => Option.none

/-- The members with one bit each that a set of flags is made of. -/
def flagsIn (model : Model) (owner : ClassRef) (value : Int) : List HostType :=
  (List.range (value.toNat.log2 + 1)).filterMap fun place =>
    if value.toNat.testBit place then some (flagSet model owner (Nat.pow 2 place)) else Option.none

/-- An operator between two complex numbers; without a result they do not take it. -/
def complexOperation (operator : BinaryOperator) (a b : Complex) : Except Fault (Option HostType) :=
  let known (value : Complex) : Except Fault (Option HostType) := .ok (some (ofComplex value))
  match operator with
  | .add => known (a.add b)
  | .subtract => known (a.subtract b)
  | .multiply => known (a.multiply b)
  | .divide =>
    if b.isZero then .error (.zeroDivision "complex division by zero") else known (a.divide b)
  | .power => do return some (← powerOfComplex a b)
  | _ => .ok Option.none

/-- The values are numbers, and the operator between them has a result. -/
def numericOperation (operator : BinaryOperator) (left right : HostType) :
    Except Fault (Option HostType) := do
  match left.numeral?, right.numeral? with
  | some (.integer a), some (.integer b) =>
    match ← integerOperation operator a b, left.isTruthValue && right.isTruthValue with
    | some (.constant (.int value)), true =>
      match operator with
      | .bitAnd | .bitOr | .bitXor => return some (ofBool (value != 0))
      | _ => return some (ofInt value)
    | result, _ => return result
  | some a, some b => doubleOperation operator (← a.toDouble) (← b.toDouble)
  | _, _ =>
    match ← left.complex?, ← right.complex? with
    | some a, some b => complexOperation operator a b
    | _, _ => return Option.none

/-- The size of the table that a set of so many items is kept in: a power of two that leaves it
mostly free. -/
def setTableSize (count : Nat) : Nat :=
  if count ≤ 4 then 8 else if count ≤ 18 then 32 else Nat.pow 2 ((count * 4).log2 + 1)

/-- The place in a table of a set that a number takes. -/
def placeInSet? (size : Nat) (type : HostType) : Option Nat :=
  match type.numeral? with
  | some (.integer value) => some (((if value = -1 then -2 else value) % (size : Int)).toNat)
  | _ => Option.none

/-- The items of a set in the order in which it shows them. Integers go by their places in its
table, the earlier one first where two want the same place; other items stay as they came. -/
def arrangedInSet (items : List HostType) : List HostType :=
  match items.mapM (placeInSet? (setTableSize items.length)) with
  | some places => ((items.zip places).mergeSort fun a b => decide (a.2 ≤ b.2)).map (·.1)
  | Option.none => items

/-- The items of the first container that are not in the second. -/
def itemsWithout (items others : List HostType) : List HostType :=
  items.filter fun item => !others.any (item.same ·)

/-- An operator between two containers; without a result they do not take it. -/
def containerOperation (operator : BinaryOperator) (left right : HostType) : Option HostType :=
  match operator, left, right with
  | .add, .container .list as, .container .list bs => some (.container .list (as ++ bs))
  | .add, .container .tuple as, .container .tuple bs => some (.container .tuple (as ++ bs))
  | .add, .constant (.bytes as), .constant (.bytes bs) => some (.constant (.bytes (as ++ bs)))
  | .bitOr, .container .map as, .container .map bs =>
    some (.container .map (bs.foldl bindPair as))
  | operator, .container kind as, .container other bs =>
    if (kind = .set || kind = .frozenSet) && (other = .set || other = .frozenSet) then
      let ofItems (items : List HostType) := some (HostType.container kind (arrangedInSet items))
      match operator with
      | .bitOr => ofItems (as ++ itemsWithout bs as)
      | .bitAnd => ofItems (itemsWithout as (itemsWithout as bs))
      | .subtract => ofItems (itemsWithout as bs)
      | .bitXor => ofItems (itemsWithout as bs ++ itemsWithout bs as)
      | _ => Option.none
    else Option.none
  | _, _, _ => Option.none

/-- The value is a sequence that can be repeated. -/
def isSequence (type : HostType) : Bool :=
  match type with
  | .container .list _ | .container .tuple _ | .constant (.bytes _) => true
  | type => type.asText?.isSome

/-- A sequence several times over. -/
def repeated (type : HostType) (count : Int) : HostType :=
  match type with
  | .container kind items => .container kind (List.replicate count.toNat items).flatten
  | .constant (.bytes content) => .constant (.bytes (List.replicate count.toNat content).flatten)
  | type => .text (String.join (List.replicate count.toNat (type.asText?.getD "")))

/-- The sum or the multiple of sequences, which have complaints of their own. -/
def sequenceOperation (operator : BinaryOperator) (left right : HostType) :
    Except Fault (Option HostType) :=
  match operator with
  | .add =>
    match left.asText?, right.asText? with
    | some a, some b => .ok (some (.text (a ++ b)))
    | some _, Option.none =>
      .error (.wrongOperands ("can only concatenate str (not \"" ++ right.typeName ++ "\") to str"))
    | Option.none, _ =>
      if let .constant (.bytes _) := left then
        .error (.wrongOperands ("can't concat " ++ right.typeName ++ " to bytes"))
      else if left.isSequence then
        .error (.wrongOperands ("can only concatenate " ++ left.typeName ++ " (not \"" ++
          right.typeName ++ "\") to " ++ left.typeName))
      else .ok Option.none
  | .multiply =>
    let refused (type : HostType) : Except Fault (Option HostType) :=
      .error
        (.wrongOperands ("can't multiply sequence by non-int of type '" ++ type.typeName ++ "'"))
    if left.isSequence then
      match right.integer? with
      | some count => .ok (some (left.repeated count))
      | Option.none => refused right
    else if right.isSequence then
      match left.integer? with
      | some count => .ok (some (right.repeated count))
      | Option.none => refused left
    else .ok Option.none
  | _ => .ok Option.none

/-- An operator between two sets of flags of one class. -/
def flagOperation (model : Model) (operator : BinaryOperator) (left right : HostType) :
    Option HostType :=
  match left.flags?, right.flags? with
  | some (owner, a), some (other, b) =>
    if owner != other then Option.none
    else
      match operator with
      | .bitAnd => some (flagSet model owner (combineBits (· &&& ·) a b))
      | .bitOr => some (flagSet model owner (combineBits (· ||| ·) a b))
      | .bitXor => some (flagSet model owner (combineBits (· ^^^ ·) a b))
      | _ => Option.none
  | _, _ => Option.none

/-- An operator in front of a value. -/
def unaryOperation (model : Model) (operator : UnaryOperator) (type : HostType) :
    Except Fault HostType :=
  match operator, type.numeral?, type.flags? with
  | .negation, _, _ => .ok (ofBool (!type.isTrue))
  | .negative, some (.integer value), _ => .ok (ofInt (-value))
  | .positive, some (.integer value), _ => .ok (ofInt value)
  | .inverted, some (.integer value), _ => .ok (ofInt (-value - 1))
  | .negative, some (.floating value), _ => .ok (ofDouble value.negate)
  | .positive, some (.floating value), _ => .ok (ofDouble value)
  | .inverted, _, some (owner, value) =>
    let all := (model.members owner).foldl (fun all member =>
      match member.value with
      | .int bit => combineBits (· ||| ·) all bit
      | _ => all) 0
    .ok (flagSet model owner (all - combineBits (· &&& ·) all value))
  | operator, _, _ =>
    match operator, type with
    | .negative, .constant (.complex real imaginary) =>
      .ok (ofComplex (Complex.negate ⟨real, imaginary⟩))
    | .positive, .constant (.complex real imaginary) => .ok (ofComplex ⟨real, imaginary⟩)
    | operator, type =>
      .error (.wrongOperands
        ("bad operand type for unary " ++ operator.text ++ ": '" ++ type.typeName ++ "'"))

end HostType

end WireModel
