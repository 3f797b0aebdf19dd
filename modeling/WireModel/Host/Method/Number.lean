import WireModel.Host.Method.Encoding
import WireModel.Host.Operation.Binary
import WireModel.Number.Hash

/-!
Methods of numbers: operators that may leave the decision to the other value, rounding, and what a
number is made of.
-/

namespace WireModel

open Text

namespace HostType

/-- The operator of a method between two values; the method may have them in turn. -/
def operatorOf? (name : String) : Option (Bool × BinaryOperator) :=
  let known : List (String × BinaryOperator) := [
    ("add", .add), ("sub", .subtract), ("mul", .multiply), ("truediv", .divide),
    ("floordiv", .floorDivide), ("mod", .remainder), ("pow", .power), ("lshift", .leftShift),
    ("rshift", .rightShift), ("and", .bitAnd), ("or", .bitOr), ("xor", .bitXor),
    ("matmul", .matrixMultiply)]
  known.findSome? fun (word, operator) =>
    if name = "__" ++ word ++ "__" then some (false, operator)
    else if name = "__r" ++ word ++ "__" then some (true, operator)
    else Option.none

/-- The value is one that a number of a class works with. -/
def isOperandOf (owner : String) (other : HostType) : Bool :=
  match owner, other.numeral?, other with
  | "int", some (.integer _), _ | "bool", some (.integer _), _ => true
  | "float", some _, _ | "complex", some _, _ => true
  | "complex", _, .constant (.complex ..) => true
  | _, _, _ => false

/-- A number as a floating-point number. -/
def inDouble (type : HostType) : Except Fault HostType :=
  match type.numeral? with
  | some value => do return ofDouble (← value.toDouble)
  | Option.none => .ok type

/-- An operator between numbers of a class. A number of a wider class is not looked at. -/
def numberOperation (owner : String) (operator : BinaryOperator)
    (left right : HostType) : Building HostType := do
  if left.isOperandOf owner && right.isOperandOf owner then
    let left ← if owner = "float" then left.inDouble else pure left
    match ← numericOperation operator left right with
    | some value => return value
    | Option.none => return undecided
  else return undecided

/-- A power modulo a number that is not zero, whose sign the result has. -/
def powerModulo (base exponent modulus : Int) : Except Fault Int :=
  let size := modulus.natAbs
  let reduce (value : Nat) : Int := Int.fmod (value : Int) modulus
  let start := (Int.emod base size).toNat
  if 0 ≤ exponent then .ok (reduce (steps size (exponent.toNat.log2 + 1) 1 start exponent.toNat))
  else
    match inverse? size start with
    | some start => .ok (reduce (steps size (exponent.natAbs.log2 + 1) 1 start exponent.natAbs))
    | Option.none =>
      .error (.operation .wrongValue "base is not invertible for the given modulus")
where
  /-- Multiplies a result by the powers that the bits of the exponent ask for, the lowest first. -/
  steps (size : Nat) : Nat → Nat → Nat → Nat → Nat
    | 0, result, _, _ => result % size
    | fuel + 1, result, power, bits =>
      steps size fuel (if bits % 2 = 1 then result * power % size else result)
        (power * power % size) (bits / 2)
  /-- The number whose product with another one leaves one. -/
  inverse? (size value : Nat) : Option Nat :=
    if size = 1 then some 0
    else if Nat.gcd value size != 1 then Option.none
    else some (Int.emod (bezout (size.log2 * 2 + 4) value size 1 0) size).toNat
  /-- The factor of the first number in a sum of multiples that is the greatest common divisor. -/
  bezout : Nat → Int → Int → Int → Int → Int
    | 0, _, _, factor, _ => factor
    | fuel + 1, a, b, factor, next =>
      if b = 0 then factor else bezout fuel b (Int.emod a b) next (factor - Int.ediv a b * next)

/-- What an operator between two numbers gives as a method of the class of the first one. -/
def numberOperator? (owner : String) (value : HostType) (name : String)
    (given : Given) : Option (Building HostType) :=
  let other := (given.at? 0).getD .none
  let divided (left right : HostType) : Building HostType := do
    if !(left.isOperandOf owner && right.isOperandOf owner) then return undecided
    if owner = "float" then
      if let some value := right.numeral? then
        if (← value.toDouble).isZero then throw (.zeroDivision "float divmod()")
    let quotient ← numberOperation owner .floorDivide left right
    return .container .tuple [quotient, ← numberOperation owner .remainder left right]
  let modulo (left right modulus : HostType) : Building HostType := do
    match owner, left.integer?, right.integer?, modulus.integer? with
    | "int", some a, some b, some m =>
      if m = 0 then throw (.operation .wrongValue "pow() 3rd argument cannot be 0")
      return ofInt (← powerModulo a b m)
    | "int", _, _, _ => return undecided
    | "complex", _, _, _ => throw (.operation .wrongValue "complex modulo")
    | _, _, _, _ =>
      throw (.wrongOperands
        "pow() 3rd argument not allowed unless all arguments are integers")
  match name, operatorOf? name with
  | "__divmod__", _ => some (divided value other)
  | "__rdivmod__", _ => some (divided other value)
  | _, some (isTurned, operator) =>
    let (left, right) := if isTurned then (other, value) else (value, other)
    let owner :=
      if owner = "bool" && !(left.isTruthValue && right.isTruthValue) then "int" else owner
    some (match operator, given.at? 1 with
      | .power, some modulus =>
        if modulus.same .none then numberOperation owner operator left right
        else modulo left right modulus
      | _, _ => numberOperation owner operator left right)
  | _, Option.none => Option.none

/-- The number rounded to so many decimal places, a half to the even neighbour. -/
def roundedTo (value : Double) (places : Int) : Except Fault HostType :=
  match value.ratio? with
  | Option.none => .ok (ofDouble value)
  | some (n, d) =>
    if 323 < places then .ok (ofDouble value)
    else if places < -308 then .ok (ofDouble (.zero value.isNegative))
    else
      let power := Nat.pow 10 places.natAbs
      let result :=
        if 0 ≤ places then
          Double.ofRatio value.isNegative (Double.roundQuotient (n.natAbs * power) d) power
        else Double.ofRatio value.isNegative (Double.roundQuotient n.natAbs (d * power) * power) 1
      if result.isInfinite then
        .error (.operation .overflow "rounded value too large to represent")
      else .ok (ofDouble result)

/-- A floating-point number as an integer, by a way of rounding a fraction. -/
def roundedBy (round : Int → Nat → Int) (value : Double) : Except Fault HostType :=
  match value.ratio? with
  | some (n, d) => .ok (ofInt (round n d))
  | Option.none =>
    if value.isInfinite then
      .error (.operation .overflow "cannot convert float infinity to integer")
    else .error (.operation .wrongValue "cannot convert float NaN to integer")

/-- A fraction rounded to the nearest integer, a half to the even one. -/
def roundFraction (n : Int) (d : Nat) : Int :=
  let size : Int := Double.roundQuotient n.natAbs d
  if n < 0 then -size else size

/-- A number rounded to an integer, or to so many decimal places. -/
def rounded (value : HostType) (places : Option HostType) : Except Fault HostType :=
  match value.numeral?, places with
  | some (.integer value), Option.none => .ok (ofInt value)
  | some (.integer value), some places => do
    let places ← places.asInteger
    if 0 ≤ places then return ofInt value
    let power : Nat := Nat.pow 10 (min places.natAbs (value.natAbs.log2 + 2))
    return ofInt (roundFraction value power * power)
  | some (.floating value), Option.none | some (.floating value), some .none =>
    roundedBy roundFraction value
  | some (.floating value), some places => do roundedTo value (← places.asInteger)
  | Option.none, _ =>
    .error (.wrongOperands ("type " ++ value.typeName ++ " doesn't define __round__ method"))

/-- A floating-point number in digits of base 16, with a power of two. -/
def inHex (value : Double) : String :=
  let sign (isNegative : Bool) : String := if isNegative then "-" else ""
  match value with
  | .finite isNegative significand exponent =>
    let isNormal := Nat.pow 2 52 ≤ significand
    let digits := String.ofList (hexDigits 13 (significand % Nat.pow 2 52))
    let power := if significand = 0 then 0 else exponent + 52
    sign isNegative ++ "0x" ++ (if isNormal then "1." ++ digits
      else if significand = 0 then "0.0" else "0." ++ digits) ++ "p" ++
      (if power < 0 then "-" else "+") ++ toString power.natAbs
  | .infinite isNegative => sign isNegative ++ "inf"
  | .notANumber => "nan"

def asFraction (value : HostType) : Except Fault HostType :=
  let pair (n : Int) (d : Nat) : HostType := .container .tuple [ofInt n, ofInt d]
  match value.numeral? with
  | some (.integer value) => .ok (pair value 1)
  | some (.floating value) =>
    match value.lowestRatio? with
    | some (n, d) => .ok (pair n d)
    | Option.none =>
      if value.isInfinite then
        .error (.operation .overflow "cannot convert Infinity to integer ratio")
      else .error (.operation .wrongValue "cannot convert NaN to integer ratio")
  | Option.none => .error .missingArgument

def bitCount (value : Nat) : Nat :=
  ((Nat.toDigits 2 value).filter (· == '1')).length

/-- The order of the bytes of a number: the greatest one first or last. -/
def isBigFirst (name : String) (given : Option HostType) : Except Fault Bool :=
  match given with
  | Option.none => .ok true
  | some type =>
    match type.asText? with
    | some "big" => .ok true
    | some "little" => .ok false
    | some _ => .error (.operation .wrongValue "byteorder must be either 'little' or 'big'")
    | Option.none => .error (.wrongOperands (argumentMustBeText name "'byteorder' " type))

/-- An integer in so many bytes. -/
def toBytes (value : Int) (given : Given) : Except Fault HostType := do
  let length ← match given.at? 0 with
    | some type => type.asSize
    | Option.none => pure 1
  let bigFirst ← isBigFirst "to_bytes" (given.at? 1)
  let isSigned := ((given.at? 2).map isTrue).getD false
  if length < 0 then throw (.operation .wrongValue "length argument must be non-negative")
  if value < 0 && !isSigned then
    throw (.operation .overflow "can't convert negative int to unsigned")
  let bits := if isSigned then bitLength (if value < 0 then -value - 1 else value) + 1
    else bitLength value
  if length * 8 < bits && !(value = 0 && length = 0) then
    throw (.operation .overflow "int too big to convert")
  let count := length.toNat
  let whole := (Int.emod value (Nat.pow 256 count)).toNat
  let bytes := (List.range count).map fun place => whole / Nat.pow 256 place % 256
  return .constant (.bytes (if bigFirst then bytes.reverse else bytes))

def asBytes (model : Model) (type : HostType) : Except Fault (List Nat) :=
  match type with
  | .constant (.bytes content) => .ok content
  | type =>
    match type.asText?, type.items? model with
    | Option.none, some items =>
      items.mapM fun item => do
        let byte ← item.asInteger
        if byte < 0 || 256 ≤ byte then
          throw (.operation .wrongValue "bytes must be in range(0, 256)")
        return byte.toNat
    | _, _ =>
      .error (.wrongOperands ("cannot convert '" ++ type.typeName ++ "' object to bytes"))

/-- The integer that some bytes hold. -/
def fromBytes (model : Model) (given : Given) : Except Fault HostType := do
  let bigFirst ← isBigFirst "from_bytes" (given.at? 1)
  let isSigned := ((given.at? 2).map isTrue).getD false
  let bytes ← ((given.at? 0).getD .none).asBytes model
  let whole :=
    (if bigFirst then bytes else bytes.reverse).foldl (fun value byte => value * 256 + byte) 0
  let size := Nat.pow 256 bytes.length
  return ofInt (if isSigned && size ≤ whole * 2 then (whole : Int) - size else whole)

/-- What a method tells about an integer. -/
def integerMethod? (model : Model) (value : Int) (name : String) (given : Given) :
    Option (Except Fault HostType) :=
  match name with
  | "__int__" | "__index__" | "__ceil__" | "__floor__" | "__trunc__" | "conjugate" | "__pos__" =>
    some (.ok (ofInt value))
  | "__float__" => some do return ofDouble (← Numeral.doubleOf value)
  | "__neg__" => some (.ok (ofInt (-value)))
  | "__abs__" => some (.ok (ofInt value.natAbs))
  | "__invert__" => some (.ok (ofInt (-value - 1)))
  | "__hash__" => some (.ok (ofInt (Double.hashOfInt value)))
  | "bit_length" => some (.ok (ofInt (bitLength value)))
  | "bit_count" => some (.ok (ofInt (bitCount value.natAbs)))
  | "to_bytes" => some (toBytes value given)
  | "from_bytes" => some (fromBytes model given)
  | "__getnewargs__" => some (.ok (.container .tuple [ofInt value]))
  | _ => Option.none

/-- What a method tells about a floating-point number. -/
def doubleMethod? (value : Double) (name : String) (given : Given) :
    Option (Except Fault HostType) :=
  match name with
  | "__float__" | "conjugate" | "__pos__" => some (.ok (ofDouble value))
  | "__int__" | "__trunc__" => some (roundedBy (fun n d => Int.tdiv n d) value)
  | "__floor__" => some (roundedBy (fun n d => Int.fdiv n d) value)
  | "__ceil__" => some (roundedBy (fun n d => -(Int.fdiv (-n) d)) value)
  | "__neg__" => some (.ok (ofDouble value.negate))
  | "__abs__" => some (.ok (ofDouble (Complex.magnitude value)))
  | "__hash__" => some (.ok (ofInt value.hash))
  | "is_integer" => some (.ok (ofBool ((value.lowestRatio?).any fun (_, d) => d == 1)))
  | "hex" => some (.ok (.text (inHex value)))
  | "__getnewargs__" => some (.ok (.container .tuple [ofDouble value]))
  | "__getformat__" => some do
    match ← textAt given 0 (argumentMustBeText name "") with
    | "double" | "float" => return .text "IEEE, little-endian"
    | _ =>
      throw (.operation .wrongValue "__getformat__() argument 1 must be 'double' or 'float'")
  | _ => Option.none

/-- What a method tells about a complex number. -/
def complexMethod? (value : Complex) (name : String) : Option HostType :=
  match name with
  | "__complex__" | "__pos__" => some (ofComplex value)
  | "__neg__" => some (ofComplex value.negate)
  | "conjugate" => some (ofComplex value.conjugate)
  | "__abs__" => some (ofDouble value.size)
  | "__getnewargs__" => some (.container .tuple [ofDouble value.real, ofDouble value.imaginary])
  | "__bool__" => some (ofBool !value.isZero)
  | _ => Option.none

/-- What a method of a number gives, if the class has it. -/
def numberMethod? (model : Model) (owner : String) (value : HostType) (name : String)
    (given : Given) : Option (Building HostType) :=
  let simple : Option (Except Fault HostType) :=
    match name, value, value.numeral? with
    | "__bool__", _, some _ => some (.ok (ofBool value.isTrue))
    | "__round__", _, some _ => some (value.rounded (given.at? 0))
    | "as_integer_ratio", _, some _ => some value.asFraction
    | name, _, some (.integer value) => integerMethod? model value name given
    | name, _, some (.floating value) => doubleMethod? value name given
    | name, .constant (.complex real imaginary), Option.none =>
      (complexMethod? ⟨real, imaginary⟩ name).map .ok
    | _, _, Option.none => Option.none
  match simple with
  | some result =>
    let lifted : Building HostType := result
    some lifted
  | Option.none => numberOperator? owner value name given

end HostType

end WireModel
