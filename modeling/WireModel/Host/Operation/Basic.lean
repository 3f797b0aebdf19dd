import WireModel.Host.Attribute
import WireModel.Number.Complex

/-!
Operators of expressions: their texts, the complaints about their operands, and what values count as
for them.
-/

namespace WireModel

open Text

/-- A number that a value counts as. -/
inductive Numeral where
  | integer (value : Int)
  | floating (value : Double)

def BinaryOperator.text : BinaryOperator → String
  | .add => "+"
  | .subtract => "-"
  | .multiply => "*"
  | .matrixMultiply => "@"
  | .divide => "/"
  | .floorDivide => "//"
  | .remainder => "%"
  | .power => "** or pow()"
  | .leftShift => "<<"
  | .rightShift => ">>"
  | .bitAnd => "&"
  | .bitOr => "|"
  | .bitXor => "^"

def UnaryOperator.text : UnaryOperator → String
  | .negative => "-"
  | .positive => "+"
  | .inverted => "~"
  | .negation => "not"

/-- The text of an ordering in messages. -/
def Comparison.text : Comparison → String
  | .less => "<"
  | .lessEqual => "<="
  | .greater => ">"
  | .greaterEqual => ">="
  | .equal => "=="
  | .notEqual => "!="
  | .identical => "is"
  | .notIdentical => "is not"
  | .contained => "in"
  | .notContained => "not in"

namespace Fault

def wrongOperands (text : String) : Fault :=
  .operation .wrongType text

def unsupportedOperands (operator : String) (left right : HostType) : Fault :=
  wrongOperands ("unsupported operand type(s) for " ++ operator ++ ": '" ++ left.typeName ++
    "' and '" ++ right.typeName ++ "'")

/-- A value that gives no items. -/
def notWalkable (value : HostType) : Fault :=
  wrongOperands ("'" ++ value.typeName ++ "' object is not iterable")

def zeroDivision (text : String) : Fault :=
  .operation .divisionByZero text

end Fault

/-- The double that an integer is rounded to. -/
def Numeral.doubleOf (value : Int) : Except Fault Double :=
  match Double.ofInt value with
  | .infinite _ => .error (.operation .overflow "int too large to convert to float")
  | value => .ok value

/-- The double that a number is rounded to. -/
def Numeral.toDouble : Numeral → Except Fault Double
  | .integer value => Numeral.doubleOf value
  | .floating value => .ok value

namespace HostType

def ofBool (value : Bool) : HostType :=
  .constant (.bool value)

def ofInt (value : Int) : HostType :=
  .constant (.int value)

/-- A floating-point number. -/
def ofDouble (value : Double) : HostType :=
  .constant (.float value)

def ofComplex (value : Complex) : HostType :=
  .constant (.complex value.real value.imaginary)

/-- The number that a value counts as. -/
def numeral? : HostType → Option Numeral
  | .constant value =>
    match value.content? with
    | some (.bool value) => some (.integer (if value then 1 else 0))
    | some (.int value) => some (.integer value)
    | some (.float value) => some (.floating value)
    | _ => Option.none
  | _ => Option.none

def integer? (type : HostType) : Option Int :=
  match type.numeral? with
  | some (.integer value) => some value
  | _ => Option.none

/-- The complex number that a value counts as. -/
def complex? (type : HostType) : Except Fault (Option Complex) :=
  match type, type.numeral? with
  | .constant (.complex real imaginary), _ => .ok (some ⟨real, imaginary⟩)
  | _, some value => do return some (.ofDouble (← value.toDouble))
  | _, Option.none => .ok Option.none

def isTruthValue : HostType → Bool
  | .constant (.bool _) => true
  | _ => false

/-- The value counts as true. -/
def isTrue : HostType → Bool
  | .none => false
  | .text content => !content.isEmpty
  | .container (.stream _) _ => true
  | .container _ items => !items.isEmpty
  | .constant value =>
    match value, value.content? with
    | .member owner _ (.int content), Option.none =>
      match owner.category with
      | .enumeration .flags => content != 0
      | _ => true
    | .bytes content, _ => !content.isEmpty
    | .complex real imaginary, _ => !real.isZero || !imaginary.isZero
    | _, some (.bool content) => content
    | _, some (.int content) => content != 0
    | _, some (.float content) => !content.isZero
    | _, some (.string content) => !content.isEmpty
    | _, _ => true
  | _ => true

def keyOf : HostType → HostType
  | .container _ (key :: _) => key
  | item => item

def withValue (pair value : HostType) : HostType :=
  match pair with
  | .container kind [key, _] => .container kind [key, value]
  | pair => pair

def valueOf : HostType → HostType
  | .container _ [_, value] => value
  | item => item

/-- Binds a key in the pairs of a map: a known key keeps its place and takes the new value. -/
def bindPair (pairs : List HostType) (pair : HostType) : List HostType :=
  if pairs.any fun old => (keyOf old).same (keyOf pair) then
    pairs.map fun old =>
      if (keyOf old).same (keyOf pair) then old.withValue pair.valueOf else old
  else pairs ++ [pair]

end HostType

end WireModel
