import WireModel.Host.Method.Encoding
import WireModel.Number.Decimal
import WireModel.Text.Digit

/-!
Calls of primitive classes: numbers are read from texts and from each other, and texts are written
of values or read from bytes.
-/

namespace WireModel

open Text

namespace Primitive

/-- How a primitive class takes the values that an instance is made of, some of them by name
perhaps. The digits of an integer have no name. -/
def arity (hasNames : Bool) : Primitive → Arity
  | .str => .named 0 [] ["object", "encoding", "errors"]
  | .bool | .float => .places 0 (some 1) none
  | _ => if hasNames then .named 0 [] ["", "base"] else .places 0 (some 2) none

end Primitive

namespace HostType

/-- The digits of an integer to a base that is marked in front of them. -/
def inBase (mark : String) (base : Nat) (value : Int) : String :=
  (if value < 0 then "-" else "") ++ mark ++ String.ofList (Nat.toDigits base value.natAbs)

/-- A complaint about the number of arguments. -/
def wrongCount (text : String) : Except Fault HostType :=
  .error (.wrongOperands text)

def numberText? : HostType → Option String
  | .constant (.bytes content) => some (ofCodes content)
  | type => type.asText?

def readInteger (type : HostType) : Except Fault HostType :=
  match type.numeral?, type.numberText? with
  | some (.integer value), _ => .ok (ofInt value)
  | some (.floating value), _ =>
    match value.truncate? with
    | some value => .ok (ofInt value)
    | Option.none =>
      if value.isInfinite then
        .error (.operation .overflow "cannot convert float infinity to integer")
      else .error (.operation .wrongValue "cannot convert float NaN to integer")
  | Option.none, some content =>
    match readInteger? content with
    | some value => .ok (ofInt value)
    | Option.none =>
      .error (.operation .wrongValue
        ("invalid literal for int() with base 10: " ++ type.shown))
  | _, _ =>
    .error
      (.wrongOperands
      ("int() argument must be a string, a bytes-like object or a real number, not " ++
      quoted type.typeName))

def readIntegerTo (type base : HostType) : Except Fault HostType := do
  let base ← base.asInteger
  if base < 0 || base = 1 || 36 < base then
    throw (.operation .wrongValue "int() base must be >= 2 and <= 36, or 0")
  match type.numberText? with
  | some content =>
    match readIntegerInBase? base.toNat content with
    | some value => return ofInt value
    | Option.none =>
      throw (.operation .wrongValue
        ("invalid literal for int() with base " ++ toString base ++ ": " ++ type.shown))
  | Option.none => throw (.wrongOperands "int() can't convert non-string with explicit base")

/-- The floating-point number that a value is read as. -/
def readDouble (type : HostType) : Except Fault HostType :=
  match type.numeral?, type.numberText? with
  | some value, _ => do return ofDouble (← value.toDouble)
  | Option.none, some content =>
    match Double.read? content with
    | some value => .ok (ofDouble value)
    | Option.none =>
      .error (.operation .wrongValue ("could not convert string to float: " ++ type.shown))
  | _, _ =>
    .error (.wrongOperands
      ("float() argument must be a string or a real number, not " ++ quoted type.typeName))

def decodeText (value encoding : HostType) (errors : Option HostType) : Except Fault HostType := do
  let given : Given := [some encoding, errors]
  let encoding ← textAt given 0 (argumentMustBeText "str" "'encoding' ")
  let errors ← match errors with
    | some _ => textAt given 1 (argumentMustBeText "str" "'errors' ")
    | Option.none => pure "strict"
  match value, value.asText? with
  | .constant (.bytes content), _ => return .text (← decoded encoding errors content)
  | _, some _ => throw (.wrongOperands "decoding str is not supported")
  | value, Option.none =>
    throw (.wrongOperands
      ("decoding to str: need a bytes-like object, " ++ value.typeName ++ " found"))

/-- An instance of a primitive class. -/
def ofPrimitive (type : Primitive) (arguments : CallArguments) : Except Fault HostType := do
  if type.isMarker then
    match ← Arity.one.bind "_typing._idfunc" arguments with
    | [value] => return value
    | _ => throw .missingArgument
  else
    match type, ← (type.arity !arguments.named.isEmpty).bind type.name arguments with
    | .bool, [] => return ofBool false
    | .bool, value :: _ => return ofBool value.isTrue
    | .float, [] => return ofDouble (.zero false)
    | .float, value :: _ => value.readDouble
    | .str, [] => return .text ""
    | .str, [value] => return .text value.written
    | .str, value :: encoding :: errors => decodeText value encoding errors.head?
    | _, [] => return ofInt 0
    | _, [value] =>
      if arguments.places.isEmpty then throw (.wrongOperands "int() missing string argument")
      value.readInteger
    | _, value :: base :: _ => value.readIntegerTo base

end HostType

end WireModel
