import WireModel.Host.Method.Text

/-!
Methods of bytes. Most of them are those of texts, for a text whose characters are the bytes; bytes
of more than seven bits have no case and are neither letters nor digits there.
-/

namespace WireModel

open Text

namespace HostType

/-- The character that stands for a byte of more than seven bits comes so far behind it. -/
def byteShift : Nat := 0xe000

def textOfBytes (bytes : List Nat) : String :=
  ofCodes (bytes.map fun byte => if byte < 0x80 then byte else byteShift + byte)

def bytesOfText (content : String) : List Nat :=
  (codes content).map fun code => if code < 0x80 then code else code - byteShift

/-- The methods that take a byte by its number, too. -/
def byteSearches : List String :=
  ["count", "find", "index", "rfind", "rindex"]

def toText (name : String) (value : HostType) : Except Fault HostType :=
  let refused (type : HostType) : Except Fault HostType :=
    .error (.wrongOperands ("a bytes-like object is required, not '" ++ type.typeName ++ "'"))
  let item (value : HostType) : Except Fault HostType :=
    match value with
    | .constant (.bytes content) => .ok (.text (textOfBytes content))
    | value => refused value
  match value, value.asText?, value.integer? with
  | .constant (.bytes content), _, _ => .ok (.text (textOfBytes content))
  | .container kind items, _, _ => do return .container kind (← items.mapM item)
  | value, some _, _ => refused value
  | value, Option.none, some byte =>
    if name ∈ byteSearches then
      if byte < 0 || 256 ≤ byte then .error (.operation .wrongValue "byte must be in range(0, 256)")
      else .ok (.text (textOfBytes [byte.toNat]))
    else .ok value
  | value, Option.none, Option.none => .ok value

/-- What a method of texts gives, as a method of bytes gives it. -/
def toBytesAgain (value : HostType) : HostType :=
  match value with
  | .text content => .constant (.bytes (bytesOfText content))
  | .container kind items =>
    .container kind (items.map fun
      | .text content => .constant (.bytes (bytesOfText content))
      | item => item)
  | value => value

def textOnlyMethods : List String := [
  "casefold", "encode", "format", "format_map", "isdecimal", "isidentifier", "isnumeric",
  "isprintable", "__format__", "__str__", "__mod__", "__rmod__", "__getnewargs__"]

def bytesMethod? (model : Model) (content : List Nat) (name : String) (given : Given) :
    Option (Building HostType) :=
  let value : HostType := .constant (.bytes content)
  match name, given.at? 0 with
  | "decode", _ => some do
    let encoding ← match given.at? 0 with
      | some _ => textAt given 0 (argumentMustBeText name "'encoding' ")
      | Option.none => pure "utf-8"
    let errors ← match given.at? 1 with
      | some _ => textAt given 1 (argumentMustBeText name "'errors' ")
      | Option.none => pure "strict"
    return .text (← decoded encoding errors content)
  | "hex", _ => some do return .text (String.ofList (content.flatMap (hexDigits 2)))
  | "__bytes__", _ => some do return value
  | "__len__", _ => some do return ofInt content.length
  | "__iter__", _ =>
    some do
      return .container (.stream "bytes_iterator") (content.map fun (byte : Nat) => ofInt byte)
  | "__getnewargs__", _ => some do return .container .tuple [value]
  | "__contains__", some item => some do return ofBool (← item.isContained model value)
  | "__getitem__", some key => some (itemAtKey model value key)
  | "__add__", some other => some (binaryOperation model .add value other)
  | "__mod__", some other => some (binaryOperation model .remainder value other)
  | "__rmod__", some (.constant (.bytes template)) =>
    some (binaryOperation model .remainder (.constant (.bytes template)) value)
  | "__rmod__", _ => some do return undecided
  | "__mul__", some count | "__rmul__", some count =>
    some do return value.repeated (← count.asCount)
  | name, _ =>
    if name ∈ textOnlyMethods then Option.none
    else
      (textMethod? model (textOfBytes content) name [] []).map fun _ => do
        let texts ← given.zipIdx.mapM fun (value, place) =>
          match value with
          | some value => do
            return some (← toText (if place = 0 then name else "") value)
          | Option.none => (return Option.none : Except Fault (Option HostType))
        match textMethod? model (textOfBytes content) name texts [] with
        | some answer => return (← answer).toBytesAgain
        | Option.none => return undecided

end HostType

end WireModel
