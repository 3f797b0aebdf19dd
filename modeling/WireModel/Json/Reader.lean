import WireModel.Json.Basic
import WireModel.Number.Decimal
import WireModel.Text.Surrogate

/-!
Reading JSON text. Beside the standard grammar the words `NaN`, `Infinity` and `-Infinity` are
numbers; of equal keys the first keeps its place and the last gives the value.
-/

namespace WireModel

open Text

namespace Json

/-- Why a text is refused. -/
inductive ReadError where
  | malformed
  | integerTooLong
  /-- Too many arrays and objects inside one another. -/
  | tooDeep
  deriving DecidableEq, Repr

/-! A reader of one thing gives it and the text that is left. -/

namespace Reader

def isSpace (c : Char) : Bool :=
  c == ' ' || c == '\t' || c == '\n' || c == '\r'

/-- A text without the blanks at its front. -/
def skip (text : List Char) : List Char :=
  text.dropWhile isSpace

/-- The value of a digit of base 16. -/
def hexValue? (c : Char) : Option Nat :=
  if '0' ≤ c && c ≤ '9' then some (c.toNat - 48)
  else if 'a' ≤ c && c ≤ 'f' then some (c.toNat - 87)
  else if 'A' ≤ c && c ≤ 'F' then some (c.toNat - 55)
  else none

/-- Reads the four digits of an escaped code unit. -/
def readUnit? : List Char → Option (Nat × List Char)
  | a :: b :: c :: d :: rest => do
    let a ← hexValue? a
    let b ← hexValue? b
    let c ← hexValue? c
    let d ← hexValue? d
    some (((a * 16 + b) * 16 + c) * 16 + d, rest)
  | _ => none

/-- The low half of a pair of code units, if it follows. -/
def lowHalf? : List Char → Option (Nat × List Char)
  | '\\' :: 'u' :: rest =>
    match readUnit? rest with
    | some (unit, rest) => if 0xDC00 ≤ unit && unit ≤ 0xDFFF then some (unit, rest) else none
    | none => none
  | _ => none

/-- Reads what stands behind a backslash: one code point. -/
def readEscape? : List Char → Option (List Char × List Char)
  | 'u' :: rest =>
    match readUnit? rest with
    | none => none
    | some (unit, rest) =>
      if 0xD800 ≤ unit && unit ≤ 0xDBFF then
        match lowHalf? rest with
        | some (low, rest) =>
          some (ofCode (0x10000 + (unit - 0xD800) * 0x400 + (low - 0xDC00)), rest)
        | none => some (ofCode unit, rest)
      else
        some (ofCode unit, rest)
  | 'b' :: rest => some (['\x08'], rest)
  | 'f' :: rest => some (['\x0c'], rest)
  | 'n' :: rest => some (['\n'], rest)
  | 'r' :: rest => some (['\r'], rest)
  | 't' :: rest => some (['\t'], rest)
  | c :: rest => if c == '"' || c == '\\' || c == '/' then some ([c], rest) else none
  | [] => none

/-- Reads a string up to its closing quote; each character takes one unit of fuel. -/
def readString : Nat → List Char → List Char → Except ReadError (String × List Char)
  | 0, _, _ => .error .malformed
  | fuel + 1, reversed, text =>
    match text with
    | [] => .error .malformed
    | '"' :: rest => .ok (String.ofList reversed.reverse, rest)
    | '\\' :: rest =>
      match readEscape? rest with
      | some (point, rest) => readString fuel (point.reverse ++ reversed) rest
      | none => .error .malformed
    | c :: rest =>
      if c.toNat < 0x20 then .error .malformed else readString fuel (c :: reversed) rest

/-- The digits of a fraction and the text behind them, if a point and a digit stand in front. -/
def takeFraction : List Char → List Char × List Char
  | '.' :: c :: rest =>
    if isPlainDigit c then
      (c :: rest.takeWhile isPlainDigit, rest.dropWhile isPlainDigit)
    else
      ([], '.' :: c :: rest)
  | text => ([], text)

/-- The power of ten and the text behind it, if one stands in front. -/
def takePower? : List Char → Option (Int × List Char)
  | c :: rest =>
    if c == 'e' || c == 'E' then
      let (negative, rest) := splitSign rest
      let digits := rest.takeWhile isPlainDigit
      if digits.isEmpty then none
      else
        let power : Int := natOfDigits digits
        some (if negative then -power else power, rest.dropWhile isPlainDigit)
    else
      none
  | [] => none

/-- Reads a number: without fraction and power it is an integer. -/
def readNumber (negative : Bool) (text : List Char) : Except ReadError (Json × List Char) :=
  let whole :=
    match text with
    | '0' :: _ => ['0']
    | _ => text.takeWhile isPlainDigit
  if whole.isEmpty then .error .malformed
  else
    let (fraction, rest) := takeFraction (text.drop whole.length)
    match takePower? rest with
    | some (power, rest) =>
      .ok (.float (Decimal.toDouble ⟨negative, whole ++ fraction, power - fraction.length⟩), rest)
    | none =>
      if !fraction.isEmpty then
        .ok
          (.float (Decimal.toDouble ⟨negative, whole ++ fraction, -(fraction.length : Int)⟩), rest)
      else if whole.length > maxIntegerDigits then .error .integerTooLong
      else
        let value : Int := natOfDigits whole
        .ok (.int (if negative then -value else value), rest)

def readScalar (text : List Char) : Except ReadError (Json × List Char) :=
  match text with
  | 'n' :: 'u' :: 'l' :: 'l' :: rest => .ok (.null, rest)
  | 't' :: 'r' :: 'u' :: 'e' :: rest => .ok (.bool true, rest)
  | 'f' :: 'a' :: 'l' :: 's' :: 'e' :: rest => .ok (.bool false, rest)
  | 'N' :: 'a' :: 'N' :: rest => .ok (.float .notANumber, rest)
  | 'I' :: 'n' :: 'f' :: 'i' :: 'n' :: 'i' :: 't' :: 'y' :: rest =>
    .ok (.float (.infinite false), rest)
  | '-' :: 'I' :: 'n' :: 'f' :: 'i' :: 'n' :: 'i' :: 't' :: 'y' :: rest =>
    .ok (.float (.infinite true), rest)
  | '-' :: rest => readNumber true rest
  | _ => readNumber false text

/-- How many arrays and objects may stand inside one another. -/
def maxNesting : Nat := 985

/-- The nesting that is left inside an array or an object. -/
def inside : Nat → Except ReadError Nat
  | 0 => .error .tooDeep
  | nesting + 1 => .ok nesting

mutual

/-- Reads a value that begins at once, in which so many arrays and objects may stand inside one
another. -/
def readValue : Nat → Nat → List Char → Except ReadError (Json × List Char)
  | 0, _, _ => .error .malformed
  | fuel + 1, nesting, text =>
    match text with
    | '"' :: rest => do
      let (value, rest) ← readString fuel [] rest
      return (.string value, rest)
    | '[' :: rest => do
      let nesting ← inside nesting
      match skip rest with
      | ']' :: rest => return (.array [], rest)
      | rest =>
        let (items, rest) ← readItems fuel nesting rest
        return (.array items, rest)
    | '{' :: rest => do
      let nesting ← inside nesting
      match skip rest with
      | '}' :: rest => return (.object [], rest)
      | rest =>
        let (entries, rest) ← readEntries fuel nesting [] rest
        return (.object entries, rest)
    | _ => readScalar text

/-- Reads the items of an array up to its closing bracket. -/
def readItems : Nat → Nat → List Char → Except ReadError (List Json × List Char)
  | 0, _, _ => .error .malformed
  | fuel + 1, nesting, text => do
    let (item, rest) ← readValue fuel nesting text
    match skip rest with
    | ']' :: rest => return ([item], rest)
    | ',' :: rest =>
      let (items, rest) ← readItems fuel nesting (skip rest)
      return (item :: items, rest)
    | _ => .error .malformed

/-- Reads the entries of an object up to its closing brace, after those already read. -/
def readEntries : Nat → Nat → List (String × Json) → List Char →
    Except ReadError (List (String × Json) × List Char)
  | 0, _, _, _ => .error .malformed
  | fuel + 1, nesting, entries, text =>
    match text with
    | '"' :: rest => do
      let (key, rest) ← readString fuel [] rest
      match skip rest with
      | ':' :: rest =>
        let (value, rest) ← readValue fuel nesting (skip rest)
        let entries := bindEntry entries key value
        match skip rest with
        | '}' :: rest => return (entries, rest)
        | ',' :: rest => readEntries fuel nesting entries (skip rest)
        | _ => .error .malformed
      | _ => .error .malformed
    | _ => .error .malformed

end

end Reader

/-- Reads a text that holds one value and blanks around it. -/
def read (text : String) : Except ReadError Json := do
  let characters := text.toList
  let (value, rest) ←
    Reader.readValue (2 * characters.length + 2) Reader.maxNesting (Reader.skip characters)
  if (Reader.skip rest).isEmpty then return value else .error .malformed

end Json

end WireModel
