import WireModel.Host.Format.Value
import WireModel.Host.Operation.Items

/-!
Texts with marks behind a percent sign that are filled in with values: each mark takes the next
value, or the one of a key, and says how to write it.
-/

namespace WireModel

open Text

/-- What a text is filled in for. -/
structure FillSetting where
  model : Model
  /-- The text stands for bytes. -/
  isBytes : Bool
  /-- The size of the whole text. -/
  size : Nat

/-- The values that the marks of a text are filled in with. -/
structure FillValues where
  /-- The values that are left, in order. -/
  left : List HostType
  /-- What keys are looked up in. -/
  map : Option HostType

/-- A mark behind a percent sign. -/
structure FillMark where
  flags : List Char
  width : Nat
  /-- The width was below zero. -/
  isTurned : Bool
  precision : Option Nat
  form : Char
  /-- The place of the form in the text. -/
  place : Nat

/-- A step of filling in a text, which may take values. -/
abbrev Filling := StateT FillValues (ExceptT Fault (StateM Memory))

namespace Filling

/-- A complaint about a value or about a text. -/
def refused {α : Type} (kind : FaultKind) (text : String) : Filling α :=
  throw (.operation kind text)

def takeValue : Filling HostType := do
  let values ← get
  match values.left with
  | value :: left =>
    set { values with left := left }
    return value
  | [] => refused .wrongType "not enough arguments for format string"

/-- The next value, as a number. -/
def takeInteger : Filling Int := do
  match ← takeValue with
  | .constant (.int value) => return value
  | .constant (.bool value) => return if value then 1 else 0
  | _ => refused .wrongType "* wants int"

/-- A key in parentheses, in which others may stand, and what is behind it. -/
def takeKey (depth : Nat) : List Char → Option (List Char × List Char)
  | [] => none
  | c :: rest =>
    let goOn (depth : Nat) := (takeKey depth rest).map fun (key, rest) => (c :: key, rest)
    match c, depth with
    | ')', 0 => some ([], rest)
    | ')', depth + 1 => goOn depth
    | '(', depth => goOn (depth + 1)
    | _, depth => goOn depth

/-- What is behind the key of a mark, whose value is then the only one that is left. -/
def readKey (setting : FillSetting) (text : List Char) : Filling (List Char) := do
  match text with
  | '(' :: rest =>
    let some map := (← get).map | refused .wrongType "format requires a mapping"
    let some (key, rest) := takeKey 0 rest | refused .wrongValue "incomplete format key"
    let key := String.ofList key
    let value ← map.indexed setting.model
      (if setting.isBytes then .constant (.bytes (codes key)) else .text key)
    set (FillValues.mk [value] (some map))
    return rest
  | text => return text

def readNumber (bound : Nat) (complaint : String) (text : List Char) :
    Filling (Nat × List Char) := do
  let digits := text.takeWhile isPlainDigit
  let value := natOfDigits digits
  if bound < value then refused .wrongValue complaint
  return (value, text.drop digits.length)

def readWidth (text : List Char) : Filling (Nat × Bool × List Char) := do
  match text with
  | '*' :: rest =>
    let width ← takeInteger
    return (width.natAbs, width < 0, rest)
  | text =>
    let (width, rest) ← readNumber (Nat.pow 2 63 - 1) "width too big" text
    return (width, false, rest)

def readPrecision (setting : FillSetting) (text : List Char) :
    Filling (Option Nat × List Char) := do
  match text with
  | '.' :: '*' :: rest => return (some (← takeInteger).toNat, rest)
  | '.' :: rest =>
    let (precision, rest) ← readNumber (Nat.pow 2 31 - 1)
      (if setting.isBytes then "prec too big" else "precision too big") rest
    return (some precision, rest)
  | text => return (none, text)

def readMark (setting : FillSetting) (text : List Char) : Filling (FillMark × List Char) := do
  let text ← readKey setting text
  let flags := text.takeWhile ['-', '+', ' ', '#', '0'].contains
  let (width, isTurned, text) ← readWidth (text.drop flags.length)
  let (precision, text) ← readPrecision setting text
  let text := match text with
    | c :: rest => if c ∈ ['h', 'l', 'L'] then rest else c :: rest
    | [] => []
  match text with
  | form :: rest =>
    return (⟨flags, width, isTurned, precision, form, setting.size - text.length⟩, rest)
  | [] => refused .wrongValue "incomplete format"

/-- The parts of a value in their place in the field of a mark. -/
def placed (mark : FillMark) (isNumber : Bool) (sign base body : String) : String :=
  let free := mark.width - (sign.length + base.length + (letters body).length)
  let filling (c : Char) : String := String.ofList (List.replicate free c)
  if mark.isTurned || mark.flags.contains '-' then sign ++ base ++ body ++ filling ' '
  else if isNumber && mark.flags.contains '0' then sign ++ base ++ filling '0' ++ body
  else filling ' ' ++ sign ++ base ++ body

/-- A number in its place, whose sign is told by itself. -/
def placedNumber (mark : FillMark) (isNegative : Bool) (base body : String) : String :=
  let sign :=
    if isNegative then "-" else if mark.flags.contains '+' then "+"
    else if mark.flags.contains ' ' then " " else ""
  placed mark true sign base body

/-- A text in its place, of which no more than the precision is written. -/
def placedText (mark : FillMark) (text : String) : String :=
  let letters := letters text
  placed mark false "" "" (String.join (letters.take (mark.precision.getD letters.length)))

/-- The value as an integer, if a mark takes it as such. -/
def integerFor (mark : FillMark) (value : HostType) : Filling Int := do
  let isExact : Bool := mark.form ∈ ['x', 'X', 'o']
  let wrongType : Filling Int :=
    refused .wrongType ("%" ++ String.singleton mark.form ++ " format: " ++
      (if isExact then "an integer" else "a real number") ++ " is required, not " ++ value.typeName)
  match value.numeral? with
  | some (.integer value) => return value
  | some (.floating number) =>
    if isExact then wrongType
    else
      match number.truncate? with
      | some value => return value
      | none =>
        if number.isInfinite then refused .overflow "cannot convert float infinity to integer"
        else refused .wrongValue "cannot convert float NaN to integer"
  | none => wrongType

def writeInteger (mark : FillMark) (value : HostType) : Filling String := do
  let value ← integerFor mark value
  let (base, baseMark) := match mark.form with
    | 'x' => (16, "0x")
    | 'X' => (16, "0X")
    | 'o' => (8, "0o")
    | _ => (10, "")
  let digits := Nat.toDigits base value.natAbs
  let digits := if mark.form = 'X' then digits.map Char.toUpper else digits
  let zeros := List.replicate (mark.precision.getD 0 - digits.length) '0'
  return placedNumber mark (value < 0) (if mark.flags.contains '#' then baseMark else "")
    (String.ofList (zeros ++ digits))

/-- A floating-point number in the form of a mark. -/
def writeDouble (setting : FillSetting) (mark : FillMark) (value : HostType) : Filling String := do
  let some number := value.numeral? |
    refused .wrongType ((if setting.isBytes then "float argument required, not "
      else "must be real number, not ") ++ value.typeName)
  let number ← number.toDouble
  let style := FieldSpec.styleOf (some mark.form) (some (mark.precision.getD 6))
  let text := number.styled style false (mark.flags.contains '#') false
  let text := if mark.form.isUpper then text.map Char.toUpper else text
  match text with
  | '-' :: rest => return placedNumber mark true "" (String.ofList rest)
  | text => return placedNumber mark false "" (String.ofList text)

def writeCharacter (mark : FillMark) (value : HostType) : Filling String := do
  match value.asText?, value.integer? with
  | some content, _ =>
    if (letters content).length != 1 then refused .wrongType "%c requires int or char"
    return placed mark false "" "" content
  | none, some code =>
    if code < 0 || 0x110000 ≤ code then refused .overflow "%c arg not in range(0x110000)"
    return placed mark false "" "" (ofCodes [code.toNat])
  | none, none => refused .wrongType "%c requires int or char"

def writeByte (mark : FillMark) (value : HostType) : Filling String := do
  match value, value.integer? with
  | .constant (.bytes [byte]), _ => return placed mark false "" "" (ofCodes [byte])
  | _, some byte =>
    if byte < 0 || 256 ≤ byte then refused .overflow "%c arg not in range(256)"
    return placed mark false "" "" (ofCodes [byte.toNat])
  | _, none => refused .wrongType "%c requires an integer in range(256) or a single byte"

def writeBytes (mark : FillMark) (value : HostType) : Filling String := do
  match value with
  | .constant (.bytes content) => return placedText mark (ofCodes content)
  | value =>
    refused .wrongType
      ("%b requires a bytes-like object, or an object that implements __bytes__, not '"
      ++ value.typeName ++ "'")

/-- The next value in the form of a mark. -/
def writeMark (setting : FillSetting) (mark : FillMark) : Filling String := do
  if mark.form = '%' then return "%"
  let value ← takeValue
  match mark.form, setting.isBytes with
  | 's', true | 'b', true => writeBytes mark value
  | 's', false => return placedText mark value.written
  | 'r', false => return placedText mark value.shown
  | 'r', true | 'a', _ => return placedText mark (HostType.inAscii value.shown)
  | 'd', _ | 'i', _ | 'u', _ | 'o', _ | 'x', _ | 'X', _ => writeInteger mark value
  | 'e', _ | 'E', _ | 'f', _ | 'F', _ | 'g', _ | 'G', _ => writeDouble setting mark value
  | 'c', true => writeByte mark value
  | 'c', false => writeCharacter mark value
  | form, _ =>
    let shown := if 31 < form.toNat && form.toNat < 128 then form else '?'
    refused .wrongValue ("unsupported format character '" ++ String.singleton shown ++ "' (0x" ++
      String.ofList (Nat.toDigits 16 form.toNat) ++ ") at index " ++ toString mark.place)

/-- A text with its marks filled in. Each mark makes the text shorter. -/
def fill (setting : FillSetting) : Nat → List Char → Filling String
  | 0, _ | _, [] => return ""
  | fuel + 1, '%' :: rest => do
    let (mark, rest) ← readMark setting rest
    let text ← writeMark setting mark
    return text ++ (← fill setting fuel rest)
  | fuel + 1, c :: rest => do
    return String.singleton c ++ (← fill setting fuel rest)

end Filling

namespace HostType

/-- Brackets behind the value look something up. -/
def isLookedUp : HostType → Bool
  | .container kind _ => kind = .map || kind = .proxy || kind = .list
  | .applied .. | .union .. | .annotated .. => true
  | .builtin type =>
    match type with
    | .listForm | .mapForm | .optionalForm | .unionForm | .classVarForm => true
    | _ => false
  | .declared ref =>
    match ref.category with
    | .enumeration _ => true
    | _ => false
  | .record .range _ => true
  | .constant (.bytes _) => true
  | _ => false

/-- A text, perhaps one that stands for bytes, whose marks are filled in with values: the items of a
tuple, or one value. All of them must be used, unless keys could be looked up in them. -/
def filledIn (model : Model) (isBytes : Bool) (content : String) (values : HostType) :
    Building String := do
  let isMap : Bool :=
    match values with
    | .constant (.bytes _) => !isBytes
    | value => value.isLookedUp
  let source : FillValues :=
    match values with
    | .container .tuple items => ⟨items, Option.none⟩
    | value => ⟨[value], if isMap then some value else Option.none⟩
  let text := content.toList
  let setting : FillSetting := ⟨model, isBytes, text.length⟩
  let (result, rest) ← (Filling.fill setting (text.length + 1) text).run source
  if !rest.left.isEmpty && rest.map.isNone then
    throw (.wrongOperands ("not all arguments converted during " ++
      (if isBytes then "bytes" else "string") ++ " formatting"))
  return result

end HostType

end WireModel
