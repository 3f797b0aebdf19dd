import WireModel.Host.Format.Spec
import WireModel.Number.Layout

/-!
Fields of texts and numbers: what a specification makes of a value of either kind.
-/

namespace WireModel

open Text

/-- The characters of a number by what they are: its sign, the mark of its base, the digits in
front, and what is behind them. -/
structure NumberParts where
  isNegative : Bool
  mark : String
  digits : List Char
  behind : String

namespace FieldSpec

/-- So many copies of what fills a field up. -/
def filling (spec : FieldSpec) (count : Nat) : String :=
  String.join (List.replicate count spec.fill)

def placed (spec : FieldSpec) (text : String) : String :=
  let free := (spec.width.getD 0) - (letters text).length
  match spec.alignment with
  | .left => text ++ spec.filling free
  | .middle => spec.filling (free / 2) ++ text ++ spec.filling (free - free / 2)
  | .right | .apart => spec.filling free ++ text

def checkText (spec : FieldSpec) : Except Fault Unit := do
  match spec.sign with
  | some ' ' => refused "Space not allowed in string format specifier"
  | some _ => refused "Sign not allowed in string format specifier"
  | none => pure ()
  if spec.dropsZeroSign then
    refused "Negative zero coercion (z) not allowed in string format specifier"
  if spec.isAlternate then refused "Alternate form (#) not allowed in string format specifier"
  if spec.alignment = .apart then refused "'=' alignment not allowed in string format specifier"

def ofText (spec : FieldSpec) (typeName text : String) : Except Fault String := do
  if spec.form != some 's' then spec.unknownForm typeName
  spec.checkText
  let letters := letters text
  return spec.placed (String.join (letters.take (spec.precision.getD letters.length)))

/-- Digits from the last to the first in groups, with zeros in front up to a width. -/
def groupsOf (size : Nat) (separator : Char) : Nat → Int → List Char → List Char
  | 0, _, digits => digits
  | fuel + 1, width, digits =>
    let count := min size (max (max (digits.length : Int) width) 1).toNat
    let group := digits.take count ++ List.replicate (count - digits.length) '0'
    let rest := digits.drop count
    let width := width - count
    if rest.isEmpty && width ≤ 0 then group
    else group ++ separator :: groupsOf size separator fuel (width - 1) rest

/-- How many digits a group has. -/
def groupSize (spec : FieldSpec) : Nat :=
  if (spec.form.map bitForms.contains).getD false then 4 else 3

/-- The digits of a number in their groups, with zeros in front up to a width. -/
def groupedDigits (spec : FieldSpec) (width : Int) (digits : List Char) : List Char :=
  let fuel := digits.length + width.toNat + 1
  match spec.grouping with
  | .none => List.replicate (width - digits.length).toNat '0' ++ digits
  | .commas => (groupsOf spec.groupSize ',' fuel width digits.reverse).reverse
  | .underscores => (groupsOf spec.groupSize '_' fuel width digits.reverse).reverse

def signText (spec : FieldSpec) (isNegative : Bool) : String :=
  if isNegative then "-"
  else
    match spec.sign with
    | some '+' => "+"
    | some ' ' => " "
    | _ => ""

/-- A number in its place in the field. -/
def ofParts (spec : FieldSpec) (parts : NumberParts) : String :=
  let sign := spec.signText parts.isNegative
  let around := sign.length + parts.mark.length + (letters parts.behind).length
  let least : Int :=
    if spec.fill = "0" && spec.alignment = .apart then (spec.width.getD 0 : Int) - around else 0
  let digits := String.ofList
    (if parts.digits.isEmpty then [] else spec.groupedDigits least parts.digits)
  let free := spec.width.getD 0 - (around + digits.length)
  let inFront := sign ++ parts.mark
  let body := digits ++ parts.behind
  match spec.alignment with
  | .left => inFront ++ body ++ spec.filling free
  | .right => spec.filling free ++ inFront ++ body
  | .middle => spec.filling (free / 2) ++ inFront ++ body ++ spec.filling (free - free / 2)
  | .apart => inFront ++ spec.filling free ++ body

/-- The base of a form, with its mark. -/
def baseOf : Option Char → Nat × String
  | some 'b' => (2, "0b")
  | some 'o' => (8, "0o")
  | some 'x' => (16, "0x")
  | some 'X' => (16, "0X")
  | _ => (10, "")

def ofCharacter (spec : FieldSpec) (value : Int) : Except Fault String := do
  if spec.sign.isSome then refused "Sign not allowed with integer format specifier 'c'"
  if spec.isAlternate then
    refused "Alternate form (#) not allowed with integer format specifier 'c'"
  if value < -(Nat.pow 2 63) || (Nat.pow 2 63 : Int) ≤ value then
    throw (.operation .overflow "Python int too large to convert to C long")
  if value < 0 || 0x110000 ≤ value then
    throw (.operation .overflow "%c arg not in range(0x110000)")
  return spec.ofParts ⟨false, "", [], String.ofList (ofCode value.toNat)⟩

/-- An integer in a field that is not written as a floating-point number. -/
def ofInteger (spec : FieldSpec) (value : Int) : Except Fault String := do
  if spec.precision.isSome then refused "Precision not allowed in integer format specifier"
  if spec.dropsZeroSign then
    refused "Negative zero coercion (z) not allowed in integer format specifier"
  if spec.form = some 'c' then return ← spec.ofCharacter value
  let (base, mark) := baseOf spec.form
  let digits := Nat.toDigits base value.natAbs
  let digits := if spec.form = some 'X' then digits.map Char.toUpper else digits
  return spec.ofParts ⟨value < 0, if spec.isAlternate then mark else "", digits, ""⟩

/-- How a form writes a floating-point number. -/
def styleOf (form : Option Char) (precision : Option Nat) : Double.Style :=
  match form.map Char.toLower, precision with
  | some 'f', precision | some '%', precision => .fixed (precision.getD 6)
  | some 'e', precision => .power (precision.getD 6)
  | none, none => .plain
  | none, some precision => .general precision
  | some _, precision => .general (precision.getD 6)

def doubleForms : List Char :=
  ['e', 'E', 'f', 'F', 'g', 'G', 'n', '%']

/-- A floating-point number in a field. -/
def ofDouble (spec : FieldSpec) (value : Double) : String :=
  let value := if spec.form = some '%' then value.multiply (.ofInt 100) else value
  let text := value.styled (styleOf spec.form spec.precision) spec.form.isNone spec.isAlternate
    spec.dropsZeroSign
  let text := if (spec.form.map Char.isUpper).getD false then text.map Char.toUpper else text
  let (isNegative, text) :=
    match text with
    | '-' :: rest => (true, rest)
    | text => (false, text)
  let digits := text.takeWhile isPlainDigit
  let behind := String.ofList (text.drop digits.length)
  spec.ofParts ⟨isNegative, "", digits, if spec.form = some '%' then behind ++ "%" else behind⟩

end FieldSpec

def formatText (typeName text spec : String) : Except Fault String := do
  if spec.isEmpty then return text
  (← FieldSpec.read typeName .left (some 's') spec).ofText typeName text

/-- A floating-point number in the field of a specification that says something. -/
def formatDouble (typeName : String) (value : Double) (spec : String) : Except Fault String := do
  let spec ← FieldSpec.read typeName .right none spec
  match spec.form with
  | none => return spec.ofDouble value
  | some form =>
    if FieldSpec.doubleForms.contains form then return spec.ofDouble value
    else spec.unknownForm typeName

/-- An integer in the field of a specification that says something. -/
def formatInteger (typeName : String) (value : Int) (spec : String) : Except Fault String := do
  let spec ← FieldSpec.read typeName .right (some 'd') spec
  match spec.form with
  | some 'b' | some 'c' | some 'd' | some 'o' | some 'x' | some 'X' | some 'n' =>
    spec.ofInteger value
  | some form =>
    if FieldSpec.doubleForms.contains form then return spec.ofDouble (← Numeral.doubleOf value)
    else spec.unknownForm typeName
  | none => spec.unknownForm typeName

end WireModel
