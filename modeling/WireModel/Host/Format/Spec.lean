import WireModel.Host.Expression.Basic
import WireModel.Host.Operation.Basic
import WireModel.Text.Digit

/-!
How values are written into texts: the specification of a field, with its width, its sign and the
form of a number.
-/

namespace WireModel

open Text

/-- Where a text stands in a wider field. -/
inductive Alignment where
  | left
  | right
  | middle
  /-- At the end, with the sign at the start. -/
  | apart
  deriving DecidableEq, Repr, Inhabited

/-- How the digits of a number are put into groups. -/
inductive Grouping where
  | none
  | commas
  | underscores
  deriving DecidableEq, Repr, Inhabited

/-- The specification of a field. -/
structure FieldSpec where
  /-- The code point that fills the field up, as a text. -/
  fill : String
  alignment : Alignment
  sign : Option Char
  dropsZeroSign : Bool
  isAlternate : Bool
  width : Option Nat
  grouping : Grouping
  precision : Option Nat
  /-- The letter of the form. -/
  form : Option Char

namespace FieldSpec

/-- The alignment that a sign stands for. -/
def alignment? : String → Option Alignment
  | "<" => some .left
  | ">" => some .right
  | "^" => some .middle
  | "=" => some .apart
  | _ => none

/-- A complaint about a specification. -/
def refused {α : Type} (text : String) : Except Fault α :=
  .error (.operation .wrongValue text)

def maxWidth : Nat := Nat.pow 2 63 - 1

/-- A number in front of some code points, if there is one, and what is behind it. -/
def takeNumber (text : List String) : Except Fault (Option Nat × List String) :=
  let digit? (letter : String) : Option Nat :=
    match letter.toList with
    | [c] => digitValue? c
    | _ => none
  let digits := text.takeWhile fun letter => (digit? letter).isSome
  let value := (digits.filterMap digit?).foldl (fun value digit => value * 10 + digit) 0
  if maxWidth < value then refused "Too many decimal digits in format string"
  else .ok (if digits.isEmpty then none else some value, text.drop digits.length)

/-- One of some code points that may stand in front, and what is behind it. -/
def takeOne (letters : List String) (text : List String) : Option String × List String :=
  match text with
  | letter :: rest => if letters.contains letter then (some letter, rest) else (none, text)
  | [] => (none, [])

/-- The code point that fills the field up and the alignment, as far as they are given. -/
def takeAlignment (text : List String) : Option String × Option Alignment × List String :=
  match text with
  | fill :: mark :: rest =>
    match alignment? mark, alignment? fill with
    | some alignment, _ => (some fill, some alignment, rest)
    | none, some alignment => (none, some alignment, mark :: rest)
    | none, none => (none, none, text)
  | [mark] =>
    match alignment? mark with
    | some alignment => (none, some alignment, [])
    | none => (none, none, text)
  | [] => (none, none, [])

/-- The marks of groups in front of some code points. -/
def takeGrouping (text : List String) : Except Fault (Grouping × List String) :=
  let both : Except Fault (Grouping × List String) := refused "Cannot specify both ',' and '_'."
  match text with
  | "," :: "_" :: _ | "_" :: "," :: _ => both
  | "," :: rest => .ok (.commas, rest)
  | "_" :: rest => .ok (.underscores, rest)
  | rest => .ok (.none, rest)

/-- The number of places behind a point, if one stands in front. -/
def takePrecision (text : List String) : Except Fault (Option Nat × List String) :=
  match text with
  | "." :: rest => do
    match ← takeNumber rest with
    | (some precision, rest) => return (some precision, rest)
    | (none, _) => refused "Format specifier missing precision"
  | rest => .ok (none, rest)

/-- A letter of a form as complaints tell it. -/
def shownForm (form : Char) : String :=
  if 32 < form.toNat && form.toNat < 128 then String.singleton form
  else "\\x" ++ String.ofList (Nat.toDigits 16 form.toNat)

/-- The forms of numbers whose digits can be put into groups of three. -/
def groupedForms : List Char :=
  ['d', 'e', 'f', 'g', 'E', 'G', '%', 'F']

def bitForms : List Char :=
  ['b', 'o', 'x', 'X']

/-- Refuses groups in a form without them. -/
def checkGrouping (grouping : Grouping) (form : Option Char) : Except Fault Unit :=
  match grouping, form with
  | .none, _ | _, none => .ok ()
  | grouping, some form =>
    if groupedForms.contains form then .ok ()
    else if bitForms.contains form && grouping = .underscores then .ok ()
    else
      refused ("Cannot specify '" ++ (if grouping = .commas then "," else "_") ++ "' with '" ++
        shownForm form ++ "'.")

/-- Reads a specification for a value of a type, given how values of the type stand in a field and
the form that is meant without a letter. -/
def read (typeName : String) (usual : Alignment) (usualForm : Option Char) (spec : String) :
    Except Fault FieldSpec := do
  let (fill, given, text) := takeAlignment (letters spec)
  let (sign, text) := takeOne ["+", "-", " "] text
  let (zeroSign, text) := takeOne ["z"] text
  let (alternate, text) := takeOne ["#"] text
  let (zero, text) := if fill.isSome then (none, text) else takeOne ["0"] text
  let (width, text) ← takeNumber text
  let (grouping, text) ← takeGrouping text
  let (precision, text) ← takePrecision text
  let form ←
    match text with
    | [] => pure usualForm
    | [letter] => pure letter.toList.getLast?
    | _ => refused ("Invalid format specifier " ++ quoted spec ++ " for object of type '" ++
        typeName ++ "'")
  checkGrouping grouping form
  let inFront := if zero.isSome && usual = .right then .apart else usual
  return {
    fill := (fill.or zero).getD " "
    alignment := given.getD inFront
    sign := sign.bind fun sign => sign.toList.head?
    dropsZeroSign := zeroSign.isSome
    isAlternate := alternate.isSome
    width := width
    grouping := grouping
    precision := precision
    form := form }

/-- Refuses the letter of a form that values of a type do not have. -/
def unknownForm {α : Type} (spec : FieldSpec) (typeName : String) : Except Fault α :=
  refused ("Unknown format code '" ++ shownForm (spec.form.getD ' ') ++ "' for object of type '" ++
    typeName ++ "'")

end FieldSpec

end WireModel
