import WireModel.Text.CharTable

/-!
Decimal digits and blanks of all scripts, and the form in which a number may stand in a text:
blanks around it and single underscores between its digits.
-/

namespace WireModel.Text

/-- The decimal digits, in blocks that each run from a zero to a nine. -/
def digitBlocks : List (Nat × Nat) := [
  (0x30, 0x39), (0x660, 0x669), (0x6f0, 0x6f9), (0x7c0, 0x7c9), (0x966, 0x96f), (0x9e6, 0x9ef),
  (0xa66, 0xa6f), (0xae6, 0xaef), (0xb66, 0xb6f), (0xbe6, 0xbef), (0xc66, 0xc6f), (0xce6, 0xcef),
  (0xd66, 0xd6f), (0xde6, 0xdef), (0xe50, 0xe59), (0xed0, 0xed9), (0xf20, 0xf29),
  (0x1040, 0x1049), (0x1090, 0x1099), (0x17e0, 0x17e9), (0x1810, 0x1819), (0x1946, 0x194f),
  (0x19d0, 0x19d9), (0x1a80, 0x1a89), (0x1a90, 0x1a99), (0x1b50, 0x1b59), (0x1bb0, 0x1bb9),
  (0x1c40, 0x1c49), (0x1c50, 0x1c59), (0xa620, 0xa629), (0xa8d0, 0xa8d9), (0xa900, 0xa909),
  (0xa9d0, 0xa9d9), (0xa9f0, 0xa9f9), (0xaa50, 0xaa59), (0xabf0, 0xabf9), (0xff10, 0xff19),
  (0x104a0, 0x104a9), (0x10d30, 0x10d39), (0x11066, 0x1106f), (0x110f0, 0x110f9),
  (0x11136, 0x1113f), (0x111d0, 0x111d9), (0x112f0, 0x112f9), (0x11450, 0x11459),
  (0x114d0, 0x114d9), (0x11650, 0x11659), (0x116c0, 0x116c9), (0x11730, 0x11739),
  (0x118e0, 0x118e9), (0x11950, 0x11959), (0x11c50, 0x11c59), (0x11d50, 0x11d59),
  (0x11da0, 0x11da9), (0x16a60, 0x16a69), (0x16ac0, 0x16ac9), (0x16b50, 0x16b59),
  (0x1d7ce, 0x1d7ff), (0x1e140, 0x1e149), (0x1e2f0, 0x1e2f9), (0x1e950, 0x1e959),
  (0x1fbf0, 0x1fbf9)]

/-- The value of a decimal digit of any script. -/
def digitValue? (c : Char) : Option Nat :=
  (digitBlocks.find? fun block => block.1 ≤ c.toNat && c.toNat ≤ block.2).map
    fun block => (c.toNat - block.1) % 10

/-- Blanks that may stand around a number. -/
def blanks : List (Nat × Nat) := [
  (0x9, 0xd), (0x20, 0x20), (0x85, 0x85), (0xa0, 0xa0), (0x1680, 0x1680), (0x2000, 0x200a),
  (0x2028, 0x2029), (0x202f, 0x202f), (0x205f, 0x205f), (0x3000, 0x3000)]

/-- The character is a blank that may stand around a number. -/
def isBlank (c : Char) : Bool :=
  inRanges blanks c

/-- The characters that part the words of a text: blanks, and the separators among the controls. -/
def isWordBlank (c : Char) : Bool :=
  isBlank c || (0x1c ≤ c.toNat && c.toNat ≤ 0x1f)

/-- The words of a text, which stand between blanks, given the word that was begun in reverse. -/
def wordsFrom (begun : List Char) : List Char → List String
  | [] => if begun.isEmpty then [] else [String.ofList begun.reverse]
  | c :: rest =>
    if isWordBlank c then
      if begun.isEmpty then wordsFrom [] rest
      else String.ofList begun.reverse :: wordsFrom [] rest
    else wordsFrom (c :: begun) rest

def words (text : String) : List String :=
  wordsFrom [] text.toList

/-- A text without the blanks at its two ends. -/
def trimBlanks (text : List Char) : List Char :=
  ((text.dropWhile isBlank).reverse.dropWhile isBlank).reverse

/-- A digit of any script as a digit from `0` to `9`; other characters stay. -/
def plainDigit (c : Char) : Char :=
  match digitValue? c with
  | some value => Char.ofNat (48 + value)
  | none => c

def isPlainDigit (c : Char) : Bool :=
  '0' ≤ c && c ≤ '9'

/-- A text without its underscores, if each stands between two digits. -/
def dropUnderscores? (afterDigit : Bool) : List Char → Option (List Char)
  | [] => some []
  | '_' :: c :: rest =>
    if afterDigit && isPlainDigit c then (dropUnderscores? true rest).map (c :: ·) else none
  | '_' :: [] => none
  | c :: rest => (dropUnderscores? (isPlainDigit c) rest).map (c :: ·)

/-- The plain form of a number in a text: no blanks around it, digits from `0` to `9`, no
underscores. -/
def plainNumber? (text : List Char) : Option (List Char) :=
  dropUnderscores? false ((trimBlanks text).map plainDigit)

/-- The value of a run of plain digits. -/
def natOfDigits (digits : List Char) : Nat :=
  digits.foldl (fun value c => value * 10 + (c.toNat - 48)) 0

def maxIntegerDigits : Nat := 4300

/-- A text after its sign, and whether that is a minus. -/
def splitSign : List Char → Bool × List Char
  | '-' :: rest => (true, rest)
  | '+' :: rest => (false, rest)
  | text => (false, text)

def readInteger? (text : String) : Option Int := do
  let (negative, digits) := splitSign (← plainNumber? text.toList)
  if digits.isEmpty || !digits.all isPlainDigit || digits.length > maxIntegerDigits then
    none
  else
    some (if negative then -(natOfDigits digits : Int) else natOfDigits digits)

/-- The value of a digit of any base up to 36, in which letters follow the figures. -/
def letterDigit? (c : Char) : Option Nat :=
  let c := c.toLower
  if isPlainDigit c then some (c.toNat - 48)
  else if 'a' ≤ c && c ≤ 'z' then some (c.toNat - 87)
  else none

/-- The number whose digits to a base stand behind what was already read; single underscores may
part them. -/
def natInBase? (base : Nat) (value : Nat) (afterDigit : Bool) : List Char → Option Nat
  | [] => if afterDigit then some value else none
  | '_' :: rest => if afterDigit then natInBase? base value false rest else none
  | c :: rest => do
    let digit ← letterDigit? c
    if digit < base then natInBase? base (value * base + digit) true rest else none

/-- The base that a mark in front of a number names. -/
def markedBase? (mark : Char) : Option Nat :=
  match mark.toLower with
  | 'x' => some 16
  | 'o' => some 8
  | 'b' => some 2
  | _ => none

/-- A base whose digits are whole bits; numbers to it may be as long as they like. -/
def isBitBase (base : Nat) : Bool :=
  base ∈ [2, 4, 8, 16, 32]

/-- The number to a base that some digits stand for, in front of which the mark of the base may
stand. To base 0 the mark decides, and without one the base is ten and zeros may not lead. -/
def magnitudeInBase? (base : Nat) (digits : List Char) : Option Nat :=
  let unmarked (base : Nat) : Option Nat :=
    if !isBitBase base && (digits.filter (· != '_')).length > maxIntegerDigits then none
    else natInBase? base 0 false digits
  match digits with
  | '0' :: mark :: rest =>
    match markedBase? mark with
    | some marked =>
      if base = 0 || base = marked then
        natInBase? marked 0 false (if rest.head? = some '_' then rest.drop 1 else rest)
      else unmarked base
    | none =>
      if base = 0 then (unmarked 10).bind fun value => if value = 0 then some 0 else none
      else unmarked base
  | _ => unmarked (if base = 0 then 10 else base)

def readIntegerInBase? (base : Nat) (text : String) : Option Int := do
  let (negative, digits) := splitSign ((trimBlanks text.toList).map plainDigit)
  let value ← magnitudeInBase? base digits
  some (if negative then -(value : Int) else value)

end WireModel.Text
