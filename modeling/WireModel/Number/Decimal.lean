import WireModel.Number.Double
import WireModel.Text.Digit

/-!
Reading doubles from decimal text, rounded to the nearest.
-/

namespace WireModel

open Text

/-- A decimal numeral: `digits * 10 ^ exponent` with a sign. -/
structure Decimal where
  negative : Bool
  digits : List Char
  exponent : Int

namespace Decimal

/-- The nearest double. A numeral whose leading digit stands far outside the range of doubles is
not multiplied out. -/
def toDouble (numeral : Decimal) : Double :=
  let value := natOfDigits numeral.digits
  let leading := numeral.digits.dropWhile (· == '0')
  let point := numeral.exponent + leading.length
  if value = 0 then .zero numeral.negative
  else if point > 400 then .infinite numeral.negative
  else if point < -400 then .zero numeral.negative
  else if numeral.exponent ≤ 0 then
    .ofRatio numeral.negative value (Nat.pow 10 (-numeral.exponent).toNat)
  else
    .ofRatio numeral.negative (value * Nat.pow 10 numeral.exponent.toNat) 1

/-- Reads the power of ten behind the digits; without one it is zero. -/
def readPower? : List Char → Option Int
  | [] => some 0
  | c :: rest =>
    if c == 'e' || c == 'E' then
      let (negative, digits) := splitSign rest
      if digits.isEmpty || !digits.all isPlainDigit then none
      else some (if negative then -(natOfDigits digits : Int) else natOfDigits digits)
    else
      none

/-- Reads a numeral: digits with a point among or beside them, and perhaps a power of ten. -/
def read? (text : List Char) : Option Decimal := do
  let (negative, text) := splitSign text
  let whole := text.takeWhile isPlainDigit
  let rest := text.dropWhile isPlainDigit
  let (fraction, rest) :=
    match rest with
    | '.' :: rest => (rest.takeWhile isPlainDigit, rest.dropWhile isPlainDigit)
    | _ => ([], rest)
  if whole.isEmpty && fraction.isEmpty then none
  let power ← readPower? rest
  some ⟨negative, whole ++ fraction, power - fraction.length⟩

end Decimal

/-- The double that a text stands for: a numeral, or a name of infinity or of no number in any
case. -/
def Double.read? (text : String) : Option Double := do
  let plain ← plainNumber? text.toList
  let (negative, unsigned) := splitSign plain
  let word := String.ofList (unsigned.map Char.toLower)
  if word = "inf" || word = "infinity" then some (.infinite negative)
  else if word = "nan" then some .notANumber
  else (Decimal.read? plain).map Decimal.toDouble

end WireModel
