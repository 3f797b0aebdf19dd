import WireModel.Number.Arithmetic
import WireModel.Number.Shortest

/-!
Decimal digits of a double, rounded to so many of them or to so many places behind the point, and
how they are laid out as a text.
-/

namespace WireModel

/-- A number below one as decimal digits behind the point, times a power of ten. -/
structure Decimals where
  digits : List Char
  point : Int

namespace Decimals

def zero : Decimals :=
  ⟨['0'], 1⟩

/-- The digits of a natural number that stand so far to the left, without zeros at their end. -/
def ofNat (value : Nat) (exponent : Int) : Decimals :=
  let all := Nat.toDigits 10 value
  ⟨(all.reverse.dropWhile (· == '0')).reverse, exponent + all.length⟩

/-- A fraction that is not zero, rounded to some digits. -/
def rounded (numerator denominator count : Nat) : Decimals :=
  let unit := Double.pointOf numerator denominator - count
  let (n, d) := Double.scaledByTen numerator denominator unit
  ofNat (Double.roundQuotient n d) unit

def roundedBehindPoint (numerator denominator places : Nat) : Decimals :=
  let value := Double.roundQuotient (numerator * Nat.pow 10 places) denominator
  if value = 0 then ⟨[], -places⟩ else ofNat value (-places)

def isZero (value : Decimals) : Bool :=
  value.digits.all (· == '0')

/-- The digits between two places, where the first digit has place zero, with the point among
them. -/
def between (digits : List Char) (point first last : Int) : List Char :=
  let digitAt (place : Int) : Char :=
    if 0 ≤ place then (digits[place.toNat]?).getD '0' else '0'
  let run (first last : Int) : List Char :=
    (List.range (last - first).toNat).map fun (step : Nat) => digitAt (first + step)
  run first point ++ '.' :: run point last

/-- A power of ten behind digits, with its sign and at least two digits. -/
def powerText (exponent : Int) : List Char :=
  let digits := Nat.toDigits 10 exponent.natAbs
  (if exponent < 0 then '-' else '+') :: (if digits.length < 2 then '0' :: digits else digits)

/-- How digits are laid out. -/
structure Layout where
  /-- The digits stand in front of a power of ten. -/
  hasPower : Bool
  /-- The place behind the last digit that is written at least. -/
  last : Int
  /-- A digit stands behind the point at least. -/
  hasFraction : Bool
  /-- The point stays without a digit behind it. -/
  keepsPoint : Bool

def text (value : Decimals) (layout : Layout) : List Char :=
  let point := if layout.hasPower then 1 else value.point
  let least := if !layout.hasPower && layout.hasFraction then point + 1 else point
  let first := if point ≤ 0 then point - 1 else 0
  let body := between value.digits point first (max layout.last least)
  let body := if layout.keepsPoint || body.getLast? != some '.' then body else body.dropLast
  if layout.hasPower then body ++ 'e' :: powerText (value.point - 1) else body

end Decimals

namespace Double

/-- The ways to write a double. -/
inductive Style where
  /-- With as many digits as it takes to read the number back. -/
  | plain
  /-- With so many digits behind the point. -/
  | fixed (places : Nat)
  /-- With so many digits behind the point, and a power of ten. -/
  | power (places : Nat)
  /-- With so many digits in all; very great and very small numbers have a power of ten. -/
  | general (count : Nat)

/-- The digits of a finite number that a style asks for. -/
def decimals (style : Style) (significand : Nat) (exponent : Int) : Decimals :=
  let (n, d) := scaled significand 1 (-exponent)
  match style, significand with
  | .fixed places, _ => .roundedBehindPoint n d places
  | _, 0 => .zero
  | .plain, _ =>
    let (digits, point) := (shortest significand exponent).layout
    ⟨digits, point⟩
  | .power places, _ => .rounded n d (places + 1)
  | .general count, _ => .rounded n d (max count 1)

def Style.layout (style : Style) (hasFraction keepsPoint : Bool) (value : Decimals) :
    Decimals.Layout :=
  let size : Int := value.digits.length
  let fraction : Int := if hasFraction then 1 else 0
  match style with
  | .plain => ⟨value.point ≤ -4 || 16 < value.point, size, hasFraction, keepsPoint⟩
  | .fixed places => ⟨false, value.point + places, hasFraction, keepsPoint⟩
  | .power places => ⟨true, places + 1, hasFraction, keepsPoint⟩
  | .general count =>
    let count : Int := max count 1
    ⟨value.point ≤ -4 || count - fraction < value.point, if keepsPoint then count else size,
      hasFraction, keepsPoint⟩

/-- The text of a double in a style. A digit behind the point may be asked for, the point may be
kept without one, and what rounds to zero may lose its sign. -/
def styled (style : Style) (hasFraction keepsPoint dropsZeroSign : Bool) : Double → List Char
  | .finite negative significand exponent =>
    let digits := decimals style significand exponent
    let body := digits.text (style.layout hasFraction keepsPoint digits)
    if negative && !(dropsZeroSign && digits.isZero) then '-' :: body else body
  | .infinite negative => (if negative then "-inf" else "inf").toList
  | .notANumber => "nan".toList

end Double

end WireModel
