import WireModel.Number.Double

/-!
The shortest decimal that reads back as a given double, and the text of a double made from it.
-/

namespace WireModel

namespace Double

/-- The positive value `digits * 10 ^ exponent`. -/
structure Digits where
  digits : Nat
  exponent : Int

/-- The number of digits before the point of a positive fraction, not positive below one tenth:
the `point` with `10 ^ (point - 1) ≤ value < 10 ^ point`. -/
def pointOf (numerator denominator : Nat) : Int :=
  if denominator ≤ numerator then
    (Nat.toDigits 10 (numerator / denominator)).length
  else
    let shift := ((List.range 400).find? fun j => denominator ≤ numerator * Nat.pow 10 j).getD 400
    1 - (shift : Int)

/-- A fraction divided by a power of ten. -/
def scaledByTen (numerator denominator : Nat) (exponent : Int) : Nat × Nat :=
  if exponent ≤ 0 then (numerator * Nat.pow 10 (-exponent).toNat, denominator)
  else (numerator, denominator * Nat.pow 10 exponent.toNat)

/-- The nearest decimal of `count` digits that reads back as `significand * 2 ^ exponent`, of the
two on either side of it. All values are compared in quarters of a unit of the last binary place. -/
def readBack? (significand : Nat) (exponent : Int) (count : Nat) : Option Digits :=
  let (n, d) := scaled significand 1 (-exponent)
  let unit := pointOf n d - count
  let (n, d) := scaledByTen n d unit
  let below := n / d
  -- the value and the ends of its interval, over the common denominator `4 * significand * d`
  let gapBelow := if significand = Nat.pow 2 52 ∧ exponent > minExponent then 1 else 2
  let value := 4 * significand * n
  let low := (4 * significand - gapBelow) * n
  let high := (4 * significand + 2) * n
  let closed := significand % 2 = 0
  let inside (candidate : Nat) : Bool :=
    let c := 4 * significand * d * candidate
    (low < c || (closed && low = c)) && (c < high || (closed && c = high))
  let toBelow := value - 4 * significand * d * below
  let toAbove := 4 * significand * d * (below + 1) - value
  match inside below, inside (below + 1) with
  | true, true =>
    if toBelow < toAbove || (toBelow = toAbove && below % 2 = 0) then some ⟨below, unit⟩
    else some ⟨below + 1, unit⟩
  | true, false => some ⟨below, unit⟩
  | false, true => some ⟨below + 1, unit⟩
  | false, false => none

/-- The shortest decimal that reads back; seventeen digits always do. -/
def shortest (significand : Nat) (exponent : Int) : Digits :=
  ((List.range 17).findSome? fun k => readBack? significand exponent (k + 1)).getD ⟨0, 0⟩

/-- The digits of a decimal without the zeros at their end, and the place of the point before
them. -/
def Digits.layout (value : Digits) : List Char × Int :=
  let all := Nat.toDigits 10 value.digits
  ((all.reverse.dropWhile (· == '0')).reverse, value.exponent + all.length)

/-- How the text of a finite number is laid out: by its digits and the place of its point. -/
def layoutText (digits : List Char) (point : Int) : List Char :=
  if -4 < point ∧ point ≤ 16 then
    if point ≤ 0 then
      ['0', '.'] ++ List.replicate (-point).toNat '0' ++ digits
    else
      let whole := digits.take point.toNat
      let fraction := digits.drop point.toNat
      whole ++ List.replicate (point.toNat - whole.length) '0' ++ ['.'] ++
        (if fraction.isEmpty then ['0'] else fraction)
  else
    let power := (point - 1).natAbs
    let powerDigits := Nat.toDigits 10 power
    digits.take 1 ++ (if digits.length > 1 then '.' :: digits.drop 1 else []) ++
      ['e', if point - 1 < 0 then '-' else '+'] ++
      (if power < 10 then '0' :: powerDigits else powerDigits)

/-- The text of a double: positional from `1e-4` to below `1e16`, always with a point or a power,
and the given words for what is not finite. -/
def textWith (infinity nan : String) : Double → String
  | .finite negative significand exponent =>
    let unsigned :=
      if significand = 0 then ['0', '.', '0']
      else
        let (digits, point) := (shortest significand exponent).layout
        layoutText digits point
    String.ofList (if negative then '-' :: unsigned else unsigned)
  | .infinite negative => (if negative then "-" else "") ++ infinity
  | .notANumber => nan

/-- The text of a double in messages and in values shown. -/
def text (value : Double) : String :=
  value.textWith "inf" "nan"

end Double

end WireModel
