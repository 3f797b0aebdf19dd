/-!
Binary floating-point numbers of double precision, as exact values: a sign, a significand of at
most 53 bits and a power of two.
-/

namespace WireModel

/-- A number of double precision; `finite` stands for `significand * 2 ^ exponent` with the sign,
where the significand has 53 bits or the exponent is the least one. -/
inductive Double where
  | finite (negative : Bool) (significand : Nat) (exponent : Int)
  | infinite (negative : Bool)
  | notANumber
  deriving DecidableEq, Repr, Inhabited

namespace Double

def minExponent : Int := -1074

def maxExponent : Int := 971

def significandBound : Nat := Nat.pow 2 53

def zero (negative : Bool) : Double :=
  .finite negative 0 minExponent

/-- The quotient rounded to the nearest natural number, a half to the even one. -/
def roundQuotient (numerator denominator : Nat) : Nat :=
  let quotient := numerator / denominator
  let twice := 2 * (numerator % denominator)
  if twice < denominator then quotient
  else if denominator < twice then quotient + 1
  else quotient + quotient % 2

/-- The quotient of `numerator / denominator` and `2 ^ exponent`, again as a fraction. -/
def scaled (numerator denominator : Nat) (exponent : Int) : Nat × Nat :=
  if exponent ≤ 0 then (numerator * Nat.pow 2 (-exponent).toNat, denominator)
  else (numerator, denominator * Nat.pow 2 exponent.toNat)

/-- The exponent with which a positive fraction has a significand of 53 bits, or the least one. -/
def exponentOf (numerator denominator : Nat) : Int :=
  let guess : Int := (numerator.log2 : Int) - (denominator.log2 : Int) - 53
  let (n, d) := scaled numerator denominator guess
  let exact := if n / d < significandBound then guess else guess + 1
  max exact minExponent

/-- The double nearest to a fraction, ties going to the even significand. -/
def ofRatio (negative : Bool) (numerator denominator : Nat) : Double :=
  if numerator = 0 then zero negative
  else
    let exponent := exponentOf numerator denominator
    let (n, d) := scaled numerator denominator exponent
    let rounded := roundQuotient n d
    let (significand, exponent) :=
      if rounded = significandBound then (rounded / 2, exponent + 1) else (rounded, exponent)
    if exponent > maxExponent then .infinite negative else .finite negative significand exponent

/-- The double nearest to an integer. -/
def ofInt (value : Int) : Double :=
  ofRatio (value < 0) value.natAbs 1

def isInfinite : Double → Bool
  | .infinite _ => true
  | _ => false

/-- Equality of values: the two zeros are equal and what is not a number equals nothing. -/
def equal : Double → Double → Bool
  | .finite n₁ s₁ e₁, .finite n₂ s₂ e₂ => s₁ == s₂ && e₁ == e₂ && (n₁ == n₂ || s₁ == 0)
  | .infinite n₁, .infinite n₂ => n₁ == n₂
  | _, _ => false

/-- The exact value is the given integer. -/
def equalInt : Double → Int → Bool
  | .finite negative significand exponent, value =>
    let (n, d) := scaled significand 1 (-exponent)
    n % d == 0 && (if negative then -((n / d : Nat) : Int) else ((n / d : Nat) : Int)) == value
  | _, _ => false

/-- The integer part of a finite number. -/
def truncate? : Double → Option Int
  | .finite negative significand exponent =>
    let (n, d) := scaled significand 1 (-exponent)
    some (if negative then -((n / d : Nat) : Int) else ((n / d : Nat) : Int))
  | _ => none

end Double

end WireModel
