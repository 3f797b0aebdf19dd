import WireModel.Number.Double

/-!
Arithmetic on doubles: the exact result, rounded to the nearest double.
-/

namespace WireModel

namespace Double

def ratio? : Double → Option (Int × Nat)
  | .finite negative significand exponent =>
    let (n, d) := scaled significand 1 (-exponent)
    some (if negative then -(n : Int) else n, d)
  | _ => none

def isNegative : Double → Bool
  | .finite negative _ _ => negative
  | .infinite negative => negative
  | .notANumber => false

/-- The number is zero, with either sign. -/
def isZero : Double → Bool
  | .finite _ significand _ => significand = 0
  | _ => false

/-- The double nearest to a fraction; zero takes the given sign. -/
def ofFraction (negativeZero : Bool) (numerator : Int) (denominator : Nat) : Double :=
  if numerator = 0 then zero negativeZero
  else ofRatio (numerator < 0) numerator.natAbs denominator

def negate : Double → Double
  | .finite negative significand exponent => .finite (!negative) significand exponent
  | .infinite negative => .infinite (!negative)
  | .notANumber => .notANumber

/-- The sum of two numbers. -/
def add (a b : Double) : Double :=
  match a, b, a.ratio?, b.ratio? with
  | _, _, some (n, d), some (m, e) =>
    ofFraction (a.isNegative && b.isNegative && a.isZero) (n * e + m * d) (d * e)
  | .infinite s, .infinite t, _, _ => if s = t then .infinite s else .notANumber
  | .notANumber, _, _, _ | _, .notANumber, _, _ => .notANumber
  | .infinite s, _, _, _ | _, .infinite s, _, _ => .infinite s
  | _, _, _, _ => .notANumber

/-- The product of two numbers. -/
def multiply (a b : Double) : Double :=
  let negative := a.isNegative != b.isNegative
  match a, b, a.ratio?, b.ratio? with
  | _, _, some (n, d), some (m, e) => ofFraction negative (n * m) (d * e)
  | .notANumber, _, _, _ | _, .notANumber, _, _ => .notANumber
  | a, b, _, _ => if a.isZero || b.isZero then .notANumber else .infinite negative

/-- The quotient of two numbers, of which the second is not zero. -/
def divide (a b : Double) : Double :=
  let negative := a.isNegative != b.isNegative
  match a, b, a.ratio?, b.ratio? with
  | _, _, some (n, d), some (m, e) =>
    ofFraction negative (if m < 0 then -(n * e) else n * e) (d * m.natAbs)
  | .notANumber, _, _, _ | _, .notANumber, _, _ => .notANumber
  | .infinite _, .infinite _, _, _ => .notANumber
  | .infinite _, _, _, _ => .infinite negative
  | _, _, _, _ => zero negative

/-- The quotient of two numbers, of which the second is not zero, rounded down, and what remains,
which has the sign of the second. -/
def divideDown (a b : Double) : Double × Double :=
  match a, b, a.ratio?, b.ratio? with
  | _, _, some (n, d), some (m, e) =>
    let top := n * e
    let bottom := m * d
    let quotient := Int.fdiv top bottom
    let rest := Int.fmod top bottom
    (ofFraction (a.isNegative != b.isNegative) quotient 1, ofFraction b.isNegative rest (d * e))
  | _, .infinite negative, some _, _ =>
    if a.isZero || a.isNegative = negative then (zero (a.isNegative != negative), a)
    else (ofInt (-1), .infinite negative)
  | _, _, _, _ => (.notANumber, .notANumber)

def powerOf (a : Double) (exponent : Nat) : Double :=
  let negative := a.isNegative && exponent % 2 = 1
  match a.ratio? with
  | some (n, d) => ofFraction negative (Int.pow n exponent) (Nat.pow d exponent)
  | none =>
    if exponent = 0 then ofInt 1
    else if a = .notANumber then .notANumber
    else .infinite negative

/-- The first number is below the second one. -/
def less (a b : Double) : Bool :=
  match a, b, a.ratio?, b.ratio? with
  | _, _, some (n, d), some (m, e) => n * e < m * d
  | .notANumber, _, _, _ | _, .notANumber, _, _ => false
  | .infinite s, .infinite t, _, _ => s && !t
  | .infinite s, _, _, _ => s
  | _, .infinite t, _, _ => !t
  | _, _, _, _ => false

end Double

end WireModel
