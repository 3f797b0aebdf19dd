import WireModel.Number.Root

/-!
Powers, logarithms and angles, as sums of series with a fixed number of bits behind the point. There
are so many bits that what is rounded off does not show in a double.
-/

namespace WireModel

namespace Series

/-- How many bits are behind the point. -/
def bits : Nat := 320

def unit : Int := Nat.pow 2 bits

def ofRatio (numerator : Int) (denominator : Nat) : Int :=
  Int.fdiv (numerator * unit) denominator

def product (a b : Int) : Int :=
  Int.fdiv (a * b) unit

/-- The double nearest to a number, times a power of two. -/
def toDouble (value exponent : Int) : Double :=
  Double.ofFraction false (if 0 ≤ exponent then value * Nat.pow 2 exponent.toNat else value)
    ((unit.toNat) * Nat.pow 2 (-exponent).toNat)

/-- The sum of the odd powers of a number, each divided by its exponent; every other one is taken
away if the sign is negative. The first power and its exponent are given. -/
def oddPowers (sign square : Int) : Nat → Nat → Int → Int
  | 0, _, _ => 0
  | fuel + 1, exponent, power =>
    Int.fdiv power exponent + sign * oddPowers sign square fuel (exponent + 2)
      (product power square)

/-- How many terms of a series are summed up. -/
def terms : Nat := 130

def logarithmOfSmall (value : Int) : Int :=
  let ratio := Int.fdiv ((value - unit) * unit) (value + unit)
  2 * oddPowers 1 (product ratio ratio) terms 1 ratio

def logarithmOfTwo : Int :=
  logarithmOfSmall (2 * unit)

/-- The logarithm of a positive fraction. -/
def logarithm (numerator denominator : Nat) : Int :=
  let guess : Int := (numerator.log2 : Int) - denominator.log2
  let (n, d) := Double.scaled numerator denominator guess
  let (exponent, n) := if n < d then (guess - 1, 2 * n) else (guess, n)
  exponent * logarithmOfTwo + logarithmOfSmall (ofRatio n d)

/-- The sum of the powers of a number, each divided by the product of all numbers up to its
exponent. The last exponent and its term are given. -/
def dividedPowers (value : Int) : Nat → Nat → Int → Int
  | 0, _, _ => 0
  | fuel + 1, exponent, term =>
    term + dividedPowers value fuel (exponent + 1) (Int.fdiv (product term value) (exponent + 1))

def exponential (value : Int) : Double :=
  let exponent := Int.fdiv value logarithmOfTwo
  if 2000 < exponent then .infinite false
  else if exponent < -2000 then .zero false
  else toDouble (dividedPowers (value - exponent * logarithmOfTwo) terms 0 unit) exponent

def angleOfSmall (tangent : Int) : Int :=
  oddPowers (-1) (product tangent tangent) terms 1 tangent

def halfTurn : Int :=
  16 * angleOfSmall (ofRatio 1 5) - 4 * angleOfSmall (ofRatio 1 239)

/-- The tangent of half the angle. -/
def halved (tangent : Int) : Int :=
  let root := Double.rootDown ((unit * unit + tangent * tangent).toNat)
  Int.fdiv (tangent * unit) (unit + root)

def angleOf (tangent : Int) : Int :=
  8 * angleOfSmall (halved (halved (halved tangent)))

/-- The angle of a point that is not the origin, given by its two coordinates. -/
def angle (x y : Int) : Int :=
  let ratio (a b : Int) : Int := Int.fdiv (a * unit) b
  if y.natAbs ≤ x.natAbs then
    let slope := angleOf (ratio y x)
    if 0 < x then slope else if y < 0 then slope - halfTurn else slope + halfTurn
  else
    let quarter := Int.fdiv halfTurn 2
    (if y < 0 then -quarter else quarter) - angleOf (ratio x y)

/-- The sum of every other power of a number, with alternating signs, each divided by the product of
all numbers up to its exponent. The first exponent and its term are given. -/
def alternatingPowers (square : Int) : Nat → Nat → Int → Int
  | 0, _, _ => 0
  | fuel + 1, exponent, term =>
    term - alternatingPowers square fuel (exponent + 2)
      (Int.fdiv (product term square) ((exponent + 1) * (exponent + 2)))

/-- The sine and the cosine of an angle. -/
def circle (angle : Int) : Int × Int :=
  let turn := 2 * halfTurn
  let rest := angle - turn * Int.fdiv (angle + halfTurn) turn
  let square := product rest rest
  (alternatingPowers square terms 1 rest, alternatingPowers square terms 0 unit)

end Series

namespace Double

/-- A finite number with a fixed number of bits behind the point. -/
def toSeries? (value : Double) : Option Int :=
  value.ratio?.map fun (n, d) => Series.ofRatio n d

def power? (a exponent : Double) : Option Double := do
  let (n, d) ← a.ratio?
  let (p, q) ← exponent.ratio?
  if n ≤ 0 then none
  else some (Series.exponential (Int.fdiv (Series.logarithm n.toNat d * p) q))

end Double

end WireModel
