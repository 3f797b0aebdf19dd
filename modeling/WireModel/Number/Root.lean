import WireModel.Number.Arithmetic

/-!
Square roots: the exact result, rounded to the nearest double.
-/

namespace WireModel

namespace Double

/-- A better guess at the square root of a number, from a guess that is not too small; a guess that
cannot be made better is the root, rounded down. -/
def improveRoot (value : Nat) : Nat → Nat → Nat
  | 0, guess => guess
  | fuel + 1, guess =>
    let next := (guess + value / guess) / 2
    if next < guess then improveRoot value fuel next else guess

/-- The square root of a natural number, rounded down. -/
def rootDown (value : Nat) : Nat :=
  if value = 0 then 0
  else improveRoot value (value.log2 + 2) (Nat.pow 2 (value.log2 / 2 + 1))

/-- The double nearest to the square root of a fraction. -/
def rootOf (numerator denominator : Nat) : Double :=
  -- the root of `n / d` is that of `n * d` divided by `d`
  let bits := 64 + denominator.log2 + 1
  let value := numerator * denominator * Nat.pow 2 (2 * bits)
  let root := rootDown value
  let below := denominator * Nat.pow 2 bits
  if root * root = value then ofRatio false root below
  else ofRatio false (2 * root + 1) (2 * below)

/-- A finite number as a fraction in lowest terms. -/
def lowestRatio? (value : Double) : Option (Int × Nat) := do
  let (n, d) ← value.ratio?
  let divisor := Nat.gcd n.natAbs d
  some (n / divisor, d / divisor)

end Double

end WireModel
