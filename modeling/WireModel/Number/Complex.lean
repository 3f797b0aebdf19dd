import WireModel.Number.Series

/-!
Complex numbers of two doubles, with each step of their arithmetic rounded.
-/

namespace WireModel

/-- A complex number. -/
structure Complex where
  real : Double
  imaginary : Double
  deriving DecidableEq, Repr, Inhabited

namespace Complex

/-- A number without an imaginary part. -/
def ofDouble (value : Double) : Complex :=
  ⟨value, .zero false⟩

def one : Complex :=
  ofDouble (.ofInt 1)

def isZero (a : Complex) : Bool :=
  a.real.isZero && a.imaginary.isZero

def negate (a : Complex) : Complex :=
  ⟨a.real.negate, a.imaginary.negate⟩

/-- The number with the other sign of the imaginary part. -/
def conjugate (a : Complex) : Complex :=
  ⟨a.real, a.imaginary.negate⟩

/-- The sum of two numbers. -/
def add (a b : Complex) : Complex :=
  ⟨a.real.add b.real, a.imaginary.add b.imaginary⟩

/-- The difference of two numbers. -/
def subtract (a b : Complex) : Complex :=
  ⟨a.real.add b.real.negate, a.imaginary.add b.imaginary.negate⟩

/-- The product of two numbers. -/
def multiply (a b : Complex) : Complex :=
  ⟨(a.real.multiply b.real).add (a.imaginary.multiply b.imaginary).negate,
    (a.real.multiply b.imaginary).add (a.imaginary.multiply b.real)⟩

def magnitude (value : Double) : Double :=
  if value.isNegative then value.negate else value

/-- The quotient of two numbers, of which the second is not zero. The greater part of the second is
divided by, so that no step overflows that need not. -/
def divide (a b : Complex) : Complex :=
  if !(magnitude b.real).less (magnitude b.imaginary) &&
      !(b.real = .notANumber || b.imaginary = .notANumber) then
    let ratio := b.imaginary.divide b.real
    let below := b.real.add (b.imaginary.multiply ratio)
    ⟨(a.real.add (a.imaginary.multiply ratio)).divide below,
      (a.imaginary.add (a.real.multiply ratio).negate).divide below⟩
  else if (magnitude b.real).less (magnitude b.imaginary) then
    let ratio := b.real.divide b.imaginary
    let below := (b.real.multiply ratio).add b.imaginary
    ⟨((a.real.multiply ratio).add a.imaginary).divide below,
      ((a.imaginary.multiply ratio).add a.real.negate).divide below⟩
  else ⟨.notANumber, .notANumber⟩

/-- The power of a number to the number of some bits, the lowest first, times a number. -/
def powerOfBits (result power : Complex) : Nat → Nat → Complex
  | 0, _ => result
  | fuel + 1, bits =>
    if bits = 0 then result
    else
      powerOfBits (if bits % 2 = 1 then result.multiply power else result)
        (power.multiply power) fuel (bits / 2)

def powerOf (a : Complex) (exponent : Int) : Complex :=
  let power := powerOfBits one a (exponent.natAbs.log2 + 1) exponent.natAbs
  if 0 < exponent then power else one.divide power

def size (a : Complex) : Double :=
  match a.real.ratio?, a.imaginary.ratio? with
  | some (n, d), some (m, e) =>
    let top := (n * e).natAbs
    let other := (m * d).natAbs
    if top = 0 && other = 0 then .zero false
    else Double.rootOf (top * top + other * other) (d * e * (d * e))
  | _, _ => if a.real.isInfinite || a.imaginary.isInfinite then .infinite false else .notANumber

def angle? (a : Complex) : Option Double := do
  let (n, d) ← a.real.ratio?
  let (m, e) ← a.imaginary.ratio?
  if m = 0 && 0 < n then return .zero a.imaginary.isNegative
  let turn := Series.angle (n * e) (m * d)
  return Series.toDouble (if m = 0 && a.imaginary.isNegative then -turn else turn) 0

def power? (a exponent : Complex) : Option Complex := do
  let angle ← a.angle?
  let length ← a.size.power? exponent.real
  let phase := angle.multiply exponent.real
  let (length, phase) ←
    if exponent.imaginary.isZero then some (length, phase)
    else do
      let (n, d) ← a.size.ratio?
      let shrinking ← (angle.multiply exponent.imaginary).toSeries?
      some (length.divide (Series.exponential shrinking),
        phase.add (exponent.imaginary.multiply (Series.toDouble (Series.logarithm n.toNat d) 0)))
  let (sine, cosine) := Series.circle (← phase.toSeries?)
  return ⟨length.multiply (Series.toDouble cosine 0), length.multiply (Series.toDouble sine 0)⟩

end Complex

end WireModel
