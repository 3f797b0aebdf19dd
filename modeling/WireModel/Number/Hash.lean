import WireModel.Number.Arithmetic

/-!
The hash of a number, which is the same for all numbers of the same value: the value, as a fraction,
modulo a prime.
-/

namespace WireModel

namespace Double

def hashPrime : Nat := Nat.pow 2 61 - 1

/-- The hash with a sign; one value of it is taken. -/
def signedHash (isNegative : Bool) (hash : Nat) : Int :=
  let hash : Int := if isNegative then -(hash : Int) else hash
  if hash = -1 then -2 else hash

def hashOfInt (value : Int) : Int :=
  signedHash (value < 0) (value.natAbs % hashPrime)

/-- The hash of a number. Powers of two below the line are powers of two above it. -/
def hash (value : Double) : Int :=
  match value, value.ratio? with
  | _, some (n, d) =>
    signedHash (n < 0) (n.natAbs * Nat.pow 2 ((61 - d.log2 % 61) % 61) % hashPrime)
  | .infinite isNegative, _ => if isNegative then -314159 else 314159
  | _, _ => 0

end Double

end WireModel
