/-!
Character properties and character maps given by tables of code point ranges.
-/

namespace WireModel.Text

/-- The character lies in one of the ranges, ends included. -/
def inRanges (table : List (Nat × Nat)) (c : Char) : Bool :=
  table.any fun range => range.1 ≤ c.toNat && c.toNat ≤ range.2

/-- A range of characters, each `step` after the one before, whose images are shifted alike. -/
structure CharRange where
  first : Nat
  last : Nat
  step : Nat
  image : Nat

/-- The image of a code point that belongs to the range. -/
def CharRange.image? (range : CharRange) (code : Nat) : Option Nat :=
  if range.first ≤ code ∧ code ≤ range.last ∧ (code - range.first) % range.step = 0 then
    some (range.image + (code - range.first))
  else
    none

/-- The image of a character: its expansion, else its image in a range, else itself. -/
def imageOf (expansions : List (Nat × List Nat)) (ranges : List CharRange) (c : Char) : List Char :=
  match expansions.lookup c.toNat with
  | some codes => codes.map Char.ofNat
  | none =>
    match ranges.findSome? (·.image? c.toNat) with
    | some code => [Char.ofNat code]
    | none => [c]

end WireModel.Text
