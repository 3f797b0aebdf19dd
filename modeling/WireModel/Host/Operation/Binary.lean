import WireModel.Host.Format.Fill

/-!
Operators between the values of expressions: arithmetic, texts that are filled in, and bars between
types.
-/

namespace WireModel

open Text

namespace HostType

/-- An operator between two values. A bar between types unites them. -/
def binaryOperation (model : Model) (operator : BinaryOperator) (left right : HostType) :
    Building HostType := do
  if let some value := flagOperation model operator left right then return value
  if let some value ← numericOperation operator left right then return value
  if let some value := containerOperation operator left right then return value
  if let some value ← sequenceOperation operator left right then return value
  match operator, left.asText?, left with
  | .remainder, some content, _ => return .text (← filledIn model false content right)
  | .remainder, Option.none, .constant (.bytes content) =>
    return .constant (.bytes (codes (← filledIn model true (ofCodes content) right)))
  | .bitOr, _, _ => left.bar right
  | operator, _, _ => throw (.unsupportedOperands operator.text left right)

end HostType

end WireModel
