import WireModel.Text.ClassData
import WireModel.Text.Digit
import WireModel.Text.Identifier
import WireModel.Text.Quoted

/-!
What the characters of a text are: letters, digits, numbers, blanks, or anything that can be
printed.
-/

namespace WireModel.Text

def isLetter (c : Char) : Bool :=
  inRanges ClassData.letters c

/-- The character is a digit from zero to nine. -/
def isDecimalDigit (c : Char) : Bool :=
  (digitValue? c).isSome

/-- The character is a digit, perhaps a raised or circled one. -/
def isAnyDigit (c : Char) : Bool :=
  isDecimalDigit c || inRanges ClassData.digits c

/-- The character stands for a number. -/
def isNumber (c : Char) : Bool :=
  isAnyDigit c || inRanges ClassData.numbers c

def isAllOf (isOfClass : Char → Bool) (text : List Char) : Bool :=
  !text.isEmpty && text.all isOfClass

end WireModel.Text
