import WireModel.Text.CharTable
import WireModel.Text.IdentifierData
import WireModel.Text.Normalization

/-!
Identifiers: texts that begin with a letter or an underscore and go on with letters, digits and
marks; and the reserved words among them.
-/

namespace WireModel.Text

/-- The character may begin an identifier. -/
def isIdentifierStart (c : Char) : Bool :=
  inRanges IdentifierData.start c

/-- The character may follow in an identifier. -/
def isIdentifierContinuation (c : Char) : Bool :=
  inRanges IdentifierData.continuation c

/-- The text is an identifier; the empty text is none. -/
def isIdentifier (text : String) : Bool :=
  match text.toList with
  | [] => false
  | c :: rest => isIdentifierStart c && rest.all isIdentifierContinuation

def reservedWords : List String := [
  "False", "None", "True", "and", "as", "assert", "async", "await", "break", "class", "continue",
  "def", "del", "elif", "else", "except", "finally", "for", "from", "global", "if", "import", "in",
  "is", "lambda", "nonlocal", "not", "or", "pass", "raise", "return", "try", "while", "with",
  "yield"]

/-- The text may be bound as a name: an identifier that is neither reserved nor, in its normal form,
the name of the debugging constant. -/
def isBindable (text : String) : Bool :=
  isIdentifier text && !reservedWords.contains text && normalized text != "__debug__"

end WireModel.Text
