import WireModel.Text.Surrogate

/-!
Parts of texts: where a text stands inside another one. Texts are compared code point by code point.
-/

namespace WireModel.Text

/-- The pieces of a row between the places where another row stands, after the items in reverse that
were read of the first piece. The number counts the items of a place that are still to be passed. -/
def piecesFrom (separator : List String) (piece : List String) : Nat → List String →
    List (List String)
  | _, [] => [piece.reverse]
  | passed + 1, _ :: rest => piecesFrom separator piece passed rest
  | 0, item :: rest =>
    if separator.isPrefixOf (item :: rest) then
      piece.reverse :: piecesFrom separator [] (separator.length - 1) rest
    else
      piecesFrom separator (item :: piece) 0 rest

/-- The pieces of a text between the places where a text that is not empty stands. -/
def pieces (separator text : String) : List String :=
  (piecesFrom (letters separator) [] 0 (letters text)).map String.join

/-- The text stands in another one; the empty text stands in each. -/
def isPart (part text : String) : Bool :=
  part.isEmpty || (pieces part text).length != 1

def endsIn (finish text : String) : Bool :=
  (letters finish).isSuffixOf (letters text)

def withoutEnd (finish text : String) : String :=
  if endsIn finish text then
    String.join ((letters text).take ((letters text).length - (letters finish).length))
  else text

def withoutStart (start text : String) : String :=
  if text.startsWith start then (text.drop start.length).toString else text

/-- A text without some letters at its ends. -/
def trimmed (atStart atEnd : Bool) (isDropped : String → Bool) (text : String) : String :=
  let letters := letters text
  let letters := if atStart then letters.dropWhile isDropped else letters
  String.join (if atEnd then (letters.reverse.dropWhile isDropped).reverse else letters)

/-- The text stands before another one: at the first code points that differ it has the lower
one. -/
def isBefore (a b : String) : Bool :=
  codes a < codes b

end WireModel.Text
