/-!
The parts of a text between the places where a mark stands. A text without the mark is one part.
-/

namespace WireModel.Text

/-- The parts of a text between marks, after the characters in reverse that were read of the
first. -/
def partsFrom (mark : Char) (begun : List Char) : List Char → List String
  | [] => [String.ofList begun.reverse]
  | c :: rest =>
    if c = mark then String.ofList begun.reverse :: partsFrom mark [] rest
    else partsFrom mark (c :: begun) rest

/-- The parts of a text between the places where a mark stands. -/
def partsAt (mark : Char) (text : String) : List String :=
  partsFrom mark [] text.toList

end WireModel.Text
