/-!
Ends of lines: those that a text file may have, and those at which a text falls into lines.
-/

namespace WireModel.Text

def lineEnds : List Char :=
  ['\n', '\r', '\x0b', '\x0c', '\x1c', '\x1d', '\x1e', '\x85', '\u2028', '\u2029']

/-- A text whose lines all end in one way, as it is read from a file. -/
def unifyLineEnds : List Char → List Char
  | [] => []
  | '\r' :: '\n' :: rest => '\n' :: unifyLineEnds rest
  | '\r' :: rest => '\n' :: unifyLineEnds rest
  | c :: rest => c :: unifyLineEnds rest

/-- The lines of a text, after the characters in reverse that were read of the first one. -/
def linesAfter (line : List Char) : List Char → List (List Char)
  | [] => if line.isEmpty then [] else [line.reverse]
  | '\r' :: '\n' :: rest => line.reverse :: linesAfter [] rest
  | c :: rest =>
    if c ∈ lineEnds then line.reverse :: linesAfter [] rest else linesAfter (c :: line) rest

/-- The lines of a text without their ends; an end of a line after the last one begins none. -/
def linesOf (text : String) : List String :=
  (linesAfter [] text.toList).map String.ofList

end WireModel.Text
