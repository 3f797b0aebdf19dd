/-!
Texts of code points. Halves of pairs of code units that stand alone are code points but no
characters; a text keeps such a half as the character of the same number in a block without
assigned characters. A character of that block itself, and the mark, stand behind a mark, so that
each row of code points is kept in one way and read back from it.
-/

namespace WireModel.Text

/-- How far the characters that stand for halves of pairs lie from their numbers. -/
def surrogateShift : Nat := 0xE0000

/-- The number is that of half of a pair. -/
def isSurrogate (code : Nat) : Bool :=
  0xD800 ≤ code && code ≤ 0xDFFF

/-- The half of a pair that a character of a text stands for, when no mark stands in front. -/
def surrogate? (c : Char) : Option Nat :=
  if isSurrogate (c.toNat - surrogateShift) then some (c.toNat - surrogateShift) else none

/-- The mark in front of a character that stands for itself. -/
def literalMark : Char := Char.ofNat 0xEE000

/-- A character as a text keeps it. -/
def kept (c : Char) : List Char :=
  if c = literalMark || (surrogate? c).isSome then [literalMark, c] else [c]

/-- A code point as a text keeps it. -/
def ofCode (code : Nat) : List Char :=
  if isSurrogate code then [Char.ofNat (code + surrogateShift)] else kept (Char.ofNat code)

/-- The characters that keep the code points of a text, point by point. -/
def points : List Char → List (List Char)
  | [] => []
  | [c] => [[c]]
  | c :: d :: rest =>
    if c = literalMark then [c, d] :: points rest else [c] :: points (d :: rest)

/-- The number of a code point, from the characters that keep it. -/
def codeOf : List Char → Nat
  | [c] => (surrogate? c).getD c.toNat
  | _ :: c :: _ => c.toNat
  | [] => 0

def letters (text : String) : List String :=
  (points text.toList).map String.ofList

def codes (text : String) : List Nat :=
  (points text.toList).map codeOf

def ofCodes (codes : List Nat) : String :=
  String.ofList (codes.flatMap ofCode)

def ofCharacters (characters : List Char) : String :=
  String.ofList (characters.flatMap kept)

/-- The characters of a text; a half of a pair is given as the character that keeps it. -/
def characters (text : String) : String :=
  String.ofList ((points text.toList).filterMap List.getLast?)

/-- The text holds half of a pair, so that it cannot be written as bytes. -/
def hasSurrogate (text : String) : Bool :=
  (codes text).any isSurrogate

/-- The half of a pair stands for a byte of a path that is no character. -/
def isBareByte (code : Nat) : Bool :=
  0xDC80 ≤ code && code ≤ 0xDCFF

/-- How many bytes a text takes as a path: one for each half of a pair that stands for a byte, and
as many as its characters take. -/
def pathSize (text : String) : Nat :=
  (codes text).foldl
    (fun size code => size + if isBareByte code then 1 else (Char.ofNat code).utf8Size) 0

/-- The run of halves of pairs that comes first in a text: the places of the first and of the last
one of them, and the number of the first. -/
def firstSurrogates? (text : String) : Option (Nat × Nat × Nat) :=
  let before := (codes text).takeWhile fun code => !isSurrogate code
  match (codes text).drop before.length with
  | [] => none
  | code :: rest =>
    some (before.length, before.length + (rest.takeWhile isSurrogate).length, code)

/-- The text can be a path: each half of a pair in it stands for a byte. -/
def isPathText (text : String) : Bool :=
  (codes text).all fun code => !isSurrogate code || isBareByte code

end WireModel.Text
