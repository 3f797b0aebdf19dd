import WireModel.Text.Digit
import WireModel.Text.LineEnd
import WireModel.Text.Part

/-!
Finding and dividing: where a row of letters stands inside another one, the pieces of a text between
the places of a part, words and lines, and texts in fields of a width.
-/

namespace WireModel.Text

/-- A range of places of a text, clipped to it; bounds below zero count from the end. The end may
lie before the start. -/
structure Span where
  first : Int
  last : Int

/-- The range between two bounds, either of which may be left out. -/
def Span.clipped (length : Nat) (first last : Option Int) : Span :=
  let fromEnd (place : Int) : Int := if place < 0 then max (place + length) 0 else place
  ⟨fromEnd (first.getD 0), min (fromEnd (last.getD length)) length⟩

def Span.take (span : Span) (letters : List String) : List String :=
  (letters.drop span.first.toNat).take (span.last - span.first).toNat

/-- The first place where a row stands inside another one. -/
def placeIn? (part : List String) : List String → Option Nat
  | [] => if part.isEmpty then some 0 else none
  | letter :: rest =>
    if part.isPrefixOf (letter :: rest) then some 0 else (placeIn? part rest).map (· + 1)

/-- The last place where a row stands inside another one. -/
def lastPlaceIn? (part row : List String) : Option Nat :=
  if row.length < part.length then none
  else (placeIn? part.reverse row.reverse).map fun place => row.length - place - part.length

/-- The place of a part in a range of a text: the first one or the last one. -/
def placeWithin? (fromEnd : Bool) (part text : String) (first last : Option Int) : Option Int :=
  let row := letters text
  let part := letters part
  let span := Span.clipped row.length first last
  if span.last < span.first then none
  else
    let inside := span.take row
    ((if fromEnd then lastPlaceIn? part inside else placeIn? part inside)).map
      fun place => span.first + place

/-- How often a part stands in a range of a text without standing in itself. -/
def occurrencesWithin (part text : String) (first last : Option Int) : Nat :=
  let row := letters text
  let span := Span.clipped row.length first last
  if span.last < span.first then 0
  else
    let inside := span.take row
    if part.isEmpty then inside.length + 1
    else (piecesFrom (letters part) [] 0 inside).length - 1

/-- A range of a text begins with a part, or ends in it. -/
def touches (atEnd : Bool) (part text : String) (first last : Option Int) : Bool :=
  let row := letters text
  let part := letters part
  let span := Span.clipped row.length first last
  if span.last < span.first then false
  else if atEnd then part.isSuffixOf (span.take row) else part.isPrefixOf (span.take row)

/-- Pieces of which those behind so many stay together. -/
def piecesUpTo (limit : Nat) (separator : String) (pieces : List String) : List String :=
  if pieces.length ≤ limit + 1 then pieces
  else pieces.take limit ++ [separator.intercalate (pieces.drop limit)]

def backwards (text : String) : String :=
  String.join (letters text).reverse

/-- The pieces of a text between the places of a part; so many places at most count, from the start
or from the end. -/
def divided (fromEnd : Bool) (limit : Option Nat) (separator text : String) : List String :=
  let divide (separator text : String) : List String :=
    let all := pieces separator text
    (limit.map fun limit => piecesUpTo limit separator all).getD all
  if fromEnd then
    ((divide (backwards separator) (backwards text)).map backwards).reverse
  else divide separator text

def isBlankLetter (letter : String) : Bool :=
  letter.toList.all isWordBlank

/-- The words of a row of letters, of which those behind so many stay together with what is between
and behind them. -/
def wordsUpTo : Nat → List String → List (List String)
  | limit, row =>
    let row := row.dropWhile isBlankLetter
    if row.isEmpty then []
    else
      match limit with
      | 0 => [row]
      | limit + 1 =>
        let word := row.takeWhile (!isBlankLetter ·)
        word :: wordsUpTo limit (row.drop word.length)

/-- The words of a text; so many blanks at most part them, from the start or from the end. -/
def wordsWithin (fromEnd : Bool) (limit : Option Nat) (text : String) : List String :=
  let row := letters text
  let count := limit.getD (row.length + 1)
  if fromEnd then
    ((wordsUpTo count row.reverse).map fun word => String.join word.reverse).reverse
  else (wordsUpTo count row).map String.join

/-- What stands before a part, the part, and what stands behind it; without the part all stands on
one side. -/
def parted (fromEnd : Bool) (separator text : String) : List String :=
  let row := letters text
  let part := letters separator
  match if fromEnd then lastPlaceIn? part row else placeIn? part row with
  | some place =>
    [String.join (row.take place), separator, String.join (row.drop (place + part.length))]
  | none => if fromEnd then ["", "", text] else [text, "", ""]

/-- A text with another one in the place of a part, so many times at most. -/
def substitutedUpTo (limit : Nat) (old new text : String) : String :=
  if old.isEmpty then
    let row := letters text
    let count := min limit (row.length + 1)
    String.join ((row.take count).map (new ++ ·)) ++
      (if row.length < count then new else "") ++ String.join (row.drop count)
  else new.intercalate (piecesUpTo limit old (pieces old text))

/-- The lines of a text with their ends, after the characters in reverse that were read of the first
one. -/
def wholeLinesAfter (line : List Char) : List Char → List (List Char)
  | [] => if line.isEmpty then [] else [line.reverse]
  | '\r' :: '\n' :: rest => ('\n' :: '\r' :: line).reverse :: wholeLinesAfter [] rest
  | c :: rest =>
    if c ∈ lineEnds then (c :: line).reverse :: wholeLinesAfter [] rest
    else wholeLinesAfter (c :: line) rest

/-- The lines of a text with their ends. -/
def wholeLinesOf (text : String) : List String :=
  (wholeLinesAfter [] text.toList).map String.ofList

/-- A text with blanks in the place of its tabs, each up to the next multiple of a width, given the
place in the line. -/
def expandedFrom (width : Nat) (place : Nat) : List String → List String
  | [] => []
  | letter :: rest =>
    if letter = "\t" then
      let count := if width = 0 then 0 else width - place % width
      List.replicate count " " ++ expandedFrom width (place + count) rest
    else letter :: expandedFrom width (if letter = "\n" || letter = "\r" then 0 else place + 1) rest

/-- A text with blanks in the place of its tabs. -/
def expanded (width : Nat) (text : String) : String :=
  String.join (expandedFrom width 0 (letters text))

/-- A text between so many copies of a letter. -/
def padded (fill : String) (before after : Nat) (text : String) : String :=
  String.join (List.replicate before fill) ++ text ++ String.join (List.replicate after fill)

/-- A text in the middle of a width; an odd letter goes in front if the width is odd. -/
def centered (width : Int) (fill text : String) : String :=
  let free := (width - (letters text).length).toNat
  let before := free / 2 + (if free % 2 = 1 && width % 2 = 1 then 1 else 0)
  padded fill before (free - before) text

/-- A number with zeros behind its sign up to a width. -/
def zeroFilled (width : Int) (text : String) : String :=
  let zeros := String.join (List.replicate (width - (letters text).length).toNat "0")
  match letters text with
  | letter :: rest =>
    if letter = "+" || letter = "-" then letter ++ zeros ++ String.join rest else zeros ++ text
  | [] => zeros

end WireModel.Text
