import WireModel.Text.CharacterNameData
import WireModel.Text.CharTable

/-!
Characters by their names. Most names stand in tables; those of syllables are put together from the
names of their letters, and those of ideographs from their numbers.
-/

namespace WireModel.Text

/-- A name in a row: how many characters at its start are those of the name before, and the rest. -/
structure NameStep where
  shared : Nat
  rest : List Char

/-- The first name of a row, of which only the rest may have been read yet, and those behind it. -/
structure NameRow where
  first : NameStep
  isCounted : Bool
  others : List NameStep

namespace NameRow

/-- A row that goes on in front with another character. -/
def read (c : Char) (row : NameRow) : NameRow :=
  if c.isLower then
    { row with
      first := { row.first with shared := row.first.shared + (c.toNat - 97) }
      isCounted := true }
  else if row.isCounted then ⟨⟨0, [c]⟩, false, row.first :: row.others⟩
  else { row with first := { row.first with rest := c :: row.first.rest } }

def ofText (text : String) : List NameStep :=
  let row := text.toList.foldr read ⟨⟨0, []⟩, false, []⟩
  row.first :: row.others

end NameRow

/-- How many characters stand in front of the one that has a name in a row, given the name
before. -/
def stepOf? (name previous : List Char) : List NameStep → Option Nat
  | [] => none
  | step :: rest =>
    let next := previous.take step.shared ++ step.rest
    if next = name then some 0 else (stepOf? name next rest).map (· + 1)

/-- The character that a name stands for in the tables. -/
def tabulated? (name : List Char) : Option Nat :=
  CharacterNameData.rows.findSome? fun (first, parts) =>
    (stepOf? name [] (NameRow.ofText (String.join parts))).map (first + ·)

/-- The number that a name ends in, of four or five digits to base 16 behind some text. -/
def numberBehind? (start : String) (name : List Char) : Option Nat :=
  let digits := name.drop start.length
  let isDigit (c : Char) : Bool := c.isDigit || ('A' ≤ c && c ≤ 'F')
  if start.toList.isPrefixOf name && (digits.length = 4 || digits.length = 5) &&
    digits.all isDigit then
    some (digits.foldl
      (fun value c => value * 16 + (if c.isDigit then c.toNat - 48 else c.toNat - 55)) 0)
  else none

/-- The character that a name stands for which ends in its number. -/
def numbered? (name : List Char) : Option Nat :=
  CharacterNameData.numbered.findSome? fun (start, first, last) =>
    (numberBehind? start name).filter fun code => first ≤ code && code ≤ last

def ideographStart : String := "CJK UNIFIED IDEOGRAPH-"

def syllableStart : String := "HANGUL SYLLABLE "

/-- The names of the letters that begin a syllable, in their order. -/
def leadingLetters : List String := [
  "G", "GG", "N", "D", "DD", "R", "M", "B", "BB", "S", "SS", "", "J", "JJ", "C", "K", "T", "P", "H"]

def vowels : List String := [
  "A", "AE", "YA", "YAE", "EO", "E", "YEO", "YE", "O", "WA", "WAE", "OE", "YO", "U",
    "WEO", "WE", "WI",
  "YU", "EU", "YI", "I"]

/-- The names of the letters that end a syllable. -/
def trailingLetters : List String := [
  "", "G", "GG", "GS", "N", "NJ", "NH", "D", "L", "LG", "LM", "LB", "LS", "LT", "LP",
    "LH", "M", "B",
  "BS", "S", "SS", "NG", "J", "C", "K", "T", "P", "H"]

def longestName? (names : List String) (text : List Char) : Option (Nat × List Char) :=
  let fitting := names.zipIdx.filter fun (name, _) => name.toList.isPrefixOf text
  (fitting.foldl (fun (best : Option (String × Nat)) next =>
    match best with
    | some known => if known.1.length < next.1.length then some next else best
    | none => some next) none).map fun (name, place) => (place, text.drop name.length)

def syllable? (letters : List Char) : Option Nat := do
  let (leading, letters) ← longestName? leadingLetters letters
  let (vowel, letters) ← longestName? vowels letters
  let (trailing, letters) ← longestName? trailingLetters letters
  if letters.isEmpty then some (0xac00 + (leading * 21 + vowel) * 28 + trailing) else none

/-- The character that a name stands for. Letters may be of either case, but for syllables and
ideographs. -/
def characterNamed? (name : List Char) : Option Nat :=
  if syllableStart.toList.isPrefixOf name then syllable? (name.drop syllableStart.length)
  else if ideographStart.toList.isPrefixOf name then
    (numberBehind? ideographStart name).filter fun code =>
      inRanges CharacterNameData.ideographs (Char.ofNat code)
  else
    let name := name.map Char.toUpper
    (numbered? name).or (tabulated? name)

end WireModel.Text
