import WireModel.Text.NormalizationData
import WireModel.Text.Split

/-!
The normal form of names. Two names are one if their characters are the same after decomposition,
which drops differences of form such as width and ligatures; the normal form is the decomposed name
with its marks in order of their combining class, and composed again.
-/

namespace WireModel.Text

namespace Hangul

/-- The first leading consonant, and how many there are. -/
def leading : Nat × Nat := (0x1100, 19)

/-- The first vowel, and how many there are. -/
def vowel : Nat × Nat := (0x1161, 21)

/-- The place before the first trailing consonant, and how many there are, none included. -/
def trailing : Nat × Nat := (0x11a7, 28)

/-- The first syllable, and how many there are. -/
def syllable : Nat × Nat := (0xac00, leading.2 * vowel.2 * trailing.2)

/-- The place of a code point in a block, if it lies in it. -/
def place? (block : Nat × Nat) (code : Nat) : Option Nat :=
  if block.1 ≤ code ∧ code < block.1 + block.2 then some (code - block.1) else none

def decompose? (code : Nat) : Option (List Nat) :=
  (place? syllable code).map fun place =>
    let letters := [leading.1 + place / (vowel.2 * trailing.2),
      vowel.1 + place / trailing.2 % vowel.2]
    if place % trailing.2 = 0 then letters else letters ++ [trailing.1 + place % trailing.2]

/-- The syllable of two letters, or of a syllable without a trailing consonant and one. -/
def compose? (first second : Nat) : Option Nat :=
  match place? leading first, place? vowel second, place? syllable first,
    place? trailing second with
  | some l, some v, _, _ => some (syllable.1 + (l * vowel.2 + v) * trailing.2)
  | _, _, some s, some (t + 1) =>
    if s % trailing.2 = 0 then some (syllable.1 + s + (t + 1)) else none
  | _, _, _, _ => none

end Hangul

/-- The word at a place of a text whose words stand between single blanks; an empty one is none. -/
def wordAt? (text : String) (place : Nat) : Option String :=
  ((partsAt ' ' text)[place]?).filter fun word => !word.isEmpty

/-- The characters that a character is by decomposition. -/
def decomposed (c : Char) : List Char :=
  if c.toNat < 0x80 then [c]
  else
    match Hangul.decompose? c.toNat with
    | some codes => codes.map Char.ofNat
    | none =>
      let block := (NormalizationData.decompositions.takeWhile (·.1 ≤ c.toNat)).getLast?
      match block.bind fun (first, text) => wordAt? text (c.toNat - first) with
      | some word => word.toList
      | none => [c]

/-- The combining class of a character; only marks have one above zero. -/
def combiningClass (c : Char) : Nat :=
  if c.toNat < 0x80 then 0
  else
    match NormalizationData.classes.find? fun (first, last, _) =>
      first ≤ c.toNat && c.toNat ≤ last with
    | some (_, _, order) => order
    | none => 0

/-- Puts a character in front of others: a mark moves behind the marks of lower classes. -/
def insertMark (c : Char) : List Char → List Char
  | [] => [c]
  | d :: rest =>
    if combiningClass d ≠ 0 ∧ combiningClass d < combiningClass c then d :: insertMark c rest
    else c :: d :: rest

/-- The characters with their marks in order of their classes. -/
def ordered (text : List Char) : List Char :=
  text.foldr insertMark []

/-- What the first character of a pair is composed to, by the words of a table. -/
def compositionIn? (first : Char) (text : String) : Option Char :=
  (partsAt ' ' text).findSome? fun word =>
    match word.toList with
    | [c, composite] => if c = first then some composite else none
    | _ => none

/-- The character that two characters are composed to. -/
def composition? (first second : Char) : Option Char :=
  ((Hangul.compose? first.toNat second.toNat).map Char.ofNat).or <|
    NormalizationData.compositions.findSome? fun (code, text) =>
      if code = second.toNat then compositionIn? first text else none

/-- Composes the characters behind a base with it. A mark is kept from the base by one between them
that is not of a lower class; those marks stand in reverse. -/
def composedFrom (base : Char) (between : List Char) : List Char → List Char
  | [] => base :: between.reverse
  | c :: rest =>
    let isFree :=
      match between with
      | [] => true
      | mark :: _ => combiningClass mark < combiningClass c
    match if isFree then composition? base c else none with
    | some composite => composedFrom composite between rest
    | none =>
      if combiningClass c = 0 then base :: between.reverse ++ composedFrom c [] rest
      else composedFrom base (c :: between) rest

/-- Composes characters; marks without a base before them stay. -/
def composed : List Char → List Char
  | [] => []
  | c :: rest => if combiningClass c = 0 then composedFrom c [] rest else c :: composed rest

/-- The normal form of a name. Plain names are in it. -/
def normalized (name : String) : String :=
  if name.toList.all (·.toNat < 0x80) then name
  else String.ofList (composed (ordered (name.toList.flatMap decomposed)))

end WireModel.Text
