import WireModel.Json.Reader
import WireModel.Render.JavaLiteral

/-!
How Java reads a string literal. Unicode escapes are translated before anything else is told apart;
then a literal runs to the first quote that stands behind no backslash of an escape sequence. The
literal of a text is read as that text and ends where it ends, whatever stands behind it, but for a
text with a carriage return: a literal may not hold one, and it is not escaped.
-/

namespace WireModel.Render

/-- Where the translation of Unicode escapes stands: in text, with an even number of backslashes
right in front or an odd one, or behind the letter of an escape. -/
inductive TranslationMode where
  | text (even : Bool)
  | marked
  deriving DecidableEq, Repr

/-- The text with its Unicode escapes translated, unless one of them is malformed. A backslash
begins an escape only behind an even number of backslashes; what an escape stands for begins
none. -/
def translatedFrom? : TranslationMode → List Char → Option (List Char)
  | .text _, [] => some []
  | .text true, '\\' :: 'u' :: rest => translatedFrom? .marked rest
  | .text even, c :: rest => (c :: ·) <$> translatedFrom? (.text (c != '\\' || !even)) rest
  | .marked, 'u' :: rest => translatedFrom? .marked rest
  | .marked, a :: b :: c :: d :: rest => do
    let (unit, _) ← Json.Reader.readUnit? [a, b, c, d]
    return Text.ofCode unit ++ (← translatedFrom? (.text true) rest)
  | .marked, _ => none

/-- Source text with its Unicode escapes translated. -/
def translated? (source : List Char) : Option (List Char) :=
  translatedFrom? (.text true) source

/-- The character that a letter behind a backslash stands for. -/
def escapedLetter? : Char → Option Char
  | 'b' => some '\x08'
  | 's' => some ' '
  | 't' => some '\t'
  | 'n' => some '\n'
  | 'f' => some '\x0c'
  | 'r' => some '\r'
  | '"' => some '"'
  | '\'' => some '\''
  | '\\' => some '\\'
  | _ => none

/-- What stands behind a backslash: the character that it stands for, and how many characters it
takes. Digits of base 8 give the number of a character below 256, as many of them as can. -/
def escapeSequence? : List Char → Option (Char × Nat)
  | [] => none
  | c :: rest =>
    match escapedLetter? c with
    | some character => some (character, 1)
    | none =>
      let width := if c ≤ '3' then 2 else 1
      let digits := (c :: rest.take width).takeWhile fun d => '0' ≤ d && d ≤ '7'
      if digits.isEmpty then none
      else some (Char.ofNat (digits.foldl (fun code d => 8 * code + (d.toNat - 48)) 0),
        digits.length)

/-- The value of the rest of a literal up to the quote that ends it, and the text behind that quote.
A literal ends in its line. The number counts the characters that are still to be passed. -/
def readLiteralFrom? : Nat → List Char → Option (List Char × List Char)
  | _, [] => none
  | passed + 1, _ :: rest => readLiteralFrom? passed rest
  | 0, '"' :: rest => some ([], rest)
  | 0, '\\' :: rest => do
    let (character, width) ← escapeSequence? rest
    let (value, behind) ← readLiteralFrom? width rest
    return (character :: value, behind)
  | 0, c :: rest =>
    if c = '\n' || c = '\r' then none
    else do
      let (value, behind) ← readLiteralFrom? 0 rest
      return (c :: value, behind)

/-- The value of the string literal that stands first in a text, and the text behind it. Three
quotes begin a literal of several lines, which is another one. -/
def readLiteral? : List Char → Option (List Char × List Char)
  | '"' :: '"' :: '"' :: _ => none
  | '"' :: rest => readLiteralFrom? 0 rest
  | _ => none

/-- The value of the string literal that stands first in source text, and the translated text behind
it. -/
def readSource? (source : List Char) : Option (List Char × List Char) :=
  translated? source >>= readLiteral?

/-- No Unicode escape begins in the text, however the source text goes on behind it. -/
def Untranslated (text : List Char) : Prop :=
  ∀ rest, translated? (text ++ rest) = (text ++ ·) <$> translated? rest

namespace Untranslated

theorem append {text other : List Char} (first : Untranslated text) (last : Untranslated other) :
    Untranslated (text ++ other) := by
  intro rest
  rw [List.append_assoc, first, last, Functor.map_map]
  simp only [List.append_assoc]

theorem flatMap {text : List Char} {image : Char → List Char} (each : ∀ c, Untranslated (image c)) :
    Untranslated (text.flatMap image) := by
  induction text with
  | nil => exact fun rest => (id_map _).symm
  | cons c rest ih => exact (each c).append ih

/-- A backslash whose escape sequence goes on with a character other than `u`. -/
theorem escape {c : Char} (other : c ≠ 'u') : Untranslated ['\\', c] := by
  intro rest
  have second : translatedFrom? (.text false) (c :: rest) =
      (c :: ·) <$> translatedFrom? (.text true) rest := by
    simp [translatedFrom?]
  have first : translatedFrom? (.text true) ('\\' :: c :: rest) =
      ('\\' :: ·) <$> translatedFrom? (.text false) (c :: rest) := by
    simp [translatedFrom?, other]
  rw [translated?, List.cons_append, List.singleton_append, first, second, Functor.map_map]
  rfl

theorem plain {c : Char} (plain : c ≠ '\\') : Untranslated [c] := by
  intro rest
  have follows : (c != '\\') = true := bne_iff_ne.mpr plain
  simp [translated?, translatedFrom?, plain, follows]

end Untranslated

/-- The literal of a text begins no Unicode escape. -/
theorem untranslated_javaString (text : String) : Untranslated (javaString text).toList := by
  have quote : Untranslated ['"'] := .plain (by decide)
  have each (c : Char) : Untranslated (javaEscaped c) := by
    rw [javaEscaped]
    split
    · exact .escape (by decide)
    · split
      · exact .escape (by decide)
      · split
        · exact .escape (by decide)
        · next backslash _ _ => exact .plain backslash
  rw [javaString, String.toList_ofList, List.cons_append]
  exact quote.append ((Untranslated.flatMap each).append quote)

/-- A character is read back from a literal, but for a carriage return, in front of which no literal
ends. -/
theorem readLiteralFrom_javaEscaped {c : Char} {rest : List Char} :
    readLiteralFrom? 0 (javaEscaped c ++ rest) =
      if c = '\r' then none
      else (readLiteralFrom? 0 rest).map fun (value, behind) => (c :: value, behind) := by
  have escape {letter c : Char} (known : escapedLetter? letter = some c) :
      readLiteralFrom? 0 ('\\' :: letter :: rest) =
        (readLiteralFrom? 0 rest).map fun (value, behind) => (c :: value, behind) := by
    rw [readLiteralFrom?, escapeSequence?, known]
    cases found : readLiteralFrom? 0 rest <;> simp [readLiteralFrom?, found]
  rw [javaEscaped]
  split
  · next backslash =>
    subst backslash
    exact escape rfl
  · next noBackslash =>
    split
    · next quote =>
      subst quote
      exact escape rfl
    · next noQuote =>
      split
      · next lineEnd =>
        subst lineEnd
        exact escape rfl
      · next noLineEnd =>
        rw [List.singleton_append, readLiteralFrom?]
        · cases readLiteralFrom? 0 rest <;> simp [noLineEnd]
        · exact noQuote
        · exact noBackslash

/-- The inside of the literal of a text and the quote behind it are read as that text. -/
theorem readLiteralFrom_literal {chars rest : List Char} :
    readLiteralFrom? 0 (chars.flatMap javaEscaped ++ '"' :: rest) =
      if '\r' ∈ chars then none else some (chars, rest) := by
  induction chars with
  | nil => rfl
  | cons c others ih =>
    rw [List.flatMap_cons, List.append_assoc, readLiteralFrom_javaEscaped, ih]
    by_cases first : c = '\r'
    · simp [first]
    · by_cases later : '\r' ∈ others
      · simp [later]
      · simp [later, first, Ne.symm first]

theorem readLiteral_of_single {rest : List Char} (single : ∀ behind, rest ≠ '"' :: '"' :: behind) :
    readLiteral? ('"' :: rest) = readLiteralFrom? 0 rest := by
  rw [readLiteral?]
  rintro behind ⟨⟩
  exact single behind rfl

/-- The literal of a text does not begin like one of several lines. -/
theorem single_of_javaEscaped {chars behind : List Char} (apart : chars = [] →
      behind.head? ≠ some '"')
    (others : List Char) : chars.flatMap javaEscaped ++ '"' :: behind ≠ '"' :: '"' :: others := by
  cases chars with
  | nil =>
    rintro ⟨⟩
    exact apart rfl rfl
  | cons c rest =>
    rw [List.flatMap_cons, javaEscaped]
    split
    · exact fun same => by cases same
    · split
      · exact fun same => by cases same
      · next noQuote =>
        split
        · exact fun same => by cases same
        · exact fun same => noQuote (List.cons.inj same).1

/-- The literal of a text with a carriage return is none. The literal of any other text is read as
that text and ends with its last quote, whatever source text stands behind it; behind the literal of
the empty text there must be no third quote. -/
theorem readSource_javaString (text : String) (rest : List Char)
    (apart : text = "" → ∀ behind, translated? rest = some behind → behind.head? ≠ some '"') :
    readSource? ((javaString text).toList ++ rest) =
      if '\r' ∈ text.toList then none
      else (translated? rest).map fun behind => (text.toList, behind) := by
  rw [readSource?, untranslated_javaString]
  cases translation : translated? rest with
  | none => simp
  | some behind =>
    have opens : (javaString text).toList ++ behind =
        '"' :: (text.toList.flatMap javaEscaped ++ '"' :: behind) := by
      simp [javaString]
    have single := @single_of_javaEscaped text.toList behind fun empty =>
      apart (String.toList_eq_nil_iff.mp empty) behind translation
    calc some ((javaString text).toList ++ behind) >>= readLiteral?
      _ = readLiteral? ((javaString text).toList ++ behind) := Option.bind_some ..
      _ = readLiteral? ('"' :: (text.toList.flatMap javaEscaped ++ '"' :: behind)) := by rw [opens]
      _ = readLiteralFrom? 0 (text.toList.flatMap javaEscaped ++ '"' :: behind) :=
        readLiteral_of_single single
      _ = if '\r' ∈ text.toList then none else some (text.toList, behind) := readLiteralFrom_literal

/-- The empty text, and backslashes in front of `u`, of a quote and of a line end. -/
theorem readSource_javaString_backslashes :
    (∀ behind, translated? [')'] = some behind → behind.head? ≠ some '"') ∧
      readSource? ((javaString "").toList ++ [')']) = some ([], [')']) ∧
      readSource? ((javaString "\\u0041\\\"\\\n\"").toList ++ [')']) =
        some ("\\u0041\\\"\\\n\"".toList, [')']) := by
  have apart : ∀ behind, translated? [')'] = some behind → behind.head? ≠ some '"' := by
    rintro behind ⟨⟩
    decide
  exact ⟨apart, (readSource_javaString "" [')'] fun _ => apart).trans (by decide),
    (readSource_javaString "\\u0041\\\"\\\n\"" [')'] fun _ => apart).trans (by decide)⟩

/-- A carriage return stands in its literal as it is, and ends the line there. -/
theorem not_readSource_carriageReturn :
    ¬ ∀ text : String, readSource? (javaString text).toList = some (text.toList, []) := by
  intro reads
  exact absurd (reads "\r") (by decide)

end WireModel.Render
