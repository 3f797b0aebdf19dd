import WireModel.Text.CharTable
import WireModel.Text.PrintableData
import WireModel.Text.Surrogate

/-!
Quoted text as it stands in messages, in values shown and in generated sources: single quotes
unless the text holds a single quote and no double one, and escapes for what cannot be shown.
-/

namespace WireModel.Text

/-- A digit of base 16 in lower case. -/
def hexDigit (value : Nat) : Char :=
  if value < 10 then Char.ofNat (48 + value) else Char.ofNat (87 + value)

/-- The last `width` digits of a number in base 16. -/
def hexDigits : Nat → Nat → List Char
  | 0, _ => []
  | width + 1, value => hexDigits width (value / 16) ++ [hexDigit (value % 16)]

/-- The character is shown as itself inside quotes. -/
def isPrintable (c : Char) : Bool :=
  inRanges PrintableData.printable c

/-- One code point between quotes of the given kind. -/
def quotedCode (quote : Char) (code : Nat) : List Char :=
  let c := Char.ofNat code
  if c = quote || c = '\\' then ['\\', c]
  else if c = '\n' then ['\\', 'n']
  else if c = '\r' then ['\\', 'r']
  else if c = '\t' then ['\\', 't']
  else if isPrintable c && !isSurrogate code then [c]
  else if code < 0x100 then ['\\', 'x'] ++ hexDigits 2 code
  else if code < 0x10000 then ['\\', 'u'] ++ hexDigits 4 code
  else ['\\', 'U'] ++ hexDigits 8 code

def quoteOf (text : List Char) : Char :=
  if '\'' ∈ text ∧ '"' ∉ text then '"' else '\''

def quoted (text : String) : String :=
  let quote := quoteOf text.toList
  String.ofList (quote :: (codes text).flatMap (quotedCode quote) ++ [quote])

/-- One byte between quotes of the given kind. -/
def quotedByte (quote : Char) (byte : Nat) : List Char :=
  let c := Char.ofNat byte
  if c = quote || c = '\\' then ['\\', c]
  else if c = '\n' then ['\\', 'n']
  else if c = '\r' then ['\\', 'r']
  else if c = '\t' then ['\\', 't']
  else if 0x20 ≤ byte && byte < 0x7f then [c]
  else ['\\', 'x'] ++ hexDigits 2 byte

def quotedBytes (bytes : List Nat) : String :=
  let quote := quoteOf (bytes.map Char.ofNat)
  String.ofList ('b' :: quote :: bytes.flatMap (quotedByte quote) ++ [quote])

end WireModel.Text
