import WireModel.Text.Quoted

/-!
Encodings: how a text is written as bytes, how bytes are read as a text, and where that fails.
-/

namespace WireModel.Text

/-- The encodings. -/
inductive Encoding where
  | utf8
  | ascii
  | latin1
  deriving DecidableEq, Repr

/-- What is done with a code point or a byte that an encoding does not have. -/
inductive Substitution where
  | strict
  | ignore
  | mark
  | escape
  | reference
  deriving DecidableEq, Repr

/-- A run of code points that cannot be written, or of bytes that cannot be read: the place of the
first one, how many there are, and why. -/
structure CodingError where
  first : Nat
  count : Nat
  reason : String

namespace Encoding

/-- The encoding of a name, in which case does not count and an underscore or a blank is a
hyphen. -/
def named? (name : String) : Option Encoding :=
  let name := name.map fun c => if c = '_' || c = ' ' then '-' else c.toLower
  if name ∈ ["utf-8", "utf8", "u8", "utf", "utf8-ucs2", "utf8-ucs4", "cp65001"] then some utf8
  else if name ∈ ["ascii", "us-ascii", "646", "ansi-x3.4-1968", "iso646-us", "us"] then some ascii
  else if name ∈
      ["latin-1", "latin1", "iso-8859-1", "iso8859-1", "8859", "cp819", "l1", "latin"] then
    some latin1
  else none

def name : Encoding → String
  | utf8 => "utf-8"
  | ascii => "ascii"
  | latin1 => "latin-1"

/-- The code points from this one on are missing. -/
def bound : Encoding → Nat
  | utf8 => 0x110000
  | ascii => 0x80
  | latin1 => 0x100

def has (encoding : Encoding) (code : Nat) : Bool :=
  code < encoding.bound && (encoding != utf8 || !isSurrogate code)

def bytesOf (encoding : Encoding) (code : Nat) : List Nat :=
  match encoding with
  | ascii | latin1 => [code]
  | utf8 =>
    if code < 0x80 then [code]
    else if code < 0x800 then [0xc0 + code / 64, 0x80 + code % 64]
    else if code < 0x10000 then [0xe0 + code / 4096, 0x80 + code / 64 % 64, 0x80 + code % 64]
    else [0xf0 + code / 262144, 0x80 + code / 4096 % 64, 0x80 + code / 64 % 64, 0x80 + code % 64]

/-- Why a code point is missing. -/
def missingReason : Encoding → String
  | utf8 => "surrogates not allowed"
  | ascii => "ordinal not in range(128)"
  | latin1 => "ordinal not in range(256)"

/-- What stands in the place of a code point that is missing. -/
def replacement (code : Nat) : Substitution → List Char
  | .strict | .ignore => []
  | .mark => ['?']
  | .escape =>
    '\\' :: (if code < 0x100 then 'x' :: hexDigits 2 code
      else if code < 0x10000 then 'u' :: hexDigits 4 code
      else 'U' :: hexDigits 8 code)
  | .reference => "&#".toList ++ Nat.toDigits 10 code ++ [';']

/-- The bytes of some code points, of which those that are missing are replaced. -/
def write (encoding : Encoding) (substitution : Substitution) (codes : List Nat) :
    Except CodingError (List Nat) :=
  let before := codes.takeWhile encoding.has
  let missing := (codes.drop before.length).takeWhile (!encoding.has ·)
  if substitution = .strict && !missing.isEmpty then
    .error ⟨before.length, missing.length, encoding.missingReason⟩
  else
    .ok (codes.flatMap fun code =>
      if encoding.has code then encoding.bytesOf code
      else (replacement code substitution).map Char.toNat)

/-- The byte continues a code point. -/
def continues (byte : Nat) : Bool :=
  0x80 ≤ byte && byte < 0xc0

/-- How many bytes a code point has, by its first byte, and between what its second one lies. -/
def shapeOf? (byte : Nat) : Option (Nat × Nat × Nat) :=
  if byte < 0x80 then some (1, 0, 0)
  else if 0xc2 ≤ byte && byte < 0xe0 then some (2, 0x80, 0xbf)
  else if byte = 0xe0 then some (3, 0xa0, 0xbf)
  else if byte = 0xed then some (3, 0x80, 0x9f)
  else if 0xe1 ≤ byte && byte < 0xf0 then some (3, 0x80, 0xbf)
  else if byte = 0xf0 then some (4, 0x90, 0xbf)
  else if byte = 0xf4 then some (4, 0x80, 0x8f)
  else if 0xf1 ≤ byte && byte < 0xf4 then some (4, 0x80, 0xbf)
  else none

/-- The code point at the front of some bytes and how many bytes it takes, or how many bytes are
none and why. -/
def readCode (byte : Nat) (rest : List Nat) : Except (Nat × String) (Nat × Nat) :=
  match shapeOf? byte with
  | none => .error (1, "invalid start byte")
  | some (1, _, _) => .ok (byte, 1)
  | some (size, low, high) =>
    let fits (place next : Nat) : Bool :=
      if place = 0 then low ≤ next && next ≤ high else continues next
    let behind := rest.take (size - 1)
    let good := ((behind.zipIdx).takeWhile fun (next, place) => fits place next).length
    if good = size - 1 then
      let lead := byte % (if size = 2 then 32 else if size = 3 then 16 else 8)
      .ok (behind.foldl (fun code next => code * 64 + next % 64) lead, size)
    else if good = behind.length then .error (good + 1, "unexpected end of data")
    else .error (good + 1, "invalid continuation byte")

/-- The code points of some bytes, given how many bytes of the last one are still to be passed. -/
def readFrom (encoding : Encoding) (substitution : Substitution) (place : Nat) :
    Nat → List Nat → Except CodingError (List Nat)
  | _, [] => .ok []
  | passed + 1, _ :: rest => readFrom encoding substitution (place + 1) passed rest
  | 0, byte :: rest => do
    let outcome : Except (Nat × String) (Nat × Nat) :=
      match encoding with
      | utf8 => readCode byte rest
      | encoding => if encoding.has byte then .ok (byte, 1) else .error (1, encoding.missingReason)
    let (codes, size) ←
      match outcome, substitution with
      | .ok (code, size), _ => pure ([code], size)
      | .error (size, reason), .strict => throw ⟨place, size, reason⟩
      | .error (size, _), .ignore => pure ([], size)
      | .error (size, _), .escape =>
        pure (((byte :: rest).take size).flatMap fun byte =>
          ('\\' :: 'x' :: hexDigits 2 byte).map Char.toNat, size)
      | .error (size, _), _ => pure ([0xfffd], size)
    return codes ++ (← readFrom encoding substitution (place + 1) (size - 1) rest)

def read (encoding : Encoding) (substitution : Substitution) (bytes : List Nat) :
    Except CodingError (List Nat) :=
  readFrom encoding substitution 0 0 bytes

end Encoding

def Substitution.named? (name : String) : Option Substitution :=
  match name with
  | "strict" => some .strict
  | "ignore" => some .ignore
  | "replace" => some .mark
  | "backslashreplace" => some .escape
  | "xmlcharrefreplace" => some .reference
  | _ => none

end WireModel.Text
