import WireModel.Host.Type
import WireModel.Number.Decimal
import WireModel.Number.Shortest
import WireModel.Text.CharacterName
import WireModel.Text.Identifier
import WireModel.Text.Quoted

/-!
The pieces that an expression is written in: words, numbers, string literals and symbols. Blanks and
comments part them; inside brackets ends of lines do too.
-/

namespace WireModel.Expression

open Text

/-- The kinds of string literals. -/
inductive LiteralKind where
  | text
  | bytes
  /-- A text with expressions in it. -/
  | formatted
  deriving DecidableEq, Repr, Inhabited

/-- The pieces that an expression is written in. -/
inductive Token where
  /-- A name in its normal form. -/
  | word (text : String)
  | keyword (text : String)
  | number (value : HostType)
  /-- A string literal; a raw one takes backslashes as they are. -/
  | literal (kind : LiteralKind) (isRaw : Bool) (content : List Char)
  | symbol (text : String)
  deriving Inhabited

def isInlineBlank (c : Char) : Bool :=
  c == ' ' || c == '\t' || c == '\x0c'

/-- Only blanks, comments and ends of lines follow. -/
def isBlankTail : Bool → List Char → Bool
  | _, [] => true
  | inComment, c :: rest =>
    if c == '\n' then isBlankTail false rest
    else if inComment || isInlineBlank c then isBlankTail inComment rest
    else c == '#' && isBlankTail true rest

/-- Drops the lines in front that hold only blanks and comments, and those that are joined to the
next one by a backslash alone. -/
def dropBlankLines : Nat → List Char → List Char
  | 0, text => text
  | lines + 1, '\\' :: '\n' :: rest => dropBlankLines lines rest
  | lines + 1, text =>
    let rest := text.dropWhile isInlineBlank
    let rest := if rest.head? = some '#' then rest.dropWhile (· != '\n') else rest
    match rest with
    | '\n' :: rest => dropBlankLines lines rest
    | _ => text

/-- Digits with single underscores between them, and the text behind. -/
def takeDigits? (isDigit : Char → Bool) : List Char → Option (List Char × List Char)
  | '_' :: c :: rest => do
    if !isDigit c then none
    let (digits, behind) ← takeDigits? isDigit rest
    some (c :: digits, behind)
  | c :: rest =>
    if isDigit c then do
      let (digits, behind) ← takeDigits? isDigit rest
      some (c :: digits, behind)
    else if c == '_' then none
    else some ([], c :: rest)
  | [] => some ([], [])

def wordsBehindNumbers : List (List Char) :=
  ["and", "else", "for", "if", "in", "is", "or", "not"].map String.toList

def isWordCharacter (c : Char) : Bool :=
  c.isAlphanum || c == '_' || 0x80 ≤ c.toNat

def endsNumber (text : List Char) : Bool :=
  match text with
  | [] => true
  | c :: _ => !isWordCharacter c || wordsBehindNumbers.any fun word => word.isPrefixOf text

def isDigitOf (base : Nat) (c : Char) : Bool :=
  match letterDigit? c with
  | some digit => digit < base
  | none => false

def markedNumber? (base : Nat) (text : List Char) : Option (HostType × List Char) := do
  let text := if text.head? = some '_' then text.drop 1 else text
  match text with
  | [] => none
  | c :: _ =>
    if !isDigitOf base c then none
    let (digits, behind) ← takeDigits? (isDigitOf base) text
    if (behind.head?.map isPlainDigit).getD false || !endsNumber behind then none
    some (.constant (.int (← natInBase? base 0 false digits)), behind)

/-- The power of ten of a number, as it is written. A letter that no digit follows is none. -/
def takePower? (text : List Char) : Option (List Char × List Char) :=
  match text with
  | c :: rest =>
    if c == 'e' || c == 'E' then
      let (sign, digits) :=
        match rest with
        | '+' :: digits => (['+'], digits)
        | '-' :: digits => (['-'], digits)
        | digits => ([], digits)
      if (digits.head?.map isPlainDigit).getD false then do
        let (digits, behind) ← takeDigits? isPlainDigit digits
        some ('e' :: sign ++ digits, behind)
      else if sign.isEmpty then some ([], text)
      else none
    else some ([], text)
  | [] => some ([], [])

def imaginary (size : Double) : HostType :=
  .constant (.complex (.zero false) size)

/-- A number that stands in front of a text, and the text behind it. Zeros may not lead an integer,
and an integer may not be too long. -/
def takeNumber? (text : List Char) : Option (HostType × List Char) := do
  if let '0' :: mark :: rest := text then
    if let some base := markedBase? mark then
      return ← markedNumber? base rest
  let (whole, behind) ← takeDigits? isPlainDigit text
  let (fraction, behind) ←
    match behind with
    | '.' :: rest =>
      if (rest.head?.map isPlainDigit).getD false then
        (takeDigits? isPlainDigit rest).map fun (digits, behind) => ('.' :: digits, behind)
      else some (['.'], rest)
    | behind => some ([], behind)
  let (power, behind) ← takePower? behind
  let isInteger := fraction.isEmpty && power.isEmpty
  let size? := (Decimal.read? (whole ++ fraction ++ power)).map Decimal.toDouble
  match behind with
  | 'j' :: behind | 'J' :: behind =>
    if endsNumber behind then some (imaginary (← size?), behind) else none
  | behind =>
    if !endsNumber behind then none
    else if isInteger then
      if maxIntegerDigits < whole.length then none
      else if whole.head? = some '0' && whole.any (· != '0') then none
      else some (.constant (.int (natOfDigits whole)), behind)
    else some (.constant (.float (← size?)), behind)

/-- The quotes that open a string literal. -/
def openingQuotes? : List Char → Option (List Char)
  | '\'' :: '\'' :: '\'' :: _ => some ['\'', '\'', '\'']
  | '"' :: '"' :: '"' :: _ => some ['"', '"', '"']
  | '\'' :: _ => some ['\'']
  | '"' :: _ => some ['"']
  | _ => none

/-- The kind of a string literal that a word in front of its quotes names, and whether it is raw. -/
def literalKind? (word : String) : Option (LiteralKind × Bool) :=
  match word with
  | "" | "u" => some (.text, false)
  | "r" => some (.text, true)
  | "b" => some (.bytes, false)
  | "br" | "rb" => some (.bytes, true)
  | "f" => some (.formatted, false)
  | "fr" | "rf" => some (.formatted, true)
  | _ => none

/-- The content of a string literal up to its closing quotes, and the text behind them. Only a
literal in triple quotes goes on over the end of a line that no backslash precedes. -/
def takeLiteral? (quotes : List Char) : List Char → Option (List Char × List Char)
  | '\\' :: c :: rest => do
    let (content, behind) ← takeLiteral? quotes rest
    some ('\\' :: c :: content, behind)
  | c :: rest =>
    if quotes.isPrefixOf (c :: rest) then some ([], (c :: rest).drop quotes.length)
    else if c == '\n' && quotes.length = 1 then none
    else do
      let (content, behind) ← takeLiteral? quotes rest
      some (c :: content, behind)
  | [] => none

def hexNumber? (digits : List Char) : Option Nat :=
  natInBase? 16 0 false digits

/-- Reads the name of a character between braces behind a mark: the character and how many the
escape takes. -/
def readNamed? : List Char → Option (List Char × Nat)
  | '\x7b' :: rest =>
    let name := rest.takeWhile (· != '\x7d')
    if name.isEmpty || name.length = rest.length then none
    else (characterNamed? name).map fun code => (ofCode code, name.length + 3)
  | _ => none

/-- Reads the escape behind a backslash: the characters it stands for and how many it takes. -/
def readEscape? (kind : LiteralKind) : List Char → Option (List Char × Nat)
  | [] => none
  | c :: rest =>
    let coded (width : Nat) : Option (List Char × Nat) := do
      let digits := rest.take width
      if digits.length < width || digits.contains '_' then none
      let code ← hexNumber? digits
      if code < 0x110000 then some (ofCode code, width + 1) else none
    let isText := kind != .bytes
    match c with
    | '\n' => some ([], 1)
    | '\\' => some (['\\'], 1)
    | '\'' => some (['\''], 1)
    | '"' => some (['"'], 1)
    | 'a' => some (['\x07'], 1)
    | 'b' => some (['\x08'], 1)
    | 'f' => some (['\x0c'], 1)
    | 'n' => some (['\n'], 1)
    | 'r' => some (['\r'], 1)
    | 't' => some (['\t'], 1)
    | 'v' => some (['\x0b'], 1)
    | 'x' => coded 2
    | 'u' => if isText then coded 4 else some (['\\', c], 1)
    | 'U' => if isText then coded 8 else some (['\\', c], 1)
    | 'N' => if isText then readNamed? rest else some (['\\', c], 1)
    | _ =>
      if '0' ≤ c && c ≤ '7' then
        let digits := (c :: rest.take 2).takeWhile fun d => '0' ≤ d && d ≤ '7'
        let code := digits.foldl (fun value d => value * 8 + (d.toNat - 48)) 0
        some ([Char.ofNat (if isText then code else code % 256)], digits.length)
      else
        some (['\\', c], 1)

/-- The characters that the content of a string literal stands for. -/
def unescaped? (kind : LiteralKind) : Nat → List Char → Option (List Char)
  | 0, _ => some []
  | _ + 1, [] => some []
  | fuel + 1, '\\' :: rest => do
    let (characters, width) ← readEscape? kind rest
    return characters ++ (← unescaped? kind fuel (rest.drop width))
  | fuel + 1, c :: rest => (unescaped? kind fuel rest).map (c :: ·)

/-- The characters that a string literal stands for. -/
def literalCharacters? (kind : LiteralKind) (isRaw : Bool) (content : List Char) :
    Option (List Char) :=
  if kind = .bytes && content.any (0x80 ≤ ·.toNat) then none
  else if isRaw then some content
  else unescaped? kind (content.length + 1) content

/-- The symbols of several characters, the longer ones first. -/
def longSymbols : List String := [
  "...", "**=", "//=", "<<=", ">>=", "!=", "%=", "&=", "**", "*=", "+=", "-=", "->", "//", "/=",
  ":=", "<<", "<=", "<>", "==", ">=", ">>", "@=", "^=", "|="]

def shortSymbols : List Char :=
  "%&()*+,-./:;<=>@[]^\x7b|\x7d~".toList

/-- The symbol that stands in front of a text. -/
def symbolAt? (text : List Char) : Option String :=
  (longSymbols.find? fun symbol => symbol.toList.isPrefixOf text).or
    ((text.head?.filter shortSymbols.contains).map fun c => String.ofList [c])

/-- The bracket that closes an opening one. -/
def closing? : String → Option Char
  | "(" => some ')'
  | "[" => some ']'
  | "\x7b" => some '\x7d'
  | _ => none

def isClosing (symbol : String) : Bool :=
  symbol == ")" || symbol == "]" || symbol == "\x7d"

def maxNesting : Nat := 200

/-- Divides a text into tokens, given the brackets that are open. An end of line outside brackets
ends the expression. -/
def tokens? : Nat → List Char → List Char → Option (List Token)
  | 0, _, _ => none
  | _ + 1, expected, [] => if expected.isEmpty then some [] else none
  | fuel + 1, expected, c :: rest =>
    if isInlineBlank c then tokens? fuel expected rest
    else if c == '#' then tokens? fuel expected (rest.dropWhile (· != '\n'))
    else if c == '\n' then
      if !expected.isEmpty then tokens? fuel expected rest
      else if isBlankTail false rest then some []
      else none
    else if c == '\\' then
      match rest with
      | '\n' :: next :: rest => tokens? fuel expected (next :: rest)
      | _ => none
    else if c == '.' && (rest.head?.map isPlainDigit).getD false || isPlainDigit c then do
      let (amount, behind) ← takeNumber? (c :: rest)
      return .number amount :: (← tokens? fuel expected behind)
    else
      let word := (c :: rest).takeWhile isWordCharacter
      let behind := (c :: rest).drop word.length
      match openingQuotes? behind with
      | some quotes => do
        let (kind, isRaw) ← literalKind? (String.ofList (word.map Char.toLower))
        let (content, behind) ← takeLiteral? quotes (behind.drop quotes.length)
        return .literal kind isRaw content :: (← tokens? fuel expected behind)
      | none =>
        if !word.isEmpty then
          let name := String.ofList word
          if isIdentifier name then
            let token :=
              if reservedWords.contains name then .keyword name else .word (normalized name)
            (tokens? fuel expected behind).map (token :: ·)
          else none
        else do
          let symbol ← symbolAt? (c :: rest)
          let behind := (c :: rest).drop symbol.length
          let expected ←
            match closing? symbol, expected with
            | some bracket, _ =>
              if expected.length < maxNesting then some (bracket :: expected) else none
            | none, bracket :: outer =>
              if !isClosing symbol then some expected
              else if symbol = String.ofList [bracket] then some outer
              else none
            | none, [] => if isClosing symbol then none else some []
          return .symbol symbol :: (← tokens? fuel expected behind)

end WireModel.Expression
