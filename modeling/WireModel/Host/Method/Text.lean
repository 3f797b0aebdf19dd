import WireModel.Host.Format.Template
import WireModel.Host.Method.Encoding
import WireModel.Host.Operation.Binary
import WireModel.Text.Case
import WireModel.Text.Class
import WireModel.Text.Identifier
import WireModel.Text.Search

/-!
Methods of texts: what they ask of a text, make of it, find in it and divide it into, and how they
fill it in.
-/

namespace WireModel

open Text

namespace HostType

/-- What a method tells about a text. -/
def textQuestion? (content name : String) : Option Bool :=
  let characters := (Text.characters content).toList
  match name with
  | "isalnum" => some (isAllOf (fun c => isLetter c || isNumber c) characters)
  | "isalpha" => some (isAllOf isLetter characters)
  | "isascii" => some ((codes content).all (· < 0x80))
  | "isdecimal" => some (isAllOf isDecimalDigit characters)
  | "isdigit" => some (isAllOf isAnyDigit characters)
  | "isidentifier" => some (isIdentifier content)
  | "islower" => some (isLowerText characters)
  | "isnumeric" => some (isAllOf isNumber characters)
  | "isprintable" => some ((codes content).all fun code =>
      isPrintable (Char.ofNat code) && !isSurrogate code)
  | "isspace" => some (isAllOf isWordBlank characters)
  | "istitle" => some (isTitledText characters)
  | "isupper" => some (isUpperText characters)
  | _ => Option.none

/-- What a method makes of the letters of a text. -/
def recasedText? (content name : String) : Option String :=
  let recased (change : List Char → List Char) : Option String :=
    some (String.ofList (change content.toList))
  match name with
  | "capitalize" => recased capitalized
  | "casefold" => recased folded
  | "lower" => recased lower
  | "swapcase" => recased swapped
  | "title" => recased titled
  | "upper" => recased upper
  | _ => Option.none

def rangeOf (given : Given) : Except Fault (Option Int × Option Int) := do
  return (← boundOf (given.at? 1), ← boundOf (given.at? 2))

def textSearch? (content name : String) (given : Given) : Option (Except Fault HostType) :=
  let place (fromEnd : Bool) : Except Fault (Option Int) := do
    let (first, last) ← rangeOf given
    return placeWithin? fromEnd (← textAt given 0 mustBeText) content first last
  let placeOrComplaint (fromEnd : Bool) : Except Fault HostType := do
    match ← place fromEnd with
    | some place => return ofInt place
    | Option.none => throw (.operation .wrongValue "substring not found")
  let touching (atEnd : Bool) : Except Fault HostType := do
    let (first, last) ← rangeOf given
    let isThere (part : String) : Bool := touches atEnd part content first last
    match given.at? 0 with
    | some (.container .tuple parts) =>
      let parts ← parts.mapM fun part =>
        match part.asText? with
        | some part => Except.ok part
        | Option.none =>
          .error (.wrongOperands ("tuple for " ++ name ++ " must only contain str, not " ++
            part.typeName))
      return ofBool (parts.any isThere)
    | _ =>
      return ofBool (isThere (← textAt given 0 fun part =>
        name ++ " first arg must be str or a tuple of str, not " ++ part.typeName))
  match name with
  | "count" => some do
    let (first, last) ← rangeOf given
    return ofInt (occurrencesWithin (← textAt given 0 mustBeText) content first last)
  | "find" => some do return ofInt ((← place false).getD (-1))
  | "rfind" => some do return ofInt ((← place true).getD (-1))
  | "index" => some (placeOrComplaint false)
  | "rindex" => some (placeOrComplaint true)
  | "startswith" => some (touching false)
  | "endswith" => some (touching true)
  | _ => Option.none

def separatorOf (content : String) : Except Fault String :=
  if content.isEmpty then .error (.operation .wrongValue "empty separator") else .ok content

/-- A bound on how often something is done, where one below zero is none. -/
def limitOf (given : Option HostType) : Except Fault (Option Nat) := do
  match given with
  | Option.none => return Option.none
  | some type =>
    let limit ← type.asSize
    return if limit < 0 then Option.none else some limit.toNat

/-- The pieces of a text between separators, or its words. -/
def splitText (fromEnd : Bool) (content : String) (given : Given) : Except Fault HostType := do
  let limit ← limitOf (given.at? 1)
  match given.at? 0 with
  | Option.none | some .none => return ofTexts (wordsWithin fromEnd limit content)
  | some _ =>
    let separator ← textAt given 0 fun type => "must be str or None, not " ++ type.typeName
    return ofTexts (divided fromEnd limit (← separatorOf separator) content)

/-- The texts that a value holds, with a text between them. -/
def joinTexts (model : Model) (content : String) (items : HostType) : Except Fault HostType := do
  let items ← match items.items? model with
    | some items => pure items
    | Option.none => throw (.wrongOperands "can only join an iterable")
  let texts ← items.zipIdx.mapM fun (item, place) =>
    match item.asText? with
    | some content => Except.ok content
    | Option.none =>
      .error (.wrongOperands ("sequence item " ++ toString place ++ ": expected str instance, " ++
        item.typeName ++ " found"))
  return .text (content.intercalate texts)

/-- What a method divides a text into, or joins with it. -/
def textDivision? (model : Model) (content name : String) (given : Given) :
    Option (Except Fault HostType) :=
  let parts (fromEnd : Bool) : Except Fault HostType := do
    let separator ← separatorOf (← textAt given 0 mustBeText)
    return .container .tuple ((parted fromEnd separator content).map .text)
  match name with
  | "split" => some (splitText false content given)
  | "rsplit" => some (splitText true content given)
  | "splitlines" => some do
    let keepsEnds ← match given.at? 0 with
      | some type => pure ((← type.asInteger) != 0)
      | Option.none => pure false
    return ofTexts (if keepsEnds then wholeLinesOf content else linesOf content)
  | "partition" => some (parts false)
  | "rpartition" => some (parts true)
  | "join" => some (joinTexts model content ((given.at? 0).getD .none))
  | _ => Option.none

/-- A text without some letters at its ends, or without blanks there. -/
def strippedText (atStart atEnd : Bool) (content name : String) (given : Given) :
    Except Fault HostType :=
  match given.at? 0 with
  | Option.none | some .none => .ok (.text (trimmed atStart atEnd isBlankLetter content))
  | some _ => do
    let dropped ← textAt given 0 fun _ => name ++ " arg must be None or str"
    return .text (trimmed atStart atEnd (letters dropped).contains content)

def fillOf (given : Option HostType) : Except Fault String :=
  match given with
  | Option.none => .ok " "
  | some type =>
    match type.asText? with
    | some fill =>
      if (letters fill).length = 1 then .ok fill
      else .error (.wrongOperands "The fill character must be exactly one character long")
    | Option.none =>
      .error (.wrongOperands
        ("The fill character must be a unicode character, not " ++ type.typeName))

def widthOf (given : Given) : Except Fault Int :=
  ((given.at? 0).getD .none).asSize

def changedText? (content name : String) (given : Given) : Option (Except Fault HostType) :=
  let free (width : Int) : Nat := (width - (letters content).length).toNat
  let inWidth (place : Int → String → String) : Except Fault HostType := do
    let width ← widthOf given
    return .text (place width (← fillOf (given.at? 1)))
  match name with
  | "strip" => some (strippedText true true content name given)
  | "lstrip" => some (strippedText true false content name given)
  | "rstrip" => some (strippedText false true content name given)
  | "center" => some (inWidth fun width fill => centered width fill content)
  | "ljust" => some (inWidth fun width fill => padded fill 0 (free width) content)
  | "rjust" => some (inWidth fun width fill => padded fill (free width) 0 content)
  | "zfill" => some do return .text (zeroFilled (← widthOf given) content)
  | "expandtabs" => some do
    let width ← match given.at? 0 with
      | some type => type.asInteger
      | Option.none => pure 8
    if width < -(Nat.pow 2 31 : Int) || (Nat.pow 2 31 : Int) ≤ width then
      throw (.operation .overflow "Python int too large to convert to C int")
    return .text (expanded width.toNat content)
  | "removeprefix" => some do
    return .text (withoutStart (← textAt given 0 (argumentMustBeText name "")) content)
  | "removesuffix" => some do
    return .text (withoutEnd (← textAt given 0 (argumentMustBeText name "")) content)
  | "replace" => some do
    let old ← textAt given 0 (argumentMustBeText name "1 ")
    let new ← textAt given 1 (argumentMustBeText name "2 ")
    let limit := (← limitOf (given.at? 2)).getD ((letters content).length + 1)
    return .text (substitutedUpTo limit old new content)
  | _ => Option.none

/-- The number that a key of a table of letters stands for. -/
def letterKey (key : HostType) : Except Fault HostType :=
  match key, key.asText? with
  | .constant (.int value), _ => .ok (ofInt value)
  | _, some content =>
    match codes content with
    | [code] => .ok (ofInt code)
    | _ => .error (.operation .wrongValue "string keys in translate table must be of length 1")
  | key, Option.none =>
    if key.integer?.isSome then .ok key
    else .error (.wrongOperands "keys in translate table must be strings or integers")

/-- A table of letters for other ones, and perhaps of letters for nothing. -/
def letterTable (given : Given) : Except Fault HostType := do
  let pair (key : Nat) (value : HostType) : HostType := .container .tuple [ofInt key, value]
  match given.at? 0, given.at? 1 with
  | some (.container .map pairs), Option.none =>
    let pairs ← pairs.mapM fun pair => do
      return HostType.container .tuple [← letterKey pair.keyOf, pair.valueOf]
    containerOf .map pairs
  | _, Option.none =>
    throw (.wrongOperands "if you give only one argument to maketrans it must be a dict")
  | some first, some _ =>
    let new ← textAt given 1 (argumentMustBeText "maketrans" "2 ")
    let dropped ← match given.at? 2 with
      | some _ => textAt given 2 (argumentMustBeText "maketrans" "3 ")
      | Option.none => pure ""
    let some old := first.asText? |
      throw (.wrongOperands
        "first maketrans argument must be a string if there is a second argument")
    if (codes old).length != (codes new).length then
      throw (.operation .wrongValue "the first two maketrans arguments must have equal length")
    let replaced := ((codes old).zip (codes new)).map fun (a, b) => pair a (ofInt b)
    containerOf .map (replaced ++ (codes dropped).map fun code => pair code .none)
  | Option.none, _ => throw .missingArgument

/-- The text that stands for a letter, by the value that a table has for it. -/
def substituteOf (value : HostType) : Except Fault String :=
  match value, value.asText?, value.integer? with
  | .none, _, _ => .ok ""
  | _, some content, _ => .ok content
  | _, _, some code =>
    if code < 0 || 0x110000 ≤ code then
      .error (.operation .wrongValue "character mapping must be in range(0x110000)")
    else .ok (ofCodes [code.toNat])
  | _, _, _ => .error (.wrongOperands "character mapping must return integer, None or str")

/-- A text with what a table has for its letters; those that it does not know stay. -/
def translated (model : Model) (content : String) (table : HostType) : Building HostType := do
  let substitute (code : Nat) : Building String :=
    tryCatch (do substituteOf (← table.indexed model (ofInt code))) fun fault =>
      match fault.kind with
      | .missingKey | .missingIndex => return ofCodes [code]
      | _ => throw fault
  let texts ← (codes content).mapM substitute
  return .text (String.join texts)

def textOperator? (model : Model) (content name : String) (given : Given) :
    Option (Building HostType) :=
  let other := (given.at? 0).getD .none
  match name with
  | "__add__" => some (binaryOperation model .add (.text content) other)
  | "__mul__" | "__rmul__" => some do return (HostType.text content).repeated (← other.asCount)
  | "__mod__" => some do return .text (← filledIn model false content other)
  | "__rmod__" => some do
    match other.asText? with
    | some template => return .text (← filledIn model false template (.text content))
    | Option.none => return undecided
  | "__contains__" => some do return ofBool (← other.isContained model (.text content))
  | "__getitem__" => some (itemAtKey model (.text content) other)
  | "__len__" => some do return ofInt (letters content).length
  | "__iter__" =>
    some do
      let typeName :=
        if (codes content).all (· < 0x80) then "str_ascii_iterator" else "str_iterator"
      return .container (.stream typeName) ((letters content).map .text)
  | "__str__" => some do return .text content
  | "__getnewargs__" => some do return .container .tuple [.text content]
  | _ => Option.none

def textMethod? (model : Model) (content name : String) (given : Given)
    (named : List (String × HostType)) : Option (Building HostType) :=
  let lifted (result : Except Fault HostType) : Building HostType := result
  let simple : Option (Except Fault HostType) :=
    ((((((textQuestion? content name).map fun answer => Except.ok (ofBool answer)).or
      ((recasedText? content name).map fun text => Except.ok (HostType.text text))).or
      (textSearch? content name given)).or
      (textDivision? model content name given)).or
      (changedText? content name given))
  match simple, name with
  | some result, _ => some (lifted result)
  | Option.none, "format" => some do
    return .text (← fillTemplate model content ⟨given.filterMap id, named⟩)
  | Option.none, "format_map" => some do
    return .text (← fillTemplateFrom model content ((given.at? 0).getD .none))
  | Option.none, "__format__" => some do
    let spec ← textAt given 0 (argumentMustBeText name "")
    return .text (← formatText "str" content spec)
  | Option.none, "maketrans" => some (lifted (letterTable given))
  | Option.none, "translate" => some (translated model content ((given.at? 0).getD .none))
  | Option.none, "encode" => some do
    let encoding ← match given.at? 0 with
      | some _ => textAt given 0 (argumentMustBeText name "'encoding' ")
      | Option.none => pure "utf-8"
    let errors ← match given.at? 1 with
      | some _ => textAt given 1 (argumentMustBeText name "'errors' ")
      | Option.none => pure "strict"
    return .constant (.bytes (← encoded encoding errors content))
  | Option.none, name => textOperator? model content name given

end HostType

end WireModel
