import WireModel.Error
import WireModel.Text.Digit

/-!
The arguments of the command: references to types, and options that may be shortened and may carry
their value behind `=` or, when short, directly.
-/

namespace WireModel.Command

open Text

/-- The options. -/
inductive Flag where
  | help
  | target
  | package
  | outputDir
  | path
  deriving DecidableEq, Repr

def spellings : List (String × Flag) := [
  ("-h", .help), ("--help", .help), ("--target", .target), ("-t", .target), ("--package", .package),
  ("-p", .package), ("--output-dir", .outputDir), ("-o", .outputDir), ("--path", .path)]

/-- What an argument is taken for. -/
inductive Piece where
  | value (text : String)
  /-- Two dashes: all that follows is a value. -/
  | dashes
  /-- An option and the value that it carries. -/
  | option (flag : Flag) (carried : Option String)
  /-- The letter for help with more letters behind. -/
  | bundle (letters : List Char)
  | unknown (text : String)
  deriving DecidableEq, Repr

def withoutLineEnd (text : List Char) : List Char :=
  if text.getLast? = some '\n' then text.dropLast else text

/-- A text that is a negative number; it may end in an end of line. -/
def isNegativeNumber (text : List Char) : Bool :=
  match withoutLineEnd text with
  | '-' :: rest =>
    let digits (text : List Char) : Bool := !text.isEmpty && text.all fun c =>
      (digitValue? c).isSome
    let whole := rest.takeWhile fun c => (digitValue? c).isSome
    match rest.drop whole.length with
    | [] => !whole.isEmpty
    | '.' :: fraction => digits fraction
    | _ => false
  | _ => false

/-- The texts before and behind the first equals sign. -/
def splitAtEquals (text : String) : Option (String × String) :=
  let before := text.toList.takeWhile (· != '=')
  match text.toList.drop before.length with
  | [] => none
  | _ :: behind => some (String.ofList before, String.ofList behind)

/-- The options that an argument may be short for, with the value that it carries. -/
def candidates (text : String) : List (Flag × Option String) :=
  match text.toList with
  | '-' :: '-' :: _ =>
    let (front, carried) :=
      match splitAtEquals text with
      | some (front, value) => (front, some value)
      | none => (text, none)
    spellings.filterMap fun (spelling, flag) =>
      if front.toList.isPrefixOf spelling.toList then some (flag, carried) else none
  | dash :: letter :: rest =>
    spellings.filterMap fun (spelling, flag) =>
      if spelling.toList = [dash, letter] then some (flag, some (String.ofList rest))
      else none
  | _ => []

/-- The piece of an argument that names an option: behind the letter for help stand further letters,
and not a value. -/
def Piece.ofOption (text : String) (flag : Flag) (carried : Option String) : Piece :=
  match flag, carried, text.toList with
  | .help, some letters, '-' :: '-' :: _ => .option .help (some letters)
  | .help, some letters, _ => .bundle letters.toList
  | flag, carried, _ => .option flag carried

/-- What an argument is taken for; a short form of several options is none. -/
def classify? (text : String) : Option Piece :=
  if text.toList.head? ≠ some '-' || text.length = 1 then some (.value text)
  else
    match spellings.lookup text with
    | some flag => some (.option flag none)
    | none =>
      let exact := (splitAtEquals text).bind fun (front, value) =>
        (spellings.lookup front).map fun flag => Piece.ofOption text flag (some value)
      match exact with
      | some piece => some piece
      | none =>
        match candidates text with
        | [(flag, carried)] => some (.ofOption text flag carried)
        | _ :: _ :: _ => none
        | [] =>
          if isNegativeNumber text.toList || text.toList.contains ' ' then some (.value text)
          else some (.unknown text)

/-- What the arguments are taken for; behind two dashes all are values. -/
def classifyAll? : List String → Option (List Piece)
  | [] => some []
  | "--" :: rest => some (.dashes :: rest.map .value)
  | text :: rest => do
    let piece ← classify? text
    return piece :: (← classifyAll? rest)

/-- What is asked of the command. -/
structure Arguments where
  types : List String
  target : Target
  package : String
  outputDir : String
  paths : List String
  deriving Repr

/-- What comes of reading the arguments. -/
inductive Reading where
  | arguments (arguments : Arguments)
  | help
  | refused
  deriving Repr

/-- What was read so far. -/
structure Progress where
  arguments : Arguments
  /-- The values of the run that goes on. -/
  run : Option (List String)
  /-- The run with the references is still to come. -/
  isOpen : Bool
  /-- Something is left over. -/
  hasExtras : Bool

namespace Progress

def start : Progress :=
  ⟨⟨[], .java, "", "generated", []⟩, none, true, false⟩

/-- Takes a value into the run that goes on, or begins one. -/
def takeValue (progress : Progress) (value : String) : Progress :=
  { progress with run := some (progress.run.getD [] ++ [value]) }

/-- Ends the run that goes on: the first one with values holds the references. -/
def endRun (progress : Progress) : Progress :=
  match progress.run with
  | none => progress
  | some values =>
    if progress.isOpen && !values.isEmpty then
      ⟨{ progress.arguments with types := values }, none, false, progress.hasExtras⟩
    else
      { progress with run := none, hasExtras := true }

end Progress

def targetNamed? : String → Option Target
  | "java" => some .java
  | "python" => some .python
  | _ => none

def setOption? (arguments : Arguments) (flag : Flag) (value : String) : Option Arguments :=
  match flag with
  | .help => none
  | .target => (targetNamed? value).map fun target => { arguments with target := target }
  | .package => some { arguments with package := value }
  | .outputDir => some { arguments with outputDir := value }
  | .path => some { arguments with paths := arguments.paths ++ [value] }

/-- The letters behind the one for help are further options: more of the same, up to one that takes
a value, which is what follows the letter or else the next piece. -/
def isBundle : List Char → List Piece → Bool
  | [], _ => false
  | letter :: more, rest =>
    match spellings.lookup (String.ofList ['-', letter]), more, rest with
    | none, _, _ => false
    | some .help, [], _ => true
    | some .help, more, rest => isBundle more rest
    | some _, _ :: _, _ => true
    | some _, [], .value _ :: _ => true
    | some _, [], _ => false

/-- Reads the pieces from the left: a run of values, with or without dashes, ends at an option, and
each option takes its value. -/
def readPieces (progress : Progress) : List Piece → Reading
  | [] =>
    let progress := progress.endRun
    if progress.hasExtras || progress.arguments.types.isEmpty then .refused
    else .arguments progress.arguments
  | .value text :: rest => readPieces (progress.takeValue text) rest
  | .dashes :: rest => readPieces { progress with run := some (progress.run.getD []) } rest
  | .unknown _ :: rest => readPieces { progress.endRun with hasExtras := true } rest
  | .bundle letters :: rest => if isBundle letters rest then .help else .refused
  | .option .help none :: _ => .help
  | .option flag (some value) :: rest =>
    let progress := progress.endRun
    match setOption? progress.arguments flag value with
    | some arguments => readPieces { progress with arguments := arguments } rest
    | none => .refused
  | .option flag none :: .value value :: rest =>
    let progress := progress.endRun
    match setOption? progress.arguments flag value with
    | some arguments => readPieces { progress with arguments := arguments } rest
    | none => .refused
  | .option _ none :: _ => .refused

def readArguments (arguments : List String) : Reading :=
  match classifyAll? arguments with
  | some pieces => readPieces .start pieces
  | none => .refused

/-- How the command is used. -/
def usage : List String := [
  "usage: wire-model [-h] [--target java|python] [--package PACKAGE] [--output-dir DIRECTORY]",
  "                  [--path DIRECTORY] module:Type [module:Type ...]"]

end WireModel.Command
