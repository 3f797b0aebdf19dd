import WireModel.Host.Call.Conversion
import WireModel.Host.Method.Number
import WireModel.Host.Method.Set
import WireModel.Host.Operation.Instance

/-!
Calls of classes whose instances hold values or walk over them: containers, ranges, bytes, and what
is made of several values at once.
-/

namespace WireModel

open Text

namespace HostType

/-- A map of what a value holds, and of values by name. -/
def makeMap (model : Model) (arguments : CallArguments) : Building HostType := do
  let rules := itemRules model
  let keep (_ : List (HostType × HostType)) : Changing Unit := pure ()
  let named := arguments.named.map fun (name, value) => (HostType.text name, value)
  let build : Changing HostType := do
    let entries ← match arguments.places with
      | [] => pure []
      | [others] => rules.updated keep [] others
      | places =>
        throw (.wrongOperands ("dict expected at most 1 argument, got " ++ toString places.length))
    let entries ← rules.bindAll keep entries (named.map fun entry => fun _ => pure entry)
    return .container .map (pairsOf entries)
  return (← build.run .none).1

def makeRange (places : List HostType) : Except Fault HostType := do
  let ofBounds (first last step : Int) : HostType :=
    .record .range [("start", ofInt first), ("stop", ofInt last), ("step", ofInt step)]
  match ← places.mapM asInteger with
  | [last] => return ofBounds 0 last 1
  | [first, last] => return ofBounds first last 1
  | [first, last, step] =>
    if step = 0 then throw (.operation .wrongValue "range() arg 3 must not be zero")
    return ofBounds first last step
  | _ => throw .missingArgument

/-- A range of places. -/
def makeSlice : List HostType → HostType
  | [last] => sliceValue .none last .none
  | [first, last] => sliceValue first last .none
  | first :: last :: step :: _ => sliceValue first last step
  | [] => sliceValue .none .none .none

/-- Bytes: so many zeros, some numbers, or a text in an encoding. -/
def makeBytes (model : Model) (given : Given) : Except Fault HostType := do
  let ofContent (content : List Nat) : HostType := .constant (.bytes content)
  match given.at? 0, given.at? 1 with
  | Option.none, _ => return ofContent []
  | some value, some _ =>
    let encoding ← textAt given 1 (argumentMustBeText "bytes" "'encoding' ")
    let errors ← match given.at? 2 with
      | some _ => textAt given 2 (argumentMustBeText "bytes" "'errors' ")
      | Option.none => pure "strict"
    match value.asText? with
    | some content => return ofContent (← encoded encoding errors content)
    | Option.none => throw (.wrongOperands "encoding without a string argument")
  | some value, Option.none =>
    match value.asText?, value.integer? with
    | some _, _ => throw (.wrongOperands "string argument without an encoding")
    | _, some count =>
      if count < 0 then throw (.operation .wrongValue "negative count")
      return ofContent (List.replicate count.toNat 0)
    | _, _ => return ofContent (← value.asBytes model)

/-- The place behind the last sign of a text that does not belong to an exponent, if it stands
behind other characters. -/
def signPlace? (text : List Char) : Option Nat :=
  let places := text.zipIdx.filter fun (c, place) =>
    (c = '+' || c = '-') && place != 0 &&
      ((text[place - 1]?).any fun before => before.toLower != 'e')
  (places.getLast?).map (·.2)

/-- The imaginary part that a text in front of its mark stands for. -/
def readImaginary? (text : List Char) : Option Double :=
  match text with
  | [] | ['+'] => some (.ofInt 1)
  | ['-'] => some (.ofInt (-1))
  | text => Double.read? (String.ofList text)

/-- The complex number that a text stands for. -/
def readComplex? (content : String) : Option Complex :=
  let text := trimBlanks content.toList
  let text := if text.head? = some '(' && text.getLast? = some ')' then
    trimBlanks (text.drop 1).dropLast else text
  match text.getLast? with
  | some 'j' | some 'J' =>
    let body := text.dropLast
    match signPlace? body with
    | some place => do
      return ⟨← Double.read? (String.ofList (body.take place)), ← readImaginary? (body.drop place)⟩
    | Option.none => (readImaginary? body).map fun part => ⟨.zero false, part⟩
  | _ => (Double.read? (String.ofList text)).map .ofDouble

/-- A complex number of two numbers, or of a text. -/
def makeComplex (given : Given) : Except Fault HostType := do
  let number (value : HostType) (place : String) (complaint : String) : Except Fault Complex := do
    match ← value.complex? with
    | some value => return value
    | Option.none =>
      throw (.wrongOperands ("complex() " ++ place ++ " argument must be a " ++ complaint ++
        ", not '" ++ value.typeName ++ "'"))
  match given.at? 0, (given.at? 0).bind asText?, given.at? 1 with
  | _, some content, Option.none =>
    match readComplex? content with
    | some value => return ofComplex value
    | Option.none => throw (.operation .wrongValue "complex() arg is a malformed string")
  | _, some _, some _ =>
    throw (.wrongOperands "complex() can't take second arg if first is a string")
  | first, Option.none, second =>
    if (second.bind asText?).isSome then
      throw (.wrongOperands "complex() second arg can't be a string")
    let first ← number (first.getD (ofInt 0)) "first" "string or a number"
    match second with
    | Option.none => return ofComplex first
    | some second =>
      let second ← number second "second" "number"
      return ofComplex ⟨first.real.add second.imaginary.negate, first.imaginary.add second.real⟩

/-- The items of several rows, place by place, as far as all of them go. -/
def transposed (fuel : Nat) (rows : List (List HostType)) : List (List HostType) :=
  match fuel with
  | 0 => []
  | fuel + 1 =>
    if rows.any List.isEmpty then []
    else rows.filterMap List.head? :: transposed fuel (rows.map (List.drop 1))

/-- The items of each of several values. -/
def allWalked (model : Model) (values : List HostType) : Except Fault (List (List HostType)) :=
  values.mapM (walked model)

/-- The items of several rows, place by place. -/
def zipped (rows : List (List HostType)) : List (List HostType) :=
  match rows with
  | [] => []
  | first :: _ => transposed (first.length + 1) rows

/-- Complains about rows that are not as long as the first one. -/
def checkLengths (rows : List (List HostType)) : Except Fault Unit := do
  match rows with
  | [] => return
  | first :: _ =>
    match rows.zipIdx.find? fun (row, _) => row.length != first.length with
    | some (row, place) =>
      throw (.operation .wrongValue ("zip() argument " ++ toString (place + 1) ++ " is " ++
        (if row.length < first.length then "shorter" else "longer") ++ " than argument" ++
        (if place = 1 then " 1" else "s 1-" ++ toString place)))
    | Option.none => return

/-- The value can be walked backwards. -/
def isReversible : HostType → Bool
  | .container kind _ =>
    match kind with
    | .set | .frozenSet | .stream _ => false
    | _ => true
  | .record .range _ | .declared _ | .constant (.bytes _) => true
  | type => type.asText?.isSome

/-- What walks over the items of values, or over what a function makes of them. -/
def makeWalker (context : MethodContext) (name : String) (given : Given)
    (options : List (String × HostType)) : Building HostType := do
  let model := context.model
  let walker (items : List HostType) : HostType := .container (.stream name) items
  match name, given.filterMap id with
  | "reversed", [type] =>
    if !type.isReversible then
      throw (.wrongOperands ("'" ++ type.typeName ++ "' object is not reversible"))
    return walker (← type.walked model).reverse
  | "enumerate", type :: start => do
    let first ← match start with
      | first :: _ => first.asInteger
      | [] => pure 0
    return walker ((← type.walked model).zipIdx.map fun (item, place) =>
      .container .tuple [ofInt (first + place), item])
  | "zip", values => do
    let rows ← allWalked model values
    if (options.lookup "strict").any isTrue then checkLengths rows
    return walker ((zipped rows).map (.container .tuple))
  | "map", function :: values@(_ :: _) => do
    let results ← (zipped (← allWalked model values)).mapM fun places =>
      context.call function ⟨places, []⟩
    return walker results
  | "map", _ => throw (.wrongOperands "map() must have at least two arguments.")
  | "filter", [function, type] => do
    let items ← (← type.walked model).filterM fun item => do
      match function with
      | .none => return item.isTrue
      | function => return (← context.call function ⟨[item], []⟩).isTrue
    return walker items
  | _, _ => throw .missingArgument

/-- How a class takes the values that an instance is made of. -/
def constructorArity (name : String) : Arity :=
  match name with
  | "list" | "tuple" | "set" | "frozenset" => .places 0 (some 1) Option.none
  | "range" | "slice" => .places 1 (some 3) Option.none
  | "bytes" => .named 0 [] ["source", "encoding", "errors"]
  | "complex" => .named 0 [] ["real", "imag"]
  | "reversed" => .places 1 (some 1) Option.none
  | "filter" => .places 2 (some 2) Option.none
  | "enumerate" => .named 0 ["iterable"] ["start"]
  | "zip" => .places 0 Option.none (some "zip")
  | "map" => .places 0 Option.none Option.none
  | _ => .any

/-- An instance of a class of the language that is no primitive one. -/
def ofClassNamed (context : MethodContext) (name : String) (arguments : CallArguments) :
    Building HostType := do
  let model := context.model
  let isOption (option : String) : Bool := name = "zip" && option = "strict"
  let options := arguments.named.filter fun (option, _) => isOption option
  let others := arguments.named.filter fun (option, _) => !isOption option
  let bind : Except Fault Given := (constructorArity name).bindAll name ⟨arguments.places, others⟩
  let holding (kind : Container) : Building HostType := do
    match (← bind).filterMap id with
    | type :: _ => containerOf kind (← type.walked model)
    | [] => return .container kind []
  match name, arguments.places with
  | "list", _ => holding .list
  | "tuple", _ => holding .tuple
  | "set", _ => holding .set
  | "frozenset", _ => holding .frozenSet
  | "dict", _ => makeMap model arguments
  | "range", _ => makeRange ((← bind).filterMap id)
  | "slice", _ => return makeSlice ((← bind).filterMap id)
  | "bytes", _ => makeBytes model (← bind)
  | "complex", _ => makeComplex (← bind)
  | "reversed", _ | "enumerate", _ | "zip", _ | "map", _ | "filter", _ =>
    makeWalker context name (← bind) options
  | "type", [type] => return type.typeOf model
  | "type", _ => throw (.wrongOperands "type() takes 1 or 3 arguments")
  | "object", [] => return .named "object" "<object object>"
  | "object", _ => throw (.wrongOperands "object() takes no arguments")
  | name, _ => return .named name ("<" ++ name ++ " object>")

end HostType

end WireModel
