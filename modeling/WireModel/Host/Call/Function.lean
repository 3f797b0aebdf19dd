import WireModel.Host.Call.Container
import WireModel.Host.Method.Invoke

/-!
Functions of the language, how many values each takes, and what it gives.
-/

namespace WireModel

open Text

namespace Arity

/-- How a function without a class takes its values. -/
def ofFunction (name : String) : Arity :=
  if name ∈ ["abs", "all", "any", "ascii", "bin", "callable", "chr", "hash", "hex", "id",
    "len", "oct",
      "ord", "repr"] then .one
  else
    match name with
    | "divmod" | "hasattr" | "isinstance" | "issubclass" | "delattr" => .places 2 (some 2) none
    | "setattr" => .places 3 (some 3) none
    | "getattr" => .places 2 (some 3) none
    | "format" | "iter" | "next" => .places 1 (some 2) none
    | "sorted" => .places 1 (some 1) (some "sort")
    | "min" | "max" => .places 1 none (some name)
    | "sum" => .named 1 [] ["start"]
    | "pow" => .named 0 ["base", "exp"] ["mod"]
    | "round" => .named 0 ["number"] ["ndigits"]
    | _ => .places 0 none none

/-- The values that a function takes by name only. -/
def optionsOf (name : String) : List String :=
  match name with
  | "sorted" => ["key", "reverse"]
  | "min" | "max" => ["key", "default"]
  | "print" => ["sep", "end", "file", "flush"]
  | _ => []

end Arity

namespace HostType

/-- The values by which a choice is made: those that a function gives, or the values themselves. -/
def withKeys (context : MethodContext) (key : Option HostType) (items : List HostType) :
    Building (List (HostType × HostType)) :=
  items.mapM fun item => do
    match key with
    | Option.none | some .none => return (item, item)
    | some function => return (← context.call function ⟨[item], []⟩, item)

/-- The least of some values by an ordering of their keys. -/
def least (comparison : Comparison) : HostType × HostType → List (HostType × HostType) →
    Except Fault HostType
  | best, [] => .ok best.2
  | best, next :: rest => do
    if ← next.1.ordered comparison best.1 then least comparison next rest
    else least comparison best rest

/-- The least or the greatest of some values, or of the items of one value. -/
def extreme (context : MethodContext) (name : String) (places : List HostType)
    (options : List (String × HostType)) : Building HostType := do
  let comparison := if name = "min" then Comparison.less else .greater
  let default := options.lookup "default"
  let items ← match places with
    | [type] => type.walked context.model
    | places =>
      if default.isSome then
        throw (.wrongOperands ("Cannot specify a default for " ++ name ++
          "() with multiple positional arguments"))
      pure places
  match ← withKeys context (options.lookup "key") items, default with
  | first :: rest, _ => return ← least comparison first rest
  | [], some default => return default
  | [], Option.none => throw (.operation .wrongValue (name ++ "() arg is an empty sequence"))

/-- The sum of the items of a value behind a first one. -/
def sumOf (model : Model) (items first : HostType) : Building HostType := do
  let items ← items.walked model
  match first, first.asText? with
  | _, some _ =>
    throw (.wrongOperands "sum() can't sum strings [use ''.join(seq) instead]")
  | .constant (.bytes _), _ =>
    throw (.wrongOperands "sum() can't sum bytes [use b''.join(seq) instead]")
  | first, Option.none => items.foldlM (binaryOperation model .add) first

/-- What walks over the items of a value. -/
def walker (context : MethodContext) (type : HostType) : Building HostType := do
  let items ← type.walked context.model
  match languageMethod? context (type.classOf).name type "__iter__" [] [] with
  | some walker => return (← walker.run type).1
  | Option.none => return .container (.stream "generator") items

/-- The first item of what can only be walked. -/
def nextOf (type : HostType) (default : Option HostType) : Except Fault HostType :=
  match type, default with
  | .container (.stream _) (item :: _), _ => .ok item
  | .container (.stream _) [], some default => .ok default
  | .container (.stream _) [], Option.none => .error (.operation .exhausted "")
  | type, _ => .error (.wrongOperands (quoted type.typeName ++ " object is not an iterator"))

/-- What a function gives again and again, up to before a last value; at most so many values. -/
def givenUntil (context : MethodContext) (function last : HostType) : Nat → Building (List HostType)
  | 0 => return []
  | limit + 1 => do
    let item ← context.call function ⟨[], []⟩
    if item.same last then return [] else return item :: (← givenUntil context function last limit)

/-- The attribute that a function is asked for, or another value where there is none. -/
def attributeOr (model : Model) (type key : HostType) (default : Option HostType) :
    Except Fault HostType := do
  let some name :=
    key.asText? | throw (.wrongOperands ("attribute name must be string, not '" ++
      key.typeName ++ "'"))
  match type.getAttribute model name, default with
  | .error fault, some default =>
    if fault.kind = .missingAttribute then return default else throw fault
  | result, _ => result

def isCallable (type : HostType) : Bool :=
  type.asClass?.isSome || match type with
    | .primitive _ | .builtin _ | .applied .. => true
    | .constant (.routine typeName _ _) =>
      typeName ∉ ["getset_descriptor", "member_descriptor", "property"]
    | .record (.function _) _ | .bound .. => true
    | _ => false

/-- The hash of a number; the hashes of other values are not told. -/
def hashOf (type : HostType) : Except Fault HostType := do
  type.checkKey
  match type.numeral? with
  | some (.integer value) => return ofInt (Double.hashOfInt value)
  | some (.floating value) => return ofInt value.hash
  | Option.none => return ofInt 0

/-- How many values are asked of a function for something that walks over them. -/
def walkLimit : Nat := 500

/-- What a function without a class gives, for the values that it is given in their order and by
name only. -/
def functionOf (context : MethodContext) (name : String) (options : List (String × HostType))
    (given : List HostType) : Building HostType := do
  let model := context.model
  match name, given with
  | "len", [type] =>
    if let some _ := type.rangeBounds? then
      return ← (rangeMethod? model type "__len__" []).getD (pure .none)
    match type, type.items? model with
    | .container (.stream _) _, _ | _, Option.none =>
      throw (.wrongOperands ("object of type '" ++ type.typeName ++ "' has no len()"))
    | _, some items => return ofInt items.length
  | "repr", [type] => return .text type.shown
  | "ascii", [type] => return .text (inAscii type.shown)
  | "callable", [type] => return ofBool type.isCallable
  | "hash", [type] => type.hashOf
  | "getattr", [type, key] => attributeOr model type key Option.none
  | "getattr", [type, key, default] => attributeOr model type key (some default)
  | "hasattr", [type, key] =>
    match type.getAttribute model (← key.attributeName) with
    | .ok _ => return ofBool true
    | .error fault => if fault.kind = .missingAttribute then return ofBool false else throw fault
  | "setattr", [type, key, _] | "delattr", [type, key] =>
    type.changeAttribute model (← key.attributeName)
  | "isinstance", [type, base] => type.isInstance model base
  | "issubclass", [type, base] => type.isDerived model base
  | "abs", [type] =>
    match type.numeral?, type with
    | some (.integer value), _ => return ofInt value.natAbs
    | some (.floating value), _ => return ofDouble (Complex.magnitude value)
    | Option.none, .constant (.complex real imaginary) =>
      return ofDouble (Complex.size ⟨real, imaginary⟩)
    | Option.none, type =>
      throw (.wrongOperands ("bad operand type for abs(): '" ++ type.typeName ++ "'"))
  | "chr", [type] =>
    let code ← type.asInteger
    if code < 0 || 0x110000 ≤ code then
      throw (.operation .wrongValue "chr() arg not in range(0x110000)")
    return .text (ofCodes [code.toNat])
  | "ord", [type] =>
    match type, type.asText?.map codes with
    | .constant (.bytes [byte]), _ => return ofInt byte
    | _, some [code] => return ofInt code
    | _, some codes =>
      throw (.wrongOperands ("ord() expected a character, but string of length " ++
        toString codes.length ++ " found"))
    | .constant (.bytes content), Option.none =>
      throw (.wrongOperands ("ord() expected a character, but string of length " ++
        toString content.length ++ " found"))
    | type, Option.none =>
      throw (.wrongOperands ("ord() expected string of length 1, but " ++
        type.typeName ++ " found"))
  | "hex", [type] => return .text (inBase "0x" 16 (← type.asInteger))
  | "oct", [type] => return .text (inBase "0o" 8 (← type.asInteger))
  | "bin", [type] => return .text (inBase "0b" 2 (← type.asInteger))
  | "min", places | "max", places => extreme context name places options
  | "sum", [type] => sumOf model type (ofInt 0)
  | "sum", [type, first] => sumOf model type first
  | "any", [type] => return ofBool ((← type.walked model).any isTrue)
  | "all", [type] => return ofBool ((← type.walked model).all isTrue)
  | "sorted", [type] => do
    let items ← type.walked model
    let goesDown ← isDownward (options.lookup "reverse")
    return .container .list (← sortedBy context items (options.lookup "key") goesDown)
  | "iter", [type] => type.walker context
  | "iter", [function, last] =>
    if !function.isCallable then throw (.wrongOperands "iter(v, w): v must be callable")
    return .container (.stream "callable_iterator") (← givenUntil context function last walkLimit)
  | "next", [type] => nextOf type Option.none
  | "next", [type, default] => nextOf type (some default)
  | "divmod", [a, b] => do
    match a.numeral?, b.numeral? with
    | some (.integer _), some (.integer _) => pure ()
    | some _, some divisor =>
      if (← divisor.toDouble).isZero then throw (.zeroDivision "float divmod()")
    | _, _ => throw (.unsupportedOperands "divmod()" a b)
    let quotient ← binaryOperation model .floorDivide a b
    return .container .tuple [quotient, ← binaryOperation model .remainder a b]
  | "pow", [a, b] | "pow", [a, b, .none] => binaryOperation model .power a b
  | "pow", [a, b, modulus] =>
    match numberMethod? model (a.classOf).name a "__pow__" [some b, some modulus] with
    | some answer => answer
    | Option.none =>
      throw (.wrongOperands ("unsupported operand type(s) for ** or pow(): '" ++ a.typeName ++
        "', '" ++ b.typeName ++ "', '" ++ modulus.typeName ++ "'"))
  | "round", [type] => type.rounded Option.none
  | "round", [type, .none] => type.rounded Option.none
  | "round", [type, places] => type.rounded (some places)
  | "print", _ => return .none
  | "format", [type] => return .text (← type.formatted "")
  | "format", [type, spec] =>
    match spec.asText? with
    | some spec => return .text (← type.formatted spec)
    | Option.none =>
      throw (.wrongOperands ("format() argument 2 must be str, not " ++ spec.argumentName))
  | name, _ => throw (.wrongOperands (name ++ "() cannot be called here"))

/-- What a function without a class gives. -/
def applyFunction (context : MethodContext) (name : String) (arguments : CallArguments) :
    Building HostType := do
  let options := Arity.optionsOf name
  let known := arguments.named.filter fun (option, _) => options.contains option
  let others := arguments.named.filter fun (option, _) => !options.contains option
  functionOf context name known (← (Arity.ofFunction name).bind name ⟨arguments.places, others⟩)

end HostType

end WireModel
