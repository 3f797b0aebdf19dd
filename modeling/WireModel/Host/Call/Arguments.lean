import WireModel.Host.Operation.Basic

/-!
Arguments of calls. Values by place and by name are bound to the parameters of a function; those
that do not fit are complained about in one way.
-/

namespace WireModel

open Text

/-- What a call gives to a function: values by place and values by name. -/
structure CallArguments where
  places : List HostType
  named : List (String × HostType)

/-- Some names with commas between them, and a word before the last one. -/
def listedNames (names : List String) : String :=
  match names.reverse with
  | [] => ""
  | [name] => quoted name
  | [last, first] => quoted first ++ " and " ++ quoted last
  | last :: before =>
    ", ".intercalate (before.reverse.map quoted) ++ ", and " ++ quoted last

/-- A function as its complaints see it. Some parameters have a value of their own. -/
structure FunctionShape where
  name : String
  /-- How many parameters are given without being written. -/
  hidden : Nat
  /-- The parameters that take a value by place. -/
  parameters : List (String × Option HostType)
  /-- How many of these take none by name. -/
  placed : Nat
  /-- The parameters that take a value by name only. -/
  named : List (String × Option HostType)
  /-- All other values by place are taken, or by name. -/
  takesPlaces : Bool
  takesNames : Bool

namespace FunctionShape

/-- A function whose parameters all take a value by place or by name. -/
def plain (name : String) (hidden : Nat) (parameters : List (String × Option HostType)) :
    FunctionShape :=
  ⟨name, hidden, parameters, 0, [], false, false⟩

def complaint {α : Type} (shape : FunctionShape) (text : String) : Except Fault α :=
  .error (.wrongOperands (shape.name ++ "() " ++ text))

def manyValues (count : Nat) (kind : String) (isPlural : Bool) : String :=
  toString count ++ " " ++ kind ++ " argument" ++ (if isPlural then "s" else "")

/-- How many values by place a function takes. -/
def expectation (shape : FunctionShape) : String :=
  let most := shape.parameters.length + shape.hidden
  let least := (shape.parameters.filter (·.2.isNone)).length + shape.hidden
  if least = most then "takes " ++ manyValues most "positional" (most != 1)
  else "takes from " ++ toString least ++ " to " ++ manyValues most "positional" true

/-- How many values a function was given by place, and by name only if that matters. -/
def givenCounts (shape : FunctionShape) (arguments : CallArguments) : String :=
  let count := arguments.places.length + shape.hidden
  let named := (shape.named.filter fun (name, _) => (arguments.named.lookup name).isSome).length
  if named = 0 then toString count ++ (if count = 1 then " was given" else " were given")
  else
    manyValues count "positional" (count != 1) ++ " (and " ++
      manyValues named "keyword-only" (named != 1) ++ ") were given"

/-- Refuses values by name that no parameter takes, or that a parameter has already. -/
def checkNames (shape : FunctionShape) (arguments : CallArguments) : Except Fault Unit := do
  let names := shape.parameters.map (·.1)
  let placed := (names.take shape.placed).filter fun name => (arguments.named.lookup name).isSome
  let known := names.drop shape.placed ++ shape.named.map (·.1)
  for (name, _) in arguments.named do
    if !known.contains name && !shape.takesNames then
      if placed.isEmpty then shape.complaint ("got an unexpected keyword argument " ++ quoted name)
      else
        shape.complaint ("got some positional-only arguments passed as keyword arguments: '" ++
          ", ".intercalate placed ++ "'")
    if known.contains name && (names.take arguments.places.length).contains name then
      shape.complaint ("got multiple values for argument " ++ quoted name)

/-- The values of some parameters of a kind that are given by name, or their own. None may be
missing. -/
def bindNamed (shape : FunctionShape) (kind : String) (arguments : CallArguments)
    (parameters : List (String × Option HostType)) : Except Fault (List HostType) := do
  let missing := parameters.filter fun (name, own) =>
    own.isNone && (arguments.named.lookup name).isNone
  if !missing.isEmpty then
    shape.complaint ("missing " ++ toString missing.length ++ " required " ++ kind ++ " argument" ++
      (if missing.length = 1 then "" else "s") ++ ": " ++ listedNames (missing.map (·.1)))
  return parameters.filterMap fun (name, own) => (arguments.named.lookup name).or own

/-- The value of each parameter: by place, by name, or its own. Those that take all other values
stand behind the ones of their way of being given. -/
def bind (shape : FunctionShape) (arguments : CallArguments) : Except Fault (List HostType) := do
  shape.checkNames arguments
  let count := shape.parameters.length
  if count < arguments.places.length && !shape.takesPlaces then
    shape.complaint (shape.expectation ++ " but " ++ shape.givenCounts arguments)
  let byName : CallArguments := ⟨[], arguments.named.filter fun (name, _) =>
    !((shape.parameters.take shape.placed).map (·.1)).contains name⟩
  let behind ← shape.bindNamed "positional" byName (shape.parameters.drop arguments.places.length)
  let named ← shape.bindNamed "keyword-only" byName shape.named
  let known := (shape.parameters.drop shape.placed ++ shape.named).map (·.1)
  let others := arguments.named.filter fun (name, _) => !known.contains name
  return arguments.places.take count ++ behind ++
    (if shape.takesPlaces then [.container .tuple (arguments.places.drop count)] else []) ++
    named ++
    (if shape.takesNames then [.ofFields others] else [])

end FunctionShape

/-- How a function of the language takes its values. -/
inductive Arity where
  | nothing
  /-- One value by place. -/
  | one
  /-- So many values by place, without a bound perhaps. For values by name that it does not know, a
  function may answer under the name of one that does its work. -/
  | places (least : Nat) (most : Option Nat) (worker : Option String)
  /-- So many values by place, which are looked at one after the other. -/
  | parsed (least most : Nat)
  /-- First so many values by place only, then some by place or by name that it needs, and some that
  it does not need. -/
  | named (unnamed : Nat) (required optional : List String)
  /-- So many values by place, for an operator; they may come as a tuple that is unpacked. -/
  | operator (least most : Nat) (isUnpacked : Bool)
  /-- Any values. -/
  | any

namespace Arity

def counted (count : Nat) (thing : String) : String :=
  toString count ++ " " ++ thing ++ (if count = 1 then "" else "s")

def refused {α : Type} (text : String) : Except Fault α :=
  .error (.wrongOperands text)

/-- A complaint about a value by name that no parameter takes. -/
def unknownName {α : Type} (function name : String) : Except Fault α :=
  refused (quoted name ++ " is an invalid keyword argument for " ++ function ++ "()")

/-- A complaint about values by name. -/
def namesRefused {α : Type} (function : String) : Except Fault α :=
  refused (function ++ "() takes no keyword arguments")

/-- Refuses a number of values by place that is too low or too high, with the words for it. -/
def checkCount (least : Nat) (most : Option Nat) (count : Nat) (complaint : String → Nat → String) :
    Except Fault Unit := do
  if count < least then
    refused (complaint (if most = some least then "" else "at least ") least)
  if most.any (· < count) then
    refused (complaint (if most = some least then "" else "at most ") (most.getD count))

/-- The values that a function with names for its values is given, in the order of its
parameters. -/
def bindNamed (unnamed : Nat) (required optional : List String) (function : String)
    (arguments : CallArguments) : Except Fault (List (Option HostType)) := do
  let count := arguments.places.length
  let parameters := required ++ optional
  let most := unnamed + parameters.length
  let total := count + arguments.named.length
  if most < total then
    refused (function ++ "() takes at most " ++
      counted most (if count = 0 then "keyword argument" else "argument") ++ " (" ++
      toString total ++ " given)")
  if count < unnamed then
    refused (function ++ "() takes at least " ++ counted unnamed "positional argument" ++ " (" ++
      toString count ++ " given)")
  let byName := parameters.drop (count - unnamed)
  let missing := byName.find? fun name =>
    required.contains name && (arguments.named.lookup name).isNone
  if let some name := missing then
    refused (function ++ "() missing required argument " ++ quoted name ++ " (pos " ++
      toString (unnamed + parameters.idxOf name + 1) ++ ")")
  match arguments.named.find? fun (name, _) => !byName.contains name with
  | some (name, _) =>
    if parameters.contains name then
      refused ("argument for " ++ function ++ "() given by name (" ++ quoted name ++
        ") and position (" ++ toString (unnamed + parameters.idxOf name + 1) ++ ")")
    unknownName function name
  | none => return arguments.places.map some ++ byName.map fun name => arguments.named.lookup name

/-- The values that a function is given, in the order of its parameters. The function has a
qualified name, of which some complaints tell the last part only. -/
def bindAll (arity : Arity) (function : String) (arguments : CallArguments) :
    Except Fault (List (Option HostType)) := do
  let count := arguments.places.length
  let short := lastComponent function
  let places := arguments.places.map some
  let hasNames := !arguments.named.isEmpty
  let given := " (" ++ toString count ++ " given)"
  match arity with
  | .any => return places
  | .nothing =>
    if hasNames then namesRefused function
    if count != 0 then refused (function ++ "() takes no arguments" ++ given)
    return []
  | .one =>
    if hasNames then namesRefused function
    if count != 1 then refused (function ++ "() takes exactly one argument" ++ given)
    return places
  | .places least most worker =>
    if worker.isNone && hasNames then namesRefused function
    checkCount least most count fun bound expected =>
      short ++ " expected " ++ bound ++ counted expected "argument" ++ ", got " ++ toString count
    match arguments.named, worker with
    | (name, _) :: _, some worker => unknownName worker name
    | _, _ => return places
  | .parsed least most =>
    if hasNames then namesRefused short
    checkCount least (some most) count fun bound expected =>
      short ++ "() takes " ++ (if bound.isEmpty then "exactly " else bound) ++
        counted expected "argument" ++ given
    return places
  | .operator least most isUnpacked =>
    if hasNames then refused ("wrapper " ++ short ++ "() takes no keyword arguments")
    checkCount least (some most) count fun bound expected =>
      (if isUnpacked then " " else "") ++ "expected " ++ bound ++ counted expected "argument" ++
        ", got " ++ toString count
    return places
  | .named unnamed required optional => bindNamed unnamed required optional short arguments

/-- The values that a function is given, those that are left out apart. -/
def bind (arity : Arity) (function : String) (arguments : CallArguments) :
    Except Fault (List HostType) := do
  return (← arity.bindAll function arguments).filterMap id

end Arity

end WireModel
