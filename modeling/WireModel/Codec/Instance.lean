import WireModel.Codec.Decoding
import WireModel.Host.Method.Basic

/-!
Making and using instances of generated classes: constructors, factories and methods.
-/

namespace WireModel.Codec

open Schema Text
open Render.Python (attributeName keptName)

namespace Library

/-- Arguments for parameters: the leading ones by place, the others by name, none of them twice.
A parameter without an argument is absent. -/
def bindArguments (parameters : List String) (args : List Value) (named : List (String × Value)) :
    Except CodecError (List (String × Option Value)) :=
  let free := parameters.drop args.length
  if parameters.length < args.length || named.any fun entry => !free.contains entry.1 then
    .error (.fault .wrongType)
  else
    .ok ((parameters.zip args).map (fun (name, value) => (name, some value)) ++
      free.map fun name => (name, named.lookup name))

def bindAll (parameters : List String) (args : List Value) (named : List (String × Value)) :
    Except CodecError (List Value) := do
  let bound := (← bindArguments parameters args named).filterMap (·.2)
  if bound.length = parameters.length then return bound else throw (.fault .wrongType)

/-- Makes an instance of a record; the fields without an argument are absent. -/
def constructRecord (path : ClassPath) (fields : List Field) (args : List Value)
    (named : List (String × Value)) : Except CodecError Value := do
  let parameters := fields.map fun field => keptName path.name (attributeName field)
  let bound ← bindArguments parameters args named
  makeRecord path (bound.map fun (name, value) => (name, value.getD .null))

/-- Finds a constant by its tag. The further arguments would make an enumeration of the value and of
names; they are absent. -/
def findConstant (constants : Constants) (args : List Value) (named : List (String × Value)) :
    Except CodecError Value := do
  let bound ← bindArguments ["value", "names"] (args.take 2) named
  if 2 < args.length then throw (.fault .wrongType)
  match bound with
  | [(_, some value), (_, names)] =>
    match (names.getD .null).content with
    | .null =>
      match constants.ofValue? value.content with
      | some value => return value
      | none => throw (.fault .wrongValue)
    | _ => throw (.fault .wrongType)
  | _ => throw (.fault .wrongType)

/-- Makes an instance of a class, or finds a constant. -/
def constructInstance (type : Class) (args : List Value) (named : List (String × Value)) :
    Except CodecError Value :=
  match type with
  | .record path _ fields => constructRecord path fields args named
  | .dataEnum entity => do
    match ← bindAll ["variant", "value"] args named with
    | [discriminant, payload] => return .choice entity.className discriminant payload
    | _ => throw (.fault .wrongType)
  | .enumeration constants => findConstant constants args named

/-- Makes an instance of a class by the constructor of another one. -/
def constructBy (library : Library) (path provider : ClassPath) (args : List Value)
    (named : List (String × Value)) : Except CodecError Value := do
  match library.at? provider with
  | some type =>
    match ← constructInstance type args named with
    | .record _ attributes => return .record path attributes
    | .choice _ discriminant payload =>
      return .record path [("_variant", discriminant), ("_value", payload)]
    | value => return value
  | none => throw (.fault .missingAttribute)

/-- Makes an instance of the class of a path. -/
def construct (library : Library) (path : ClassPath) (args : List Value)
    (named : List (String × Value)) : Except CodecError Value := do
  match library.changed? path constructorName, library.at? path with
  | none, some type => constructInstance type args named
  | some _, some (.enumeration constants) => findConstant constants args named
  | some _, some _ =>
    library.constructBy path (← library.provider path constructorName) args named
  | _, none => throw (.fault .missingAttribute)

def makeVariant (library : Library) (entity : DataEnum) (v : Schema.Variant) (args : List Value) :
    Except CodecError Value := do
  let discriminant ← discriminant entity v
  let payload ← match v.payload with
    | .unit => pure .null
    | .tuple _ => pure (.tuple args)
    | .object _ => library.construct (Class.holderPath entity v) args []
  discard (library.provider (.top entity.className) constructorName)
  return .choice entity.className discriminant payload

/-- Calls a factory. A parameter that is called like the data enum hides it, so that only the data
enum itself as its argument would do. -/
def make (library : Library) (entity : DataEnum) (v : Schema.Variant) (args : List Value)
    (named : List (String × Value)) : Except CodecError Value := do
  let own := keptName entity.className entity.className
  let parameters := (Method.factory v).parameters.map (keptName entity.className)
  let args ← bindAll parameters args named
  match (parameters.zip args).lookup own with
  | some inPlace =>
    if inPlace.isIdentical (.type (.top entity.className)) then library.makeVariant entity v args
    else do
      let discriminants ← library.attribute inPlace Constants.discriminantClass
      discard (library.attribute discriminants (keptName entity.className v.name.upperSnake))
      throw (.fault .wrongType)
  | none =>
    if reachesItself entity.className then library.makeVariant entity v args
    else throw (.fault .unknownName)

def noArguments (args : List Value) : Except CodecError Unit :=
  if args.isEmpty then .ok () else .error (.fault .wrongType)

def onlyArgument : List Value → Except CodecError Value
  | [value] => .ok value
  | _ => .error (.fault .wrongType)

def expect (library : Library) (entity : DataEnum) (value expected : Value) :
    Except CodecError Unit := do
  let discriminant ← library.attribute value "_variant"
  if !discriminant.isIdentical expected then
    let name ← discriminantName discriminant
    throw (if entity.className = codecName then .fault .missingAttribute else .invalidVariant name)

/-- Refuses an instance that is not of the variant, as its own class tells it. -/
def expectVariant (library : Library) (value : Value) (expected : Except CodecError Value) :
    Except CodecError Unit := do
  match (← library.attribute value expectName).content with
  | .method path name receiver =>
    let expected ← expected
    match library.dataEnum? path.qualifiedName with
    | some entity =>
      if name == expectName then library.expect entity receiver expected
      else throw (.fault .wrongType)
    | none => throw (.fault .wrongType)
  | _ =>
    discard expected
    throw (.fault .wrongType)

def slot (library : Library) (payload : Value) (place : Nat) : Except CodecError Value :=
  let orMissing (item : Option Value) (kind : FaultKind) : Except CodecError Value :=
    match item with
    | some item => .ok item
    | none => .error (.fault kind)
  match payload.content with
  | .tuple items | .list items => orMissing items[place]? .missingIndex
  | .text text => orMissing (Value.characterAt? text place) .missingIndex
  | .map entries => orMissing (Value.entryAt? entries (.int place)) .missingKey
  | .language (.constant (.bytes content)) =>
    orMissing (content[place]?.map fun (byte : Nat) => .int byte) .missingIndex
  | .view .proxy whole => orMissing (whole.entries?.bind fun entries =>
    Value.entryAt? entries (.int place)) .missingKey
  | .type path =>
    match library.at? path with
    | some (.enumeration _) => .error (.fault .missingKey)
    | _ => .error (.fault .wrongType)
  | _ => .error (.fault .wrongType)

/-- Calls a method of a variant on a value, which may be an instance of another class. -/
def callVariantMethod (library : Library) (entity : DataEnum) (value : Value) (method : Method)
    (args : List Value) : Except CodecError Value := do
  match method with
  | .factory v => library.make entity v (value :: args) []
  | .accessor v place =>
    noArguments args
    library.expectVariant value (ownDiscriminant entity v)
    let payload ← library.attribute value "_value"
    match place with
    | some place => library.slot payload place
    | none => return payload
  | .test v =>
    noArguments args
    let discriminant ← library.attribute value "_variant"
    return .bool (discriminant.isIdentical (← ownDiscriminant entity v))

/-- The text of a value where it stands for itself. -/
def written (library : Library) (value : Value) : Except CodecError String := do
  match value, value.content with
  | .altered attributes _, .constant owner _ _ =>
    match ← partNamed attributes "_name_" with
    | .text name => return library.nameOf owner ++ "." ++ name
    | name => return library.nameOf owner ++ "." ++ (← library.shown name)
  | _, .constant owner name _ => return library.nameOf owner ++ "." ++ name
  | _, .text text => return text
  | value, _ => library.shown value

/-- The second value is of the class of the first one. -/
def isOfClassOf (value other : Value) : Bool :=
  match classOf? value, classOf? other with
  | some path, some owner => path == owner
  | none, none =>
    value.typeName == other.typeName || (value.typeName == "int" && other.typeName == "bool")
  | _, _ => false

/-- The named attributes of two values are equal. All of them must be there. -/
def equalAttributesOf (library : Library) (names : List String) (value other : Value) :
    Except CodecError Bool := do
  let parts ← names.mapM (library.attribute value)
  let others ← names.mapM (library.attribute other)
  (Value.tuple parts).equal (.tuple others)

/-- What the class of a value says of it and another one. -/
def compareOwn (value other : Value) : Except CodecError (Option Bool) :=
  match classOf? value, value.content with
  | _, .constant .. => .ok (if value.isIdentical other then some true else none)
  | some _, content =>
    match content.verdict? other.content with
    | none => .ok none
    | some _ => do return some (← value.equal other)
  | none, _ => do
    if isOfClassOf value other then return some (← value.equal other) else return none

/-- What a class says of a value and another one; `none` leaves it to the other one. -/
def compare (library : Library) (path : ClassPath) (value other : Value) :
    Except CodecError (Option Bool) :=
  if classOf? value = some path then compareOwn value other
  else
    match library.at? path with
    | some (.record _ _ fields) =>
      if isOfClassOf value other then do
        return some (← library.equalAttributesOf
          (fields.map fun field => keptName path.name (attributeName field)) value other)
      else .ok none
    | some (.dataEnum _) =>
      if classOf? other = some path then do
        return some (← library.equalAttributesOf ["_variant", "_value"] value other)
      else .ok none
    | _ => .ok (if value.isIdentical other then some true else none)

def compared (answer : Option Bool) : Value :=
  match answer with
  | some answer => .bool answer
  | none => .language .undecided

def askedParts (library : Library) (path : ClassPath) (value : Value) : List (String × Value) :=
  let names :=
    match library.at? path with
    | some (.record _ _ fields) => fields.map fun field => keptName path.name (attributeName field)
    | some (.dataEnum _) => ["_variant", "_value"]
    | _ => ["_name_", "_value_"]
  names.filterMap fun name => (library.attribute value name).toOption.map fun part => (name, part)

def encodeBy (library : Library) (path : ClassPath) (value : Value) : Except CodecError Json :=
  match classOf? value with
  | some owner =>
    library.encodeAs path owner
      (library.encodeParts (library.askedParts path value ++ partsOf value))
  | none =>
    match library.at? path with
    | some (.dataEnum _) => library.encodeAs path path []
    | _ => .error (.fault .missingAttribute)

/-- Makes an instance of a class without any attributes, or finds a constant. -/
def allocate (library : Library) (path : ClassPath) (args : List Value) : Except CodecError Value :=
  match library.at? path with
  | some (.enumeration constants) => findConstant constants args []
  | some _ => .ok (.record path [])
  | none => .error (.fault .missingAttribute)

/-- Calls a function that every class has. -/
def callCommon (library : Library) (type : Class) (value : Value) (name : String)
    (args : List Value) : Except CodecError Value := do
  match name with
  | "__ne__" =>
    return compared ((← compareOwn value (← onlyArgument args)).map (!·))
  | "__str__" =>
    noArguments args
    match type with
    | .enumeration _ => return .text (← library.written value)
    | _ => return .text (← library.shown value)
  | "__format__" =>
    match type, (← onlyArgument args).content with
    | _, .text "" => return .text (← library.written value)
    | .enumeration _, .text spec =>
      match (HostType.text (← library.written value)).formatted spec with
      | .ok text => return .text text
      | .error fault => throw (.fault fault.kind)
    | _, _ => throw (.fault .wrongType)
  | "__init_subclass__" =>
    noArguments args
    return .null
  | "__subclasshook__" => return .language .undecided
  | "__reduce_ex__" =>
    discard (onlyArgument args)
    match value.content with
    | .constant owner _ _ =>
      return .tuple [.type owner, .tuple [← library.attribute value "_value_"]]
    | _ => return .language (.named "tuple" "<tuple>")
  | "__new__" =>
    match value.content with
    | .type path => library.allocate path args
    | _ => throw (.fault .wrongType)
  | "__getattribute__" =>
    match (← onlyArgument args).content with
    | .text name => library.attribute value name
    | _ => throw (.fault .wrongType)
  | name =>
    if name ∈ orderFunctions then
      discard (onlyArgument args)
      return .language .undecided
    else
      noArguments args
      return .language (.named "object" "<object>")

/-- Calls a function that a class has as one, on the class itself. -/
def callOnClass? (library : Library) (path : ClassPath) (name : String) (args : List Value) :
    Option (Except CodecError Value) :=
  match name with
  | "mro" => some do
    noArguments args
    match ← library.attribute (.type path) "__mro__" with
    | .tuple items => return .list items
    | value => return value
  | "__subclasses__" => some do
    noArguments args
    return .list []
  | "__instancecheck__" => some do
    return .bool (classOf? (← onlyArgument args) = some path)
  | "__subclasscheck__" => some do
    match (← onlyArgument args).content with
    | .type other => return .bool (other == path)
    | .language value =>
      if value.asClass?.isSome then return .bool false else throw (.fault .wrongType)
    | _ => throw (.fault .wrongType)
  | "__bool__" => some do
    noArguments args
    return .bool true
  | _ => none

/-- Calls a function of an enumeration as a collection of constants. -/
def callCollection (constants : Constants) (name : String) (args : List Value) :
    Except CodecError Value := do
  let names := constants.entries.map (·.1)
  match name with
  | "__len__" =>
    noArguments args
    let tags := (constants.entries.filter fun entry => constants.isConstant entry.1).map (·.2)
    return .int tags.eraseDups.length
  | "__getitem__" =>
    match (← onlyArgument args).content with
    | .text name =>
      match (constants.named? name).filter fun _ => constants.isConstant name with
      | some value => return value
      | none => throw (.fault .missingKey)
    | content => throw (.fault (if content.isHashable then .missingKey else .wrongType))
  | _ =>
    let value ← onlyArgument args
    match value, value.content with
    | .altered attributes _, .constant owner _ _ =>
      match attributes.lookup "_name_" with
      | some (.text name) => return .bool (owner == constants.owner && names.contains name)
      | _ => return .bool false
    | _, .constant owner _ _ => return .bool (owner == constants.owner)
    | _, _ => throw (.fault .wrongType)

/-- Calls a function of a class on a value, which may be an instance of another class. -/
def callMethod (library : Library) (path : ClassPath) (name : String) (value : Value)
    (args : List Value) : Except CodecError Value := do
  match library.at? path with
  | none => throw (.fault .missingAttribute)
  | some type =>
    if name = decoderName then
      library.decoder (← onlyArgument args) (.instanceOf type)
    else
      match type, (library.dataEnum? path.qualifiedName).bind (method? · name), name with
      | .dataEnum entity, some method, _ => library.callVariantMethod entity value method args
      | .dataEnum entity, none, "_expect" =>
        library.expect entity value (← onlyArgument args)
        return .null
      | .enumeration constants, _, "__len__" | .enumeration constants, _, "__getitem__"
      | .enumeration constants, _, "__contains__" => callCollection constants name args
      | _, _, "__eq__" => return compared (← library.compare path value (← onlyArgument args))
      | _, _, "__repr__" =>
        noArguments args
        if classOf? value = some path ∧ (library.changed? path name).isNone then
          return .text (← library.shown value)
        let parts := library.askedParts path value
        let owner := (classOf? value).getD path
        return .text (← library.shownAs path owner (library.shownParts parts))
      | _, _, "to_json" =>
        noArguments args
        return .ofJson (← library.encodeBy path value)
      | type, _, name =>
        match value.content, library.callOnClass? path name args with
        | .type _, some answer => answer
        | _, _ => library.callCommon type value name args

/-- Calls a function that is got from its class: a factory, or one with the value that it is called
on as its first argument. -/
def callFunction (library : Library) (path : ClassPath) (name : String) (args : List Value)
    (named : List (String × Value)) : Except CodecError Value :=
  match (library.dataEnum? path.qualifiedName).bind fun entity =>
      (method? entity name).map fun method => (entity, method) with
  | some (entity, .factory v) => library.make entity v args named
  | _ =>
    match args with
    | value :: args => library.callMethod path name value args
    | [] => .error (.fault .wrongType)

def apply (library : Library) (value : Value) (args : List Value) (named : List (String × Value)) :
    Except CodecError Value :=
  match value.content with
  | .type path => library.construct path args named
  | .function path name => library.callFunction path name args named
  | .method path name receiver =>
    if name = callName then library.construct path args named
    else if named.isEmpty then library.callMethod path name receiver args
    else .error (.fault .wrongType)
  | _ => .error (.fault .wrongType)

def call (library : Library) (value : Value) (method : String) (args : List Value) :
    Except CodecError Value := do
  library.apply (← library.attribute value method) args []

/-- The types of the parameters of a function, for a class that asks for them. -/
def parameterTypes (library : Library) (className : String) (function : Value) :
    Except CodecError (List HostType) :=
  match function.content with
  | .function path name | .method path name _ =>
    match library.at? path with
    | some (.dataEnum entity) =>
      match method? entity name with
      | some method => library.resolveAll className method.parameterTypes
      | none => .ok []
    | some (.record _ _ fields) =>
      if name = constructorName then library.resolveAll className (fields.map (·.type)) else .ok []
    | _ => .ok []
  | .type _ => .ok []
  | value => do
    if !value.isHashable then throw (.fault .wrongType)
    let text ← library.shown value
    throw (.mismatch (.unresolvableTypes className (notCallable text)))

/-- Decodes data as the arguments of the factory of a qualified name. -/
def decodeArguments (library : Library) (qualifiedName key : String) (data : Value) :
    Except CodecError Value := do
  match ← library.member ((partsAt '.' qualifiedName).headD "") with
  | .type path =>
    let owner := library.nameOf path
    let types ← library.parameterTypes owner (← library.member qualifiedName)
    library.decoder data (.slots owner key types)
  | _ => throw (.fault .missingAttribute)

end Library

end WireModel.Codec
