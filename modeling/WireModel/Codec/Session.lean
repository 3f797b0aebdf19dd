import WireModel.Codec.Session.Plain

/-!
Using a generated package step by step: attributes of held values and changes to them, calls, and
decoding and encoding.
-/

namespace WireModel.Codec

namespace Session

variable (library : Library)

/-- An attribute of a value. The attributes of an instance are a map by themselves; what was set on
a constant is found before what its class has. -/
def «attribute» (value : Value) (name : String) : Session Value := do
  let whole := ownAttribute library value name
  match value, (← get).instance? value with
  | .constant owner constantName tag, _ =>
    if name = Value.dictionaryName then perform (Store.dictionaryOf library owner constantName tag)
    else if library.isFixed owner name then whole
    else
      if name = "__objclass__" ∨ name = "_sort_order_" then
        discard (perform (Store.dictionaryOf library owner constantName tag))
      let store ← get
      match ((store.constants.lookup (owner, constantName)).bind fun serial =>
        (store.attributesAt serial).lookup name) with
      | some part => return part
      | none => whole
  | _, some (_, dictionary) => if name = Value.dictionaryName then return dictionary else whole
  | _, none => whole

/-- What a qualified name stands for. -/
def member (qualifiedName : String) : Session Value := do
  match Text.partsAt '.' qualifiedName with
  | name :: names =>
    let type ← holdOutcome (library.member name)
    names.foldlM («attribute» library) type
  | [] => throw (.fault .missingAttribute)

/-- Sets an entry in the map of the attributes of an instance or of a constant. -/
def setEntry (dictionary : Value) (name : String) (part : Value) : Session Unit := do
  replace dictionary (((← get).stored dictionary).withEntry name part)

/-- The map that an instance takes for its attributes. -/
def asDictionary (part : Value) : Session Value :=
  match part with
  | .reference _ .map => return part
  | _ => throw (.fault .wrongType)

/-- Sets an attribute of an instance: its class, the map of its attributes, or one of these. -/
def setOnInstance (value : Value) (path : ClassPath) (dictionary : Value) (name : String)
    (part : Value) : Session Unit := do
  match name with
  | "__class__" =>
    match part with
    | .type path => replace value (.record path [(Value.dictionaryName, dictionary)])
    | _ => throw (.fault .wrongType)
  | "__dict__" =>
    replace value (.record path [(Value.dictionaryName, ← asDictionary part)])
  | "__weakref__" => throw (.fault .missingAttribute)
  | name =>
    if (← current library).isFixed path name then throw (.fault .missingAttribute)
    setEntry dictionary name part

def setOnConstant (owner : ClassPath) (constantName tag name : String) (part : Value) :
    Session Unit := do
  match name with
  | "__class__" =>
    if !part.isIdentical (.type owner) then throw (.fault .wrongType)
  | "__dict__" =>
    let dictionary ← asDictionary part
    modify (Store.keepConstant owner constantName dictionary)
  | "__weakref__" => throw (.fault .missingAttribute)
  | name =>
    if (← current library).isFixed owner name then throw (.fault .missingAttribute)
    setEntry (← perform (Store.dictionaryOf library owner constantName tag)) name part

def setAttribute (value : Value) (name : String) (part : Value) : Session Unit := do
  match value, (← get).instance? value, (← get).stored value with
  | .constant owner constantName tag, _, _ => setOnConstant library owner constantName tag name part
  | .type path, _, _ =>
    ofExcept (library.checkClassAttribute path name (← view library part))
    modify (Store.setOnClass path name part)
  | .function .., _, _ => return
  | _, some (path, dictionary), _ => setOnInstance library value path dictionary name part
  | _, none, _ => throw (.fault (if name = "__class__" then .wrongType else .missingAttribute))

/-- Takes an attribute from a value that has it by itself. Without the map of its attributes an
instance begins a new one. -/
def removeAttribute (value : Value) (name : String) : Session Unit := do
  if name = "__class__" then throw (.fault .wrongType)
  if name = Value.dictionaryName then return ← setAttribute library value name (← map [])
  let dictionary? ←
    match value, (← get).instance? value with
    | .constant owner constantName tag, _ => do
      pure (some (← perform (Store.dictionaryOf library owner constantName tag)))
    | _, instance? => pure (instance?.map (·.2))
  match dictionary? with
  | none => throw (.fault .missingAttribute)
  | some dictionary =>
    match (← get).stored dictionary with
    | .map entries =>
      let rest := entries.filter fun entry => match entry.1 with
        | .text key => key != name
        | _ => true
      if rest.length = entries.length then throw (.fault .missingAttribute)
      replace dictionary (.map rest)
    | _ => throw (.fault .missingAttribute)

/-- Calls the constructor of a class on an instance that is there. -/
def constructOn (path : ClassPath) (value : Value) (args : List Value)
    (named : List (String × Value)) : Session Unit := do
  match library.at? path with
  | some (.record _ _ fields) =>
    let parameters := fields.map fun field =>
      Render.Python.keptName path.name (Render.Python.attributeName field)
    let bound ← ofExcept (Library.bindArguments parameters args named)
    bound.forM fun (name, part) => setAttribute library value name (part.getD .null)
  | some (.dataEnum _) =>
    let bound ← ofExcept (Library.bindAll ["variant", "value"] args named)
    (["_variant", "_value"].zip bound).forM fun (name, part) => setAttribute library value name part
  | some (.enumeration _) => return
  | none => throw (.fault .missingAttribute)

/-- Calls a function of a class that does something to the value it is called on, if it is one. -/
def callChange? (path : ClassPath) (name : String) (value : Value) (args : List Value)
    (named : List (String × Value)) : Session (Option Value) := do
  match name, args with
  | "__init__", args =>
    constructOn library path value args named
    return some .null
  | "__setattr__", [key, part] =>
    setAttribute library value (← textOf key) part
    return some .null
  | "__delattr__", [key] =>
    removeAttribute library value (← textOf key)
    return some .null
  | "__getattribute__", [key] => return some (← «attribute» library value (← textOf key))
  | "__getstate__", [] =>
    let state ← «attribute» library value Value.dictionaryName
    return some (if (← entriesAt? state).any List.isEmpty then .null else state)
  | "__setattr__", _ | "__delattr__", _ | "__getattribute__", _ => throw (.fault .wrongType)
  | _, _ => return none

/-- Calls a value, such as a class or a factory. -/
def apply (value : Value) (args : List Value) (named : List (String × Value)) : Session Value := do
  let changed ←
    match (← get).stored value, args with
    | .method path name receiver, args => callChange? library path name receiver args named
    | .function path name, value :: args => callChange? library path name value args named
    | _, _ => pure none
  match changed with
  | some value => return value
  | none =>
    match (← get).stored value with
    | .language callee => applyLanguage library callee args named
    | _ =>
      let named ← named.mapM fun (name, value) => do return (name, ← view library value)
      holdOutcome ((← current library).apply (← view library value) (← viewAll library args) named)

/-- The value is one of no generated class, nor a class or a function of one. -/
def isPlain (value : Value) : Session Bool := do
  match value, (← get).instance? value, (← get).stored value with
  | _, some _, _ | .constant .., _, _ | .type _, _, _ | .function .., _, _ | _, _, .method .. =>
    return false
  | _, _, _ => return true

def call (value : Value) (method : String) (args : List Value) : Session Value := do
  if ← isPlain value then callPlain library value method args
  else apply library (← «attribute» library value method) args []

/-- The compact JSON text of a value. -/
def print (value : Value) : Session String := do
  let value ← view library value
  let text ← ofExcept ((← current library).print value)
  checkDepth .encoding value
  return text

def equal (value other : Value) : Session Bool := do
  let value ← view library value
  let other ← view library other
  let areEqual ← ofExcept (value.equal other)
  if !Descent.comparing.reaches value then checkDepth .comparing other
  return areEqual

/-- Keeps what came out of decoding. -/
def holdDecoded (outcome : Except CodecError Value) : Session Value := do
  let value ← ofExcept outcome
  checkDepth .decoding value
  hold value

def read (type : HostType) (text : String) : Session Value := do
  holdDecoded ((← current library).read type text)

/-- Decodes a JSON value as a type, on behalf of an owner. -/
def decode (json : Json) (type : HostType) (owner : Option String) : Session Value := do
  holdDecoded ((← current library).decode json type owner)

def classType (qualifiedName : String) : Session HostType := do
  ofExcept ((← current library).valueType (← view library (← member library qualifiedName)))

def readType (json : Json) : Session HostType := do
  resolve ((← current library).readType json)

/-- The class that the factory of a qualified name is taken from. -/
def factoryOwner (qualifiedName : String) : Session Value :=
  member library ((Text.partsAt '.' qualifiedName).headD "")

/-- Decodes a JSON value as the arguments of the factory of a qualified name. -/
def decodeArguments (qualifiedName key : String) (json : Json) : Session Value := do
  holdDecoded ((← current library).decodeArguments qualifiedName key (.ofJson json))

end Session

end WireModel.Codec
