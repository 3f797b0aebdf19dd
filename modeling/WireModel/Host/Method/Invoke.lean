import WireModel.Host.Call.Declared
import WireModel.Host.Method.Set
import WireModel.Host.Method.Value

/-!
Calls of methods: those of a value, and those that a class has and that take the value first. Which
values a method takes is checked before it is looked at what it does.
-/

namespace WireModel

open Text

namespace HostType

/-- The parameters of a function of a class, besides the value that it works on. -/
def functionParameters (name : String) : List String :=
  match name with
  | "__eq__" | "__and__" | "__xor__" | "__rand__" | "__rxor__" => ["other"]
  | "__or__" => ["right"]
  | "__ror__" => ["left"]
  | "__getitem__" => ["parameters"]
  | "__class_getitem__" => ["params"]
  | "__contains__" => ["member"]
  | "__getattr__" => ["item"]
  | "__format__" => ["format_spec"]
  | "__setattr__" => ["attr", "val"]
  | "__mro_entries__" => ["bases"]
  | "__instancecheck__" => ["obj"]
  | "__subclasscheck__" => ["cls"]
  | "copy_with" => ["params"]
  | "__reduce_ex__" => ["proto"]
  | _ => []

/-- The values that a function of a class is given, besides the one that it works on. -/
def bindFunctionOf (owner : Ancestor) (name : String) (arguments : CallArguments) :
    Except Fault Given := do
  let shape := FunctionShape.plain (owner.qualifiedName ++ "." ++ name) 1
    ((functionParameters name).map fun name => (name, Option.none))
  return (← shape.bind arguments).map some

/-- The values that a method is given, besides the one that it works on, and those by name that it
takes as they are. -/
def bindMethod (owner : Ancestor) (isFunction : Bool) (name : String) (arguments : CallArguments) :
    Except Fault (Given × List (String × HostType)) := do
  if isFunction then
    if name = "__init__" || name = "__call__" then
      return (arguments.places.map some, arguments.named)
    else return (← bindFunctionOf owner name arguments, [])
  else
    let arity := (Arity.ofMethod? owner.name name).getD (Arity.ofOperator owner.name name)
    let given ← arity.bindAll (owner.qualifiedName ++ "." ++ name) arguments
    match arity with
    | .any => return (given, arguments.named)
    | _ => return (given, [])

/-- What a method of a class of the language gives. -/
def languageMethod? (context : MethodContext) (owner : String) (value : HostType) (name : String)
    (given : Given) (named : List (String × HostType)) : Option (Changing HostType) :=
  let unchanged (answer? : Option (Building HostType)) : Option (Changing HostType) :=
    answer?.map Changing.unchanged
  let model := context.model
  match owner, value with
  | "str", value => unchanged (textMethod? model (value.asText?.getD "") name given named)
  | "int", value | "bool", value | "float", value | "complex", value =>
    let number := match value.numeral?, value with
      | some _, _ | _, .constant (.complex ..) => value
      | _, _ => ofInt 0
    unchanged (numberMethod? model owner number name given)
  | "bytes", .constant (.bytes content) => unchanged (bytesMethod? model content name given)
  | "list", .container .list items => rowMethod? context .list items name given
  | "tuple", .container .tuple items => rowMethod? context .tuple items name given
  | "dict", .container .map pairs => mapMethod? context .map pairs name given named
  | "dict", _ => if name = "fromkeys" then mapMethod? context .map [] name given [] else Option.none
  | "mappingproxy", .container .proxy pairs => mapMethod? context .proxy pairs name given []
  | _, .container (.view part) items => viewMethod? context part items name given
  | _, .container .set items => setMethod? model .set items name given
  | _, .container .frozenSet items => setMethod? model .frozenSet items name given
  | "range", value => unchanged (rangeMethod? model value name given)
  | "slice", .record .slice [(_, first), (_, last), (_, step)] =>
    if name = "indices" then
      some (Changing.settled (sliceIndices first last step ((given.at? 0).getD .none)))
    else Option.none
  | _, .container (.stream typeName) items => streamMethod? typeName items name
  | _, _ => Option.none

/-- What a method of a class gives on a value that is one of the class. A method whose work is not
told gives a value of which nothing is known. -/
def invoke (context : MethodContext) (owner : Ancestor) (isFunction : Bool) (name : String)
    (value : HostType) (arguments : CallArguments) : Changing HostType := do
  let (given, named) ← bindMethod owner isFunction name arguments
  match owner, name with
  | .declared ref, "__init__" =>
    discard (ofDeclared context.model ref arguments)
    return .none
  | owner, name =>
    match languageMethod? context owner.name value name given named with
    | some answer => answer
    | Option.none =>
      match commonMethod? context owner.name value name given arguments with
      | some answer => return ← answer
      | Option.none => return .named "object" "<object>"

def ownerOf (model : Model) (qualifiedName : String) : Ancestor × String :=
  let owner := ".".intercalate (Text.partsAt '.' qualifiedName).dropLast
  let declared? := model.classes.find? fun found =>
    found.ref.qualifiedName == owner && (LanguageClass.find? owner).isNone
  ((declared?.map fun found => Ancestor.declared found.ref).getD (.language owner),
    lastComponent qualifiedName)

/-- The value that a method of a class is to work on, and what else it is given. -/
def takeReceiver (model : Model) (typeName : String) (owner : Ancestor) (name : String)
    (arguments : CallArguments) : Except Fault (HostType × CallArguments) := do
  let isOperator := typeName = "wrapper_descriptor"
  match arguments.places with
  | [] =>
    throw (.wrongOperands (
      if isOperator then "descriptor '" ++ name ++ "' of '" ++ owner.name ++
        "' object needs an argument"
      else if typeName = "function" then
        owner.qualifiedName ++ "." ++ name ++ "() missing 1 required positional argument: 'self'"
      else "unbound method " ++ owner.name ++ "." ++ name ++ "() needs an argument"))
  | value :: places =>
    if typeName != "function" && !isSubclass model (value.ownClass model) owner then
      let actual := value.typeName
      throw (.wrongOperands (
        if isOperator then
          "descriptor '" ++ name ++ "' requires a '" ++ owner.name ++ "' object but received a '" ++
            actual ++ "'"
        else
          "descriptor '" ++ name ++ "' for '" ++ owner.name ++ "' objects doesn't apply to a '" ++
            actual ++ "' object"))
    return (value, { arguments with places := places })

/-- Makes an instance of a class that is given first. -/
def create (context : MethodContext) (owner : Ancestor) (arguments : CallArguments) :
    Building HostType := do
  let method := owner.name ++ ".__new__"
  match arguments.places with
  | [] => throw (.wrongOperands (method ++ "(): not enough arguments"))
  | type :: places =>
    match type.asClass? with
    | Option.none =>
      throw (.wrongOperands
        (method ++ "(X): X is not a type object (" ++ type.typeName ++ ")"))
    | some found =>
      if !isSubclass context.model found owner then
        throw (.wrongOperands (method ++ "(" ++ found.name ++ "): " ++ found.name ++
          " is not a subtype of " ++ owner.name))
      match found with
      | .declared ref => return .record (.declared ref) []
      | .language _ => context.call type { arguments with places := places }

/-- What a routine of a class gives that is called by itself. -/
def callRoutine (context : MethodContext) (typeName qualifiedName : String)
    (arguments : CallArguments) : Building HostType := do
  let (owner, name) := ownerOf context.model qualifiedName
  match typeName, name with
  | "builtin_function_or_method", "__new__" => create context owner arguments
  | "builtin_function_or_method", name =>
    return ((← (invoke context owner false name .none arguments).run .none)).1
  | "wrapper_descriptor", name | "method_descriptor", name | "function", name =>
    let (value, arguments) ← takeReceiver context.model typeName owner name arguments
    return (← (invoke context owner (typeName = "function") name value arguments).run value).1
  | typeName, _ => throw (.notCallable typeName)

/-- What a method of a value gives, and the value as it is afterwards. -/
def callBound (context : MethodContext) (value : HostType) (owner : Ancestor) (routine : Constant)
    (arguments : CallArguments) : Building (HostType × HostType) := do
  match routine with
  | .routine typeName qualifiedName _ =>
    (invoke context owner (typeName = "method") (lastComponent qualifiedName) value
      arguments).run value
  | routine => throw (.notCallable routine.typeName)

end HostType

end WireModel
