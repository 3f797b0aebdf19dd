import WireModel.Host.Attribute

/-!
Where the names of string annotations are looked up: in a module, in the class that the annotation
belongs to, and in the language.
-/

namespace WireModel

/-- Where the names of an annotation are looked up: in a module of the model, and then perhaps in
the class that the annotation belongs to. -/
structure Scope where
  model : Model
  module : String
  /-- A class that has its own name in the scope. -/
  owner : Option ClassRef
  /-- A class whose attributes have their names in the scope. -/
  record : Option ClassRef

namespace Scope

/-- The names that every module has besides its own. -/
def hostName? : String → Option HostType
  | "Annotated" => some (.builtin .annotatedForm)
  | "Any" => some (.builtin .any)
  | "Dict" => some (.builtin .mapForm)
  | "Generic" => some (.builtin .genericForm)
  | "List" => some (.builtin .listForm)
  | "Optional" => some (.builtin .optionalForm)
  | "Union" => some (.builtin .unionForm)
  | "Box" => some (.builtin .box)
  | "rename" => some (.builtin .renameFunction)
  | name =>
    match Primitive.ofName? name with
    | some type => if type.isMarker then some (.primitive type) else none
    | none => none

/-- The names that tell something about a module. -/
def moduleFact? (module : String) : String → Option HostType
  | "__name__" => some (.text module)
  | "__doc__" | "__package__" | "__loader__" | "__spec__" => some .none
  | _ => none

def moduleName? (model : Model) (module name : String) : Option HostType :=
  let declared := (model.resolve? module name).map HostType.declared
  let typeVariable := if name ∈ model.typeVariables then some (HostType.variable name) else none
  ((declared.or typeVariable).or (hostName? name)).or (moduleFact? module name)

/-- The classes of the language that no primitive stands for. -/
def builtinClasses : List String := [
  "object", "bytes", "complex", "list", "dict", "tuple", "set", "frozenset", "type", "bytearray",
  "memoryview", "range", "slice", "property", "staticmethod", "classmethod", "super", "enumerate",
  "filter", "map", "reversed", "zip", "BaseException", "BaseExceptionGroup", "Exception",
  "ExceptionGroup", "GeneratorExit", "KeyboardInterrupt", "SystemExit", "ArithmeticError",
  "AssertionError", "AttributeError", "BlockingIOError", "BrokenPipeError", "BufferError",
  "BytesWarning", "ChildProcessError", "ConnectionAbortedError", "ConnectionError",
  "ConnectionRefusedError", "ConnectionResetError", "DeprecationWarning", "EOFError",
  "EncodingWarning", "FileExistsError", "FileNotFoundError", "FloatingPointError", "FutureWarning",
  "ImportError", "ImportWarning", "IndentationError", "IndexError", "InterruptedError",
  "IsADirectoryError", "KeyError", "LookupError", "MemoryError", "ModuleNotFoundError", "NameError",
  "NotADirectoryError", "NotImplementedError", "OSError", "OverflowError",
  "PendingDeprecationWarning", "PermissionError", "ProcessLookupError", "RecursionError",
  "ReferenceError", "ResourceWarning", "RuntimeError", "RuntimeWarning", "StopAsyncIteration",
  "StopIteration", "SyntaxError", "SyntaxWarning", "SystemError", "TabError", "TimeoutError",
  "TypeError", "UnboundLocalError", "UnicodeDecodeError", "UnicodeEncodeError", "UnicodeError",
  "UnicodeTranslateError", "UnicodeWarning", "UserWarning", "ValueError", "Warning",
  "ZeroDivisionError"]

def builtinFunctions : List String := [
  "abs", "aiter", "all", "anext", "any", "ascii", "bin", "breakpoint", "callable", "chr", "compile",
  "delattr", "dir", "divmod", "eval", "exec", "format", "getattr", "globals", "hasattr", "hash",
  "hex", "id", "input", "isinstance", "issubclass", "iter", "len", "locals", "max", "min", "next",
  "oct", "open", "ord", "pow", "print", "repr", "round", "setattr", "sorted", "sum", "vars",
  "__build_class__", "__import__"]

/-- The names of the language that stand for single values. -/
def builtinValue? : String → Option HostType
  | "EnvironmentError" | "IOError" => some (.builtin (.classNamed "OSError"))
  | "Ellipsis" => some (.named "ellipsis" "Ellipsis")
  | "NotImplemented" => some (.named "NotImplementedType" "NotImplemented")
  | "__debug__" => some (.constant (.bool true))
  | "exit" => some (.named "Quitter" "Use exit() or Ctrl-D (i.e. EOF) to exit")
  | "quit" => some (.named "Quitter" "Use quit() or Ctrl-D (i.e. EOF) to exit")
  | "help" => some (.named "_Helper"
      "Type help() for interactive help, or help(object) for help about object.")
  | "license" => some (.named "_Printer" "Type license() to see the full license text")
  | _ => none

def languageName? (name : String) : Option HostType :=
  match Primitive.ofName? name with
  | some type => if type.isMarker then none else some (.primitive type)
  | none =>
    if name ∈ builtinClasses then some (.builtin (.classNamed name))
    else if name ∈ builtinFunctions then some (.builtin (.functionNamed name))
    else builtinValue? name

/-- What the class that an annotation belongs to has under a name. -/
def recordName? (scope : Scope) (name : String) : Option HostType := do
  let found ← scope.model.find? (← scope.record)
  found.ownValue? name

/-- What a name stands for: a name of the module, the owner, an attribute of the class, or a name of
the language; the first of these that there is. Inside a function the module of a record is not
seen. -/
def find? (scope : Scope) (isInner : Bool) (name : String) : Option HostType :=
  let inModule :=
    if isInner && scope.record.isSome then none else moduleName? scope.model scope.module name
  let owner := scope.owner.bind fun ref => if ref.name = name then some (.declared ref) else none
  ((inModule.or owner).or (scope.recordName? name)).or (languageName? name)

end Scope

end WireModel
