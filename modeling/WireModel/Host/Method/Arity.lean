import WireModel.Host.Call.Arguments

/-!
How the methods of the classes of the language take their values.
-/

namespace WireModel

namespace Arity

/-- The operators that work on a value alone. -/
def unaryOperators : List String := [
  "__repr__", "__hash__", "__str__", "__iter__", "__len__", "__neg__", "__pos__",
    "__abs__", "__bool__",
  "__invert__", "__int__", "__float__", "__index__", "__next__"]

def sequenceClasses : List String :=
  ["str", "bytes", "list", "tuple"]

/-- How an operator of a class takes its values. -/
def ofOperator (owner name : String) : Arity :=
  if name ∈ unaryOperators then .operator 0 0 false
  else
    match name with
    | "__pow__" | "__rpow__" => .operator 1 2 true
    | "__setattr__" | "__setitem__" => .operator 2 2 true
    | "__mul__" | "__rmul__" | "__imul__" => .operator 1 1 (owner ∈ sequenceClasses)
    | "__init__" | "__call__" => .any
    | _ => .operator 1 1 false

def textMethods : List (Arity × List String) := [
  (.nothing, ["capitalize", "casefold", "isalnum", "isalpha", "isascii", "isdecimal", "isdigit",
    "isidentifier", "islower", "isnumeric", "isprintable", "isspace", "istitle", "isupper", "lower",
    "swapcase", "title", "upper", "__getnewargs__", "__sizeof__"]),
  (.one, ["join", "partition", "rpartition", "removeprefix", "removesuffix", "translate", "zfill",
    "format_map", "__format__"]),
  (.places 1 (some 2) none, ["center", "ljust", "rjust"]),
  (.places 0 (some 1) none, ["strip", "lstrip", "rstrip"]),
  (.places 2 (some 3) none, ["replace"]),
  (.places 1 (some 3) none, ["maketrans"]),
  (.parsed 1 3, ["count", "find", "index", "rfind", "rindex", "startswith", "endswith"]),
  (.named 0 [] ["encoding", "errors"], ["encode"]),
  (.named 0 [] ["tabsize"], ["expandtabs"]),
  (.named 0 [] ["sep", "maxsplit"], ["split", "rsplit"]),
  (.named 0 [] ["keepends"], ["splitlines"]),
  (.any, ["format"])]

def bytesMethods : List (Arity × List String) := [
  (.nothing, ["__bytes__", "__getnewargs__", "capitalize", "isalnum", "isalpha",
    "isascii", "isdigit",
    "islower", "isspace", "istitle", "isupper", "lower", "swapcase", "title", "upper"]),
  (.one, ["fromhex", "join", "partition", "rpartition", "removeprefix", "removesuffix", "zfill"]),
  (.places 1 (some 2) none, ["center", "ljust", "rjust"]),
  (.places 0 (some 1) none, ["strip", "lstrip", "rstrip"]),
  (.places 2 (some 3) none, ["replace"]),
  (.parsed 1 3, ["count", "find", "index", "rfind", "rindex", "startswith", "endswith"]),
  (.named 0 [] ["encoding", "errors"], ["decode"]),
  (.named 0 [] ["tabsize"], ["expandtabs"]),
  (.named 0 [] ["sep", "bytes_per_sep"], ["hex"]),
  (.named 0 [] ["sep", "maxsplit"], ["split", "rsplit"]),
  (.named 0 [] ["keepends"], ["splitlines"])]

def integerMethods : List (Arity × List String) := [
  (.nothing, ["__ceil__", "__floor__", "__trunc__", "__getnewargs__", "__sizeof__",
    "as_integer_ratio",
    "bit_count", "bit_length", "conjugate"]),
  (.one, ["__format__"]),
  (.places 0 (some 1) none, ["__round__"]),
  (.named 0 [] ["length", "byteorder", "signed"], ["to_bytes"]),
  (.named 0 ["bytes"] ["byteorder", "signed"], ["from_bytes"])]

/-- The methods of floating-point numbers. -/
def doubleMethods : List (Arity × List String) := [
  (.nothing, ["__ceil__", "__floor__", "__trunc__", "__getnewargs__", "as_integer_ratio",
    "conjugate",
    "hex", "is_integer"]),
  (.one, ["__format__", "__getformat__", "fromhex"]),
  (.places 0 (some 1) none, ["__round__"])]

def complexMethods : List (Arity × List String) := [
  (.nothing, ["__complex__", "__getnewargs__", "conjugate"]),
  (.one, ["__format__"])]

def listMethods : List (Arity × List String) := [
  (.nothing, ["__reversed__", "__sizeof__", "clear", "copy", "reverse"]),
  (.one, ["__class_getitem__", "__getitem__", "append", "count", "extend", "remove"]),
  (.places 1 (some 3) none, ["index"]),
  (.places 2 (some 2) none, ["insert"]),
  (.places 0 (some 1) none, ["pop"]),
  (.named 0 [] ["key", "reverse"], ["sort"])]

def tupleMethods : List (Arity × List String) := [
  (.nothing, ["__getnewargs__"]),
  (.one, ["__class_getitem__", "count"]),
  (.places 1 (some 3) none, ["index"])]

def mapMethods : List (Arity × List String) := [
  (.nothing, ["__reversed__", "__sizeof__", "clear", "copy", "items", "keys", "popitem", "values"]),
  (.one, ["__class_getitem__", "__contains__", "__getitem__"]),
  (.places 1 (some 2) none, ["fromkeys", "get", "pop", "setdefault"]),
  (.any, ["update"])]

/-- The methods of maps that cannot be changed. -/
def proxyMethods : List (Arity × List String) := [
  (.nothing, ["__reversed__", "copy", "items", "keys", "values"]),
  (.one, ["__class_getitem__"]),
  (.places 1 (some 2) none, ["get"])]

def setMethods : List (Arity × List String) := [
  (.nothing, ["__reduce__", "__sizeof__", "clear", "copy", "pop"]),
  (.one, ["__class_getitem__", "__contains__", "add", "discard", "isdisjoint", "issubset",
    "issuperset",
    "remove", "symmetric_difference", "symmetric_difference_update"]),
  (.any, ["difference", "difference_update", "intersection", "intersection_update",
    "union", "update"])]

def viewMethods : List (Arity × List String) := [
  (.nothing, ["__reversed__"]),
  (.one, ["isdisjoint"])]

def rangeMethods : List (Arity × List String) := [
  (.nothing, ["__reversed__"]),
  (.one, ["count", "index"]),
  (.any, ["__reduce__"])]

def classMethods : List (Arity × List String) := [
  (.nothing, ["__dir__", "__sizeof__", "__subclasses__", "mro"]),
  (.one, ["__instancecheck__", "__subclasscheck__"])]

def formMethods : List (Arity × List String) := [
  (.nothing, ["__reduce__"]),
  (.one, ["__instancecheck__", "__mro_entries__", "__subclasscheck__"])]

def commonMethods : List (Arity × List String) := [
  (.nothing, ["__dir__", "__getstate__", "__reduce__", "__sizeof__"]),
  (.one, ["__format__", "__reduce_ex__"]),
  (.any, ["__init_subclass__", "__subclasshook__"])]

def methodsOf (owner : String) : List (Arity × List String) :=
  match owner with
  | "str" => textMethods
  | "bytes" => bytesMethods
  | "int" => integerMethods
  | "float" => doubleMethods
  | "complex" => complexMethods
  | "list" => listMethods
  | "tuple" => tupleMethods
  | "dict" => mapMethods
  | "mappingproxy" => proxyMethods
  | "set" | "frozenset" => setMethods
  | "dict_keys" | "dict_values" | "dict_items" => viewMethods
  | "range" => rangeMethods
  | "type" => classMethods
  | "GenericAlias" => formMethods
  | "object" => commonMethods
  | _ => []

/-- How a method of a class takes its values. -/
def ofMethod? (owner name : String) : Option Arity :=
  ((methodsOf owner).find? fun (_, names) => names.contains name).map (·.1)

end Arity

end WireModel
