import WireModel.Host.Type
import WireModel.Text.Surrogate

/-!
The values that the codec works on: plain ones, instances of generated classes, and these classes
and their functions themselves.
-/

namespace WireModel.Codec

/-- A generated class: one with a module of its own, or one nested in a data enum. -/
inductive ClassPath where
  | top (name : String)
  | nested (outer name : String)
  deriving DecidableEq, Repr, Inhabited

namespace ClassPath

def name : ClassPath → String
  | top name => name
  | nested _ name => name

def qualifiedName : ClassPath → String
  | top name => name
  | nested outer name => outer ++ "." ++ name

/-- The class whose module holds the class. -/
def outermost : ClassPath → String
  | top name => name
  | nested outer _ => outer

/-- The module of the class binds the name to a class, so that methods cannot reach what the name
means elsewhere. -/
def hides (path : ClassPath) (name : String) : Bool :=
  path.outermost == name

end ClassPath

/-- What shows a map without being one that can be changed. -/
inductive ViewKind where
  /-- A part of its entries. -/
  | listed (part : MapPart)
  | proxy
  deriving DecidableEq, Repr, Inhabited

def ViewKind.typeName : ViewKind → String
  | listed part => (Container.view part).typeName
  | proxy => Container.proxy.typeName

/-- The kinds of objects that can hold others. -/
inductive ObjectKind where
  | list
  | tuple
  | map
  | view
  | record
  deriving DecidableEq, Repr, Inhabited

/-- A value of the codec. -/
inductive Value where
  | null
  | bool (value : Bool)
  | int (value : Int)
  | float (value : Double)
  | text (value : String)
  | list (items : List Value)
  /-- The payload of a tuple variant. -/
  | tuple (items : List Value)
  | map (entries : List (Value × Value))
  /-- A constant of an enumeration. -/
  | constant (owner : ClassPath) (name tag : String)
  /-- A constant with the attributes that it has since some of them were changed. -/
  | altered (attributes : List (String × Value)) (base : Value)
  /-- An instance of a record or of a holder class. -/
  | record (owner : ClassPath) (attributes : List (String × Value))
  /-- An instance of a data enum. -/
  | choice (owner : String) (discriminant payload : Value)
  /-- Any other value of the language, whose parts are none of the codec. -/
  | language (value : HostType)
  /-- An object that has nothing by itself. -/
  | bare
  /-- A class. -/
  | type (path : ClassPath)
  /-- A function of a class. -/
  | function (owner : ClassPath) (name : String)
  /-- A function of a class with the value that it is called on. -/
  | method (owner : ClassPath) (name : String) (receiver : Value)
  /-- A view of a map, which is always as the map is. -/
  | view (kind : ViewKind) (whole : Value)
  /-- What stands for an attribute that an instance of the class should have but has not. -/
  | unset
  /-- An object that can be told from equal ones by its number, with the attributes that were set on
  it besides those of its class. -/
  | object (serial : Nat) (extras : List (String × Value)) (content : Value)
  /-- The object of a number, where what it is does not matter or is said further outside. -/
  | reference (serial : Nat) (kind : ObjectKind)
  deriving Inhabited

namespace Value

mutual

def ofJson : Json → Value
  | .null => .null
  | .bool value => .bool value
  | .int value => .int value
  | .float value => .float value
  | .string value => .text value
  | .array items => .list (ofItems items)
  | .object entries => .map (ofEntries entries)

def ofItems : List Json → List Value
  | [] => []
  | item :: rest => ofJson item :: ofItems rest

def ofEntries : List (String × Json) → List (Value × Value)
  | [] => []
  | (key, value) :: rest => (.text key, ofJson value) :: ofEntries rest

end

/-- What a value is, without its number and without what was changed about a constant. -/
def content : Value → Value
  | .object _ _ content => content
  | .altered _ base => base
  | value => value

/-- The attributes that were set on a value besides those of its class. -/
def extras : Value → List (String × Value)
  | .object _ extras _ => extras
  | _ => []

/-- The class and the name of a constant, by which it is told from all others. -/
def constant? : Value → Option (ClassPath × String)
  | .constant owner name _ | .altered _ (.constant owner name _) => some (owner, name)
  | _ => none

def isSet : Value → Bool
  | .unset => false
  | _ => true

def serial? : Value → Option Nat
  | .object serial _ _ | .reference serial _ => some serial
  | _ => none

/-- The name of the type of a value that is no instance of a generated class. -/
def typeName : Value → String
  | .null => "NoneType"
  | .bool _ => "bool"
  | .int _ => "int"
  | .float _ => "float"
  | .text _ => "str"
  | .list _ => "list"
  | .tuple _ => "tuple"
  | .map _ => "dict"
  | .language value => value.typeName
  | .bare => "object"
  | .type _ => "type"
  | .function .. => "function"
  | .method .. => "method"
  | .view kind _ => kind.typeName
  | .object _ _ content => content.typeName
  | _ => "object"

def kind : Value → ObjectKind
  | .list _ => .list
  | .tuple _ => .tuple
  | .map _ => .map
  | .view .. => .view
  | .object _ _ content => content.kind
  | .reference _ kind => kind
  | _ => .record

/-- The value is no number, although of their type. -/
def isNotANumber : Value → Bool
  | .float .notANumber => true
  | _ => false

/-- The values are one and the same. Texts are, if they are equal, and there is one value that is
read where a text says that something is no number. -/
def isIdentical (value other : Value) : Bool :=
  match value, other with
  | .null, .null => true
  | .text a, .text b => a == b
  | .float a, .float b => a == .notANumber && b == .notANumber
  | .type a, .type b => a == b
  | value, other =>
    match value.constant?, other.constant? with
    | some a, some b => a == b
    | none, none => value.serial?.isSome && value.serial? == other.serial?
    | _, _ => false

mutual

/-- The value may be a key of a map. Classes with an equality of their own have no hash. -/
def isHashable : Value → Bool
  | .view (.listed .values) _ => true
  | .list _ | .map _ | .view .. | .record .. | .choice .. => false
  | .language value => value.unhashable?.isNone
  | .tuple items => areHashable items
  | .object _ _ content => isHashable content
  | .reference _ kind => kind == .tuple
  | _ => true

def areHashable : List Value → Bool
  | [] => true
  | item :: rest => isHashable item && areHashable rest

end

def characterAt? (text : String) (place : Nat) : Option Value :=
  (Text.letters text)[place]?.map .text

end Value

end WireModel.Codec
