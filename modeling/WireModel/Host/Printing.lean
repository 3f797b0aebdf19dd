import WireModel.Host.Type
import WireModel.Json.Shown
import WireModel.Number.Layout
import WireModel.Text.Split

/-!
The text of a type in messages: alone, and as an argument of another type.
-/

namespace WireModel

open Text

/-- Where the text of a type stands. -/
inductive Place where
  /-- By itself. -/
  | alone
  /-- Between the brackets of a qualified form. -/
  | argument
  /-- Between the brackets of a native form. -/
  | nativeArgument
  /-- Among the members of a union in the native spelling. -/
  | member
  /-- As the type of a parameter of construction. -/
  | parameter
  deriving DecidableEq, Repr

/-- The text of a class: marked as a class when alone, by its bare name as a parameter, and else by
its dotted name. -/
def Place.classText (place : Place) (alone dotted bare : String) : String :=
  match place with
  | .alone => alone
  | .argument | .nativeArgument | .member => dotted
  | .parameter => bare

namespace ClassRef

/-- The dotted name of a class; those of the language itself go without a module. -/
def dotted (ref : ClassRef) : String :=
  if ref.module = "builtins" then ref.qualifiedName else ref.module ++ "." ++ ref.qualifiedName

/-- The text of a class that stands alone. -/
def shown (ref : ClassRef) : String :=
  match ref.category with
  | .enumeration base => (if base = .flags then "<flag " else "<enum ") ++ quoted ref.name ++ ">"
  | _ => "<class '" ++ ref.dotted ++ "'>"

end ClassRef

def Primitive.shownAt (type : Primitive) (place : Place) : String :=
  if type.isMarker then "dtogen.host." ++ type.name
  else place.classText ("<class '" ++ type.name ++ "'>") type.name type.name

/-- What stands before the brackets. -/
def Head.dotted : Head → String
  | .list .native => "list"
  | .list .qualified => "typing.List"
  | .map .native => "dict"
  | .map .qualified => "typing.Dict"
  | .box => "dtogen.host.Box"
  | .declared ref => ref.dotted
  | .builtin name => name
  | .classVar => "typing.ClassVar"
  | .literal => "typing.Literal"
  | .generic => "typing.Generic"

/-- The brackets are those of the language's own classes. -/
def Head.isNative : Head → Bool
  | .list .native | .map .native | .builtin _ => true
  | .declared ref => ref.brackets = .anyNumber
  | _ => false

def Head.place (head : Head) : Place :=
  if head.isNative then .nativeArgument else .argument

/-- The part of a dotted name behind the last point. -/
def lastComponent (name : String) : String :=
  (partsAt '.' name).getLast?.getD name

/-- The text of a name of the host language. -/
def Builtin.shownAt (type : Builtin) (place : Place) : String :=
  match type with
  | .classNamed name => place.classText ("<class '" ++ name ++ "'>") name (lastComponent name)
  | .box => place.classText "<class 'dtogen.host.Box'>" "dtogen.host.Box" "Box"
  | .annotatedForm => place.classText "<class 'typing.Annotated'>" "typing.Annotated" "Annotated"
  | .genericForm => place.classText "<class 'typing.Generic'>" "typing.Generic" "Generic"
  | .any => place.classText "typing.Any" "typing.Any" "Any"
  | .functionNamed name =>
    if place = .nativeArgument || place = .member then name
    else "<built-in function " ++ name ++ ">"
  | .listForm => "typing.List"
  | .mapForm => "typing.Dict"
  | .optionalForm => "typing.Optional"
  | .unionForm => "typing.Union"
  | .classVarForm => "typing.ClassVar"
  | .renameFunction =>
    match place with
    | .argument => "rename"
    | .nativeArgument | .member => "dtogen.host.rename"
    | .alone | .parameter => "<function rename>"

/-- The text of a member of an enumeration; a set of no flags has no name. -/
def memberText (className name : String) (value : Json) : String :=
  "<" ++ className ++ (if name.isEmpty then "" else "." ++ name) ++ ": " ++ value.shownFixed ++ ">"

/-- The text of a complex number; a real part of zero is left out. -/
def complexText (real imaginary : Double) : String :=
  let part (value : Double) : String := String.ofList (value.styled .plain false false false)
  let second := part imaginary
  if real = .zero false then second ++ "j"
  else "(" ++ part real ++ (if second.startsWith "-" then "" else "+") ++ second ++ "j)"

/-- The text of a value that has no parts. -/
def Constant.shown : Constant → String
  | .bool value => if value then "True" else "False"
  | .int value => toString value
  | .float value => value.text
  | .complex real imaginary => complexText real imaginary
  | .bytes content => quotedBytes content
  | .member owner name value => memberText owner.name name value
  | .routine _ _ shown => shown
  | .other _ shown => shown

/-- The text of a value that has no parts, at a place. -/
def Constant.shownAt (value : Constant) (place : Place) : String :=
  match value, place with
  | .other "ellipsis" _, .argument | .other "ellipsis" _, .nativeArgument => "..."
  | value, _ => value.shown

/-- The name of a class whose instances show their attributes. -/
def RecordClass.shown : RecordClass → String
  | .rename => "Rename"
  | .variant => "VariantDecl"
  | .range => "range"
  | .slice => "slice"
  | .field => "Field"
  | .function _ => "function"
  | .declared ref => ref.qualifiedName

/-- The text of a container, given those of its items. -/
def Container.shown (kind : Container) (items : List String) : String :=
  let joined := ", ".intercalate items
  match kind, items with
  | .tuple, [item] => "(" ++ item ++ ",)"
  | .tuple, _ => "(" ++ joined ++ ")"
  | .list, _ => "[" ++ joined ++ "]"
  | .set, [] => "set()"
  | .frozenSet, [] => "frozenset()"
  | .frozenSet, _ => "frozenset(\x7b" ++ joined ++ "\x7d)"
  | .proxy, _ => "mappingproxy(\x7b" ++ joined ++ "\x7d)"
  | .view part, _ => (Container.view part).typeName ++ "([" ++ joined ++ "])"
  | .stream typeName, _ => "<" ++ typeName ++ ">"
  | .set, _ | .map, _ => "\x7b" ++ joined ++ "\x7d"

namespace HostType

/-- The text of a function that an expression has made, given its attributes. -/
def shownFunction (place : Place) (attributes : List (String × HostType)) : String :=
  let name := match attributes.lookup "__qualname__" with
    | some (.text name) => name
    | _ => ""
  match place, attributes.lookup "__module__" with
  | .argument, _ => "<lambda>"
  | .nativeArgument, some (.text module) => module ++ "." ++ name
  | _, _ => "<function " ++ name ++ ">"

mutual

def shownAt (place : Place) : HostType → String
  | .primitive type => type.shownAt place
  | .declared ref => place.classText ref.shown ref.dotted ref.name
  | .builtin type => type.shownAt place
  | .noneType =>
    if place = .member then "None" else place.classText "<class 'NoneType'>" "NoneType" "NoneType"
  | .none => "None"
  | .variable name => "~" ++ name
  | .text expression => quoted expression
  | .reference _ expression => "ForwardRef(" ++ quoted expression ++ ")"
  | .applied head [] => head.dotted ++ "[()]"
  | .applied head args => head.dotted ++ "[" ++ ", ".intercalate (shownAll head.place args) ++ "]"
  | .union .native members => " | ".intercalate (shownAll .member members)
  | .union .qualified [.noneType, type] => "typing.Optional[" ++ shownAt .argument type ++ "]"
  | .union .qualified [type, .noneType] => "typing.Optional[" ++ shownAt .argument type ++ "]"
  | .union .qualified members =>
    "typing.Union[" ++ ", ".intercalate (shownAll .argument members) ++ "]"
  | .annotated base metadata =>
    "typing.Annotated[" ++
      ", ".intercalate (shownAt .argument base :: shownAll .alone metadata) ++ "]"
  | .initVar type => "dataclasses.InitVar[" ++ shownAt .parameter type ++ "]"
  | .constant value => value.shownAt place
  | .container .map items => Container.map.shown (shownPairs items)
  | .container .proxy items => Container.proxy.shown (shownPairs items)
  | .container kind items => kind.shown (shownAll .alone items)
  | .record .range attributes => "range(" ++ ", ".intercalate (shownBounds attributes) ++ ")"
  | .record .slice attributes => "slice(" ++ ", ".intercalate (shownValues attributes) ++ ")"
  | .record (.function _) attributes => shownFunction place attributes
  | .record owner attributes =>
    owner.shown ++ "(" ++ ", ".intercalate (shownAttributes attributes) ++ ")"
  | .bound _ _ routine => routine.shownAt place

def shownAll (place : Place) : List HostType → List String
  | [] => []
  | type :: rest => shownAt place type :: shownAll place rest

/-- The texts of the entries of a map. -/
def shownPairs : List HostType → List String
  | [] => []
  | .container _ [key, value] :: rest =>
    (shownAt .alone key ++ ": " ++ shownAt .alone value) :: shownPairs rest
  | item :: rest => shownAt .alone item :: shownPairs rest

/-- The texts of the bounds of a range; a step of one goes without saying. -/
def shownBounds : List (String × HostType) → List String
  | [] => []
  | (name, .constant (.int value)) :: rest =>
    if name = "step" && value = 1 then shownBounds rest else toString value :: shownBounds rest
  | _ :: rest => shownBounds rest

/-- The texts of the values of attributes. -/
def shownValues : List (String × HostType) → List String
  | [] => []
  | (_, value) :: rest => shownAt .alone value :: shownValues rest

/-- The texts of the attributes of an instance. -/
def shownAttributes : List (String × HostType) → List String
  | [] => []
  | (name, value) :: rest => (name ++ "=" ++ shownAt .alone value) :: shownAttributes rest

end

/-- The text of a type that stands alone. -/
def shown (type : HostType) : String :=
  type.shownAt .alone

end HostType

end WireModel
