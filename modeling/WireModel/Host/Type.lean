import WireModel.Json.Basic

/-!
The types of the host language, as they stand in declarations: primitives, declared classes,
containers, unions, annotated types, type variables and string annotations that name a type; and the
values that may stand where a type is expected.
-/

namespace WireModel

/-- The primitive types; those with a width mark how wide the target should be. -/
inductive Primitive where
  | bool
  | int
  | float
  | str
  | i8
  | i16
  | i32
  | i64
  | f32
  | f64
  deriving DecidableEq, Repr, Inhabited

namespace Primitive

def name : Primitive → String
  | bool => "bool"
  | int => "int"
  | float => "float"
  | str => "str"
  | i8 => "i8"
  | i16 => "i16"
  | i32 => "i32"
  | i64 => "i64"
  | f32 => "f32"
  | f64 => "f64"

def all : List Primitive :=
  [bool, int, float, str, i8, i16, i32, i64, f32, f64]

def ofName? (name : String) : Option Primitive :=
  all.find? (·.name == name)

/-- The type only marks a width and is no class of its own. -/
def isMarker : Primitive → Bool
  | bool | int | float | str => false
  | _ => true

end Primitive

/-- What the values of an enumeration may be. -/
inductive EnumBase where
  | plain
  | integers
  | texts
  | flags
  deriving DecidableEq, Repr, Inhabited

/-- What the generator makes of a declared class. -/
inductive Category where
  /-- A record of named fields. -/
  | record
  /-- A plain enumeration; a set of flags is one too. -/
  | enumeration (base : EnumBase)
  /-- A tagged union of variants. -/
  | dataEnum
  /-- A class that is none of these. -/
  | opaqueClass
  deriving DecidableEq, Repr, Inhabited

/-- What brackets behind a class may hold. -/
inductive Brackets where
  /-- There may be no brackets. -/
  | none
  /-- Any number of arguments, as behind a list or a map. -/
  | anyNumber
  /-- An argument for each type parameter. -/
  | parameters
  deriving DecidableEq, Repr, Inhabited

/-- A declared class, as far as types that mention it show: the number of its declaration, its
names, its category, its type parameters, and what its brackets may hold. -/
structure ClassRef where
  serial : Nat
  module : String
  qualifiedName : String
  name : String
  category : Category
  parameters : List String
  brackets : Brackets
  deriving DecidableEq, Repr, Inhabited

/-- A class: a declared one, or one of the language. -/
inductive Ancestor where
  | declared (ref : ClassRef)
  | language (name : String)
  deriving DecidableEq, Repr, Inhabited

/-- Types that can be written in two ways keep the way: by the language's own form (`list[T]`,
`A | B`) or by the qualified one (`typing.List[T]`, `typing.Union[A, B]`). -/
inductive Spelling where
  | native
  | qualified
  deriving DecidableEq, Repr, Inhabited

/-- What stands before the brackets of an applied type. -/
inductive Head where
  | list (spelling : Spelling)
  | map (spelling : Spelling)
  | box
  | declared (ref : ClassRef)
  /-- A built-in generic class other than lists and maps. -/
  | builtin (name : String)
  | classVar
  | literal
  /-- The class that makes classes generic. -/
  | generic
  deriving DecidableEq, Repr, Inhabited

/-- Names of the host language that stand for themselves. -/
inductive Builtin where
  /-- A built-in class that is no primitive, such as `bytes`. -/
  | classNamed (name : String)
  | functionNamed (name : String)
  | any
  | box
  /-- The containers without arguments, in the qualified spelling. -/
  | listForm
  | mapForm
  | optionalForm
  | unionForm
  | annotatedForm
  | genericForm
  | classVarForm
  | renameFunction
  deriving DecidableEq, Repr, Inhabited

/-- What a view of a map lists. -/
inductive MapPart where
  | keys
  | values
  | entries
  deriving DecidableEq, Repr, Inhabited

/-- The containers of values. Those of a map are pairs of a key and a value. -/
inductive Container where
  | tuple
  | list
  | set
  | frozenSet
  | map
  /-- A map that cannot be changed through it. -/
  | proxy
  /-- What a map lists of its entries. -/
  | view (part : MapPart)
  /-- What can only be walked, by the name of its type. -/
  | stream (typeName : String)
  deriving DecidableEq, Repr, Inhabited

/-- The classes whose instances show their attributes. -/
inductive RecordClass where
  /-- Metadata that overrides the name on the wire. -/
  | rename
  /-- A variant of a data enum. -/
  | variant
  /-- Integers from a first one on, up to before another one, in steps. -/
  | range
  /-- Places from a first one on, up to before another one, in steps. -/
  | slice
  /-- A field of a record. -/
  | field
  /-- A function that an expression has made, by its number among all such. -/
  | function (serial : Nat)
  | declared (ref : ClassRef)
  deriving DecidableEq, Repr, Inhabited

/-- A value that is no type and has no parts. -/
inductive Constant where
  | bool (value : Bool)
  | int (value : Int)
  | float (value : Double)
  | complex (real imaginary : Double)
  | bytes (content : List Nat)
  /-- A member of an enumeration. -/
  | member (owner : ClassRef) (name : String) (value : Json)
  /-- Something to call, by the name of its type, its own name and its text. -/
  | routine (typeName qualifiedName shown : String)
  /-- Any other value, by the name of its type and its text. -/
  | other (typeName shown : String)
  deriving Inhabited

/-- A type expression of the host language. -/
inductive HostType where
  | primitive (type : Primitive)
  | declared (ref : ClassRef)
  | builtin (type : Builtin)
  /-- The class of the absent value. -/
  | noneType
  /-- The absent value itself, written where a type is expected. -/
  | none
  | variable (name : String)
  /-- A string annotation. -/
  | text (expression : String)
  /-- A string annotation that stands inside another type, under its number among all such. -/
  | reference (serial : Nat) (expression : String)
  | applied (head : Head) (args : List HostType)
  | union (spelling : Spelling) (members : List HostType)
  | annotated (base : HostType) (metadata : List HostType)
  /-- A parameter of construction that is no field. -/
  | initVar (type : HostType)
  | constant (value : Constant)
  | container (kind : Container) (items : List HostType)
  /-- An instance of a class that shows its attributes. -/
  | record (owner : RecordClass) (attributes : List (String × HostType))
  /-- Something to call that a class has, with the value that it works on. -/
  | bound (receiver : HostType) (owner : Ancestor) (routine : Constant)
  deriving Inhabited

namespace Constant

/-- The number or the text that a value counts as. -/
def content? : Constant → Option Json
  | .bool value => some (.bool value)
  | .int value => some (.int value)
  | .float value => some (.float value)
  | .member owner _ value =>
    match owner.category with
    | .enumeration .integers | .enumeration .texts => some value
    | _ => Option.none
  | .complex .. | .bytes _ | .routine .. | .other .. => Option.none

/-- The value is a complex number without an imaginary part, and equal to a number. -/
def isReal (value : Constant) (number : Json) : Bool :=
  match value with
  | .complex real imaginary => imaginary.equalInt 0 && (Json.float real).same number
  | _ => false

/-- The values are equal: numbers and texts by what they are, and members only to themselves. -/
def same (value other : Constant) : Bool :=
  match value.content?, other.content? with
  | some a, some b => a.same b
  | some a, Option.none => other.isReal a
  | Option.none, some b => value.isReal b
  | Option.none, Option.none =>
    match value, other with
    | .complex a b, .complex c d => a.equal c && b.equal d
    | .bytes a, .bytes b => a == b
    | .member a m _, .member b n _ => a == b && m == n
    | .routine a m s, .routine b n t => a == b && m == n && s == t
    | .other a s, .other b t => a == b && s == t
    | _, _ => false

def isText (value : Constant) (text : String) : Bool :=
  match value.content? with
  | some (.string content) => content == text
  | _ => false

/-- The name of the type of a value. -/
def typeName : Constant → String
  | .bool _ => "bool"
  | .int _ => "int"
  | .float _ => "float"
  | .complex .. => "complex"
  | .bytes _ => "bytes"
  | .member owner _ _ => owner.name
  | .routine typeName _ _ => typeName
  | .other typeName _ => typeName

end Constant

def Container.typeName : Container → String
  | .tuple => "tuple"
  | .list => "list"
  | .set => "set"
  | .frozenSet => "frozenset"
  | .map => "dict"
  | .proxy => "mappingproxy"
  | .view .keys => "dict_keys"
  | .view .values => "dict_values"
  | .view .entries => "dict_items"
  | .stream typeName => typeName

/-- The name of a class whose instances show their attributes. -/
def RecordClass.typeName : RecordClass → String
  | .rename => "Rename"
  | .variant => "VariantDecl"
  | .range => "range"
  | .slice => "slice"
  | .field => "Field"
  | .function _ => "function"
  | .declared ref => ref.name

namespace HostType

def typeName : HostType → String
  | .primitive type => if type.isMarker then "NewType" else "type"
  | .declared ref =>
    match ref.category with
    | .enumeration _ => "EnumType"
    | _ => "type"
  | .builtin .any => "_AnyMeta"
  | .builtin (.functionNamed _) => "builtin_function_or_method"
  | .builtin .renameFunction => "function"
  | .builtin .listForm | .builtin .mapForm => "_SpecialGenericAlias"
  | .builtin .optionalForm | .builtin .unionForm | .builtin .classVarForm => "_SpecialForm"
  | .builtin _ | .noneType => "type"
  | .none => "NoneType"
  | .variable _ => "TypeVar"
  | .text _ => "str"
  | .reference .. => "ForwardRef"
  | .applied (.list .native) _ | .applied (.map .native) _ | .applied (.builtin _) _ =>
    "types.GenericAlias"
  | .applied .literal _ => "_LiteralGenericAlias"
  | .applied (.declared ref) _ =>
    if ref.brackets = .anyNumber then "types.GenericAlias" else "_GenericAlias"
  | .applied .. => "_GenericAlias"
  | .union .native _ => "types.UnionType"
  | .union .qualified _ => "_UnionGenericAlias"
  | .annotated .. => "_AnnotatedAlias"
  | .initVar _ => "InitVar"
  | .constant value => value.typeName
  | .container kind _ => kind.typeName
  | .record owner _ => owner.typeName
  | .bound _ _ routine => routine.typeName

mutual

/-- The types are one, whatever the order of the members of their unions. The members of a union are
distinct, and so are the items of a set and the keys of a map. -/
def same (type : HostType) : HostType → Bool :=
  match type with
  | .primitive a => fun | .primitive b => a == b | _ => false
  | .declared a => fun | .declared b => a == b | _ => false
  | .builtin a => fun | .builtin b => a == b | _ => false
  | .noneType => fun | .noneType => true | _ => false
  | .none => fun | .none => true | _ => false
  | .variable a => fun | .variable b => a == b | _ => false
  | .text a => fun | .text b => a == b | .constant b => b.isText a | _ => false
  | .reference _ a => fun | .reference _ b => a == b | _ => false
  | .applied h as => fun
    | .applied k bs =>
      h == k &&
        if h = .literal then
          literalsIn as bs && bs.all (literalsContain as)
        else sameList as bs
    | _ => false
  | .union _ as => fun | .union _ bs => as.length == bs.length && allIn as bs | _ => false
  | .annotated a m => fun | .annotated b n => same a b && sameList m n | _ => false
  | .constant a => fun | .constant b => a.same b | .text b => a.isText b | _ => false
  | .initVar _ => fun _ => false
  | .container .tuple as => fun | .container .tuple bs => sameList as bs | _ => false
  | .container .list as => fun | .container .list bs => sameList as bs | _ => false
  | .container .map as | .container .proxy as => fun
    | .container .map bs | .container .proxy bs => as.length == bs.length && allIn as bs
    | _ => false
  | .container (.stream _) _ | .container (.view .values) _ => fun _ => false
  | .container _ as => fun
    | .container .set bs | .container .frozenSet bs | .container (.view .keys) bs
    | .container (.view .entries) bs => as.length == bs.length && allIn as bs
    | _ => false
  | .record c as => fun | .record d bs => c == d && sameAttributes as bs | _ => false
  | .bound a _ m => fun | .bound b _ n => m.same n && same a b | _ => false
termination_by structural type

/-- The lists hold the same types, place by place. -/
def sameList (types : List HostType) : List HostType → Bool :=
  match types with
  | [] => fun | [] => true | _ :: _ => false
  | a :: as => fun | b :: bs => same a b && sameList as bs | [] => false
termination_by structural types

/-- Every type of the first list is one of the second. -/
def allIn (types others : List HostType) : Bool :=
  match types with
  | [] => true
  | a :: as => others.any (same a) && allIn as others
termination_by structural types

/-- Every value of the first list is one of the second, type and all. -/
def literalsIn (types others : List HostType) : Bool :=
  match types with
  | [] => true
  | a :: as =>
    others.any (fun b => a.typeName == b.typeName && same a b) && literalsIn as others
termination_by structural types

/-- The list holds the value, type and all. -/
def literalsContain (types : List HostType) (other : HostType) : Bool :=
  match types with
  | [] => false
  | a :: as => (a.typeName == other.typeName && same a other) || literalsContain as other
termination_by structural types

/-- The attributes have the same values, place by place. -/
def sameAttributes (attributes : List (String × HostType)) : List (String × HostType) → Bool :=
  match attributes with
  | [] => fun | [] => true | _ :: _ => false
  | (_, a) :: as => fun | (_, b) :: bs => same a b && sameAttributes as bs | [] => false
termination_by structural attributes

end

/-- The names of the types of values that can change, or are made of such. -/
def changingTypes : List String :=
  ["list", "dict", "set", "mappingproxy"]

mutual

/-- The name of the type of the first part of a value that cannot stand in a set. -/
def unhashable? : HostType → Option String
  | .constant (.other typeName _) => if typeName ∈ changingTypes then some typeName else Option.none
  | .container .tuple items => unhashableIn? items
  | .container .frozenSet _ | .container (.stream _) _ | .container (.view .values) _ => Option.none
  | .container kind _ => some kind.typeName
  | .applied _ args => unhashableIn? args
  | .union _ members => unhashableIn? members
  | .annotated base metadata => (unhashable? base).or (unhashableIn? metadata)
  | .record (.declared ref) _ => some ref.name
  | .record .slice _ => some "slice"
  | .record .field _ | .record (.function _) _ => Option.none
  | .record _ attributes => unhashableAttribute? attributes
  | _ => Option.none

/-- The name of the type of the first part of some values that cannot stand in a set. -/
def unhashableIn? : List HostType → Option String
  | [] => Option.none
  | type :: rest => (unhashable? type).or (unhashableIn? rest)

/-- The name of the type of the first attribute that cannot stand in a set. -/
def unhashableAttribute? : List (String × HostType) → Option String
  | [] => Option.none
  | (_, value) :: rest => (unhashable? value).or (unhashableAttribute? rest)

end

/-- The annotation of a type that overrides the name on the wire. -/
def rename (tag : String) : HostType :=
  .record .rename [("json_name", .text tag)]

/-- A value without parts, whose text is its name. -/
def named (typeName shown : String) : HostType :=
  .constant (.other typeName shown)

mutual

def ofJson : Json → HostType
  | .null => .none
  | .bool value => .constant (.bool value)
  | .int value => .constant (.int value)
  | .float value => .constant (.float value)
  | .string value => .text value
  | .array items => .container .list (ofItems items)
  | .object entries => .container .map (ofEntries entries)

/-- The values that stand for the items of an array. -/
def ofItems : List Json → List HostType
  | [] => []
  | item :: rest => ofJson item :: ofItems rest

/-- The pairs that stand for the entries of an object. -/
def ofEntries : List (String × Json) → List HostType
  | [] => []
  | (key, value) :: rest => .container .tuple [.text key, ofJson value] :: ofEntries rest

end

/-- The value of a member of an enumeration, where an array stands for a tuple. -/
def ofMemberValue : Json → HostType
  | .array items => .container .tuple (ofItems items)
  | value => ofJson value

def ofFields (fields : List (String × HostType)) : HostType :=
  .container .map (fields.map fun (name, value) => .container .tuple [.text name, value])

/-- The values of the class are all such that none can stand in a set. -/
def hasUnhashableClass : HostType → Bool
  | .container .tuple _ | .container .frozenSet _ | .container (.stream _) _
  | .container (.view .values) _ => false
  | .container .. => true
  | .constant (.other typeName _) => typeName ∈ changingTypes
  | .record (.declared _) _ | .record .slice _ => true
  | _ => false

def asText? : HostType → Option String
  | .text content => some content
  | .constant value =>
    match value.content? with
    | some (.string content) => some content
    | _ => Option.none
  | _ => Option.none

mutual

/-- The type variables of a type, in the order of their first occurrence. -/
def freeVariables : HostType → List String
  | .variable name => [name]
  | .applied .literal _ => []
  | .applied _ args => freeVariablesOf args
  | .union _ members => freeVariablesOf members
  | .annotated base _ => freeVariables base
  | _ => []

def freeVariablesOf : List HostType → List String
  | [] => []
  | type :: rest =>
    let first := freeVariables type
    first ++ (freeVariablesOf rest).filter fun name => !first.contains name

end

end HostType

end WireModel
