import WireModel.Host.Construction
import WireModel.Host.Enumeration

/-!
A model: the classes that were declared, in order, and the names they are known by in their modules.
-/

namespace WireModel

/-- What a variant carries. -/
inductive Payload where
  | unit
  | tuple (slots : List HostType)
  | object (fields : List (String × HostType))

/-- A variant of a data enum. An empty rename is none. -/
structure Variant where
  name : String
  payload : Payload
  rename : Option String

namespace Variant

def tag (variant : Variant) : String :=
  match variant.rename with
  | some tag => if tag.isEmpty then variant.name else tag
  | none => variant.name

end Variant

/-- What an annotation of a record declares. -/
inductive FieldRole where
  | field
  | classVariable
  | parameter
  deriving DecidableEq, Repr

/-- An annotation of a record, own or inherited. -/
structure RecordEntry where
  name : String
  role : FieldRole
  type : HostType
  /-- The class has an attribute of the name, which then is the value that is left out. -/
  default : Option HostType

/-- A declared class. -/
structure ClassDecl where
  ref : ClassRef
  /-- What the class is derived from, as it is written. -/
  bases : List HostType
  /-- The classes it is derived from. -/
  parents : List Ancestor
  /-- The class and all those it is derived from, nearest first. -/
  ancestry : List Ancestor
  /-- The annotations of the class itself, if it may have some. -/
  annotations : Option (List (String × HostType))
  /-- The entries of a class that is itself declared as a record. -/
  entries : Option (List RecordEntry)
  /-- All names of the members of an enumeration. -/
  memberNames : List Member
  /-- The members of an enumeration. -/
  members : List Member
  variants : List Variant

/-- A name that a module binds to a class. -/
structure Binding where
  module : String
  name : String
  ref : ClassRef

/-- The declared classes, their names, and the type variables in use. -/
structure Model where
  classes : List ClassDecl
  bindings : List Binding
  typeVariables : List String

namespace Model

def empty : Model :=
  ⟨[], [], []⟩

def find? (model : Model) (ref : ClassRef) : Option ClassDecl :=
  model.classes.find? fun declared => declared.ref.serial == ref.serial

/-- The class last declared under a name in a module. -/
def resolve? (model : Model) (module name : String) : Option ClassRef :=
  (model.bindings.reverse.find? fun binding =>
    binding.module == module && binding.name == name).map Binding.ref

/-- The class last declared under a name in any module. -/
def named? (model : Model) (name : String) : Option ClassRef :=
  (model.bindings.reverse.find? fun binding => binding.name == name).map Binding.ref

/-- A module of that name declares something. -/
def hasModule (model : Model) (module : String) : Bool :=
  model.bindings.any fun binding => binding.module == module

/-- The class and all those it is derived from, nearest first. -/
def ancestry (model : Model) (ref : ClassRef) : List Ancestor :=
  ((model.find? ref).map ClassDecl.ancestry).getD [.declared ref]

/-- The declarations of the class and of the declared classes it is derived from. -/
def declarations (model : Model) (ref : ClassRef) : List ClassDecl :=
  (model.ancestry ref).filterMap fun
    | .declared ancestor => model.find? ancestor
    | .language _ => none

/-- The entries of a class: those of the nearest class that is itself declared as a record. -/
def entries? (model : Model) (ref : ClassRef) : Option (List RecordEntry) :=
  (model.declarations ref).findSome? ClassDecl.entries

def fields (model : Model) (ref : ClassRef) : List RecordEntry :=
  ((model.entries? ref).getD []).filter fun entry => entry.role == .field

def members (model : Model) (ref : ClassRef) : List Member :=
  ((model.find? ref).map ClassDecl.members).getD []

/-- The variants of a data enum, in order. -/
def variants (model : Model) (ref : ClassRef) : List Variant :=
  ((model.find? ref).map ClassDecl.variants).getD []

end Model

end WireModel
