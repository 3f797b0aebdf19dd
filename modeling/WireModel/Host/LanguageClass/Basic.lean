import WireModel.Text.Split

/-!
The classes of the host language itself: their ancestors and the attributes that they bring along.
-/

namespace WireModel

/-- How a class keeps an attribute, which says what asking for it gives. -/
inductive AttributeKind where
  /-- What an operator or another built-in part of the language calls. -/
  | operator
  | method
  /-- A method of the class itself. -/
  | classMethod
  /-- A built-in function that stays as it is. -/
  | creator
  | function
  /-- A function that takes the class itself. -/
  | classFunction
  /-- Worked out for an instance. -/
  | computed
  /-- Kept in an instance at a fixed place. -/
  | stored
  /-- Worked out for an instance by functions of the class. -/
  | property
  /-- A value of the class. -/
  | value
  /-- A value of each instance. -/
  | own
  deriving DecidableEq, Repr

/-- An attribute of a class of the language. -/
structure LanguageAttribute where
  kind : AttributeKind
  name : String
  /-- The name of the type of its value, for a class or an instance. -/
  typeName : Option String
  /-- The qualified name of a routine that another class declares. -/
  source : Option String
  deriving Repr

/-- A class of the language. The names of its attributes stand in lists with blanks between them; a
colon sets off the name of the type, and another one the qualified name of a routine. -/
structure LanguageClass where
  module : String
  name : String
  /-- The names of the class and of those it is derived from, nearest first. -/
  ancestry : List String
  /-- The name of the class of the class. -/
  metaclass : String
  attributes : List (AttributeKind × List String)

namespace LanguageAttribute

/-- The attribute that an entry of a list names. -/
def ofEntry (kind : AttributeKind) (entry : String) : LanguageAttribute :=
  match Text.partsAt ':' entry with
  | [name, typeName] => ⟨kind, name, some typeName, none⟩
  | [name, typeName, source] => ⟨kind, name, some typeName, some source⟩
  | _ => ⟨kind, entry, none, none⟩

end LanguageAttribute

namespace LanguageClass

/-- The name of the class with its module; those of the core of the language go without one. -/
def dotted (type : LanguageClass) : String :=
  if type.module = "builtins" then type.name else type.module ++ "." ++ type.name

def entries (type : LanguageClass) : List LanguageAttribute :=
  type.attributes.flatMap fun (kind, lists) =>
    lists.flatMap fun names => (Text.partsAt ' ' names).map (LanguageAttribute.ofEntry kind)

def attribute? (type : LanguageClass) (name : String) : Option LanguageAttribute :=
  type.entries.find? (·.name == name)

end LanguageClass

end WireModel
