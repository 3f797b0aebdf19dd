import WireModel.Codec.Library
import WireModel.Host.Attribute

/-!
The text of a value: plain values as in messages, constants in angle brackets, and instances by the
name of their class and their parts.
-/

namespace WireModel.Codec

open Text
open Render.Python (attributeName keptName)

/-- The texts of some values with something between them. -/
def joined (texts : List String) : String :=
  ", ".intercalate texts

/-- The text of an object inside itself. Nothing but a container is told there. -/
def shownAgain : ObjectKind → Except CodecError String
  | .list => .ok "[...]"
  | .tuple => .ok "(...)"
  | .map => .ok "\x7b...\x7d"
  | .view => .ok "..."
  | .record => .error (.fault .tooDeep)

/-- The part of a name, of an instance that must have it. -/
def partNamed {α : Type} (parts : List (String × α)) (name : String) : Except CodecError α :=
  match parts.lookup name with
  | some part => .ok part
  | none => .error (.fault .missingAttribute)

namespace Library

def shownClass (library : Library) (path : ClassPath) : String :=
  match library.at? path with
  | some (.enumeration _) => "<enum " ++ quoted (library.nameOf path) ++ ">"
  | _ =>
    let qualifiedName := library.ownText path "__qualname__" path.qualifiedName
    let text :=
      match library.changed? path "__module__" with
      | some (.text "builtins") => library.nameOf path
      | none | some (.text _) => library.moduleOf path ++ "." ++ qualifiedName
      | some _ => library.nameOf path
    "<class " ++ quoted text ++ ">"

/-- The name of the class of the language that a class is derived from. -/
def baseName (library : Library) (path : ClassPath) : String :=
  match library.at? path with
  | some (.enumeration _) => "Enum"
  | _ => "object"

/-- The functions that a class writes itself although all values have them. -/
def writtenFunctions : List String :=
  ["__init__", "__eq__", "__repr__"]

/-- A function that a class takes from the class of the language that it is derived from. -/
def inherited? (library : Library) (path : ClassPath) (name : String) : Option HostType :=
  let base := library.baseName path
  if base = "object" && writtenFunctions.contains name then none
  else (Model.empty.classAttribute (.language base) name).toOption

/-- The name of a function with that of the class that it comes from: enumerations take theirs from
the class that all of them are made of, or from their own class. -/
def functionName (library : Library) (path : ClassPath) (name : String) : String :=
  match (library.inherited? path name).bind (·.ownValue? "__qualname__") with
  | some (.text name) => name
  | _ => path.qualifiedName ++ "." ++ name

/-- The text of a constant, given its attributes with their texts. -/
def shownConstant (library : Library) (owner : ClassPath)
    (parts : List (String × Value × Except CodecError String)) : Except CodecError String := do
  let (name, nameText) ← partNamed parts "_name_"
  let nameText ← match name with
    | .text name => pure name
    | .constant owner name _ => pure (library.nameOf owner ++ "." ++ name)
    | _ => nameText
  let (_, valueText) ← partNamed parts "_value_"
  return "<" ++ library.nameOf owner ++ "." ++ nameText ++ ": " ++ (← valueText) ++ ">"

/-- The text that a class gives to an instance of an owner, which may be another class, given its
parts with their texts. -/
def shownAs (library : Library) (path owner : ClassPath)
    (parts : List (String × Value × Except CodecError String)) : Except CodecError String :=
  match library.at? path with
  | some (.record _ label fields) => do
    let texts ← fields.mapM fun field => do
      let name := attributeName field
      let (_, text) ← partNamed parts (keptName path.name name)
      return name ++ "=" ++ (← text)
    return label ++ "(" ++ joined texts ++ ")"
  | some (.dataEnum entity) => do
    let (discriminant, _) ← partNamed parts "_variant"
    let name ← discriminantName discriminant
    let (_, payload) ← partNamed parts "_value"
    return entity.className ++ "." ++ name ++ "(" ++ (← payload) ++ ")"
  | some (.enumeration _) =>
    match library.at? owner with
    | some (.enumeration _) => library.shownConstant owner parts
    | _ => .error (.fault .missingAttribute)
  | none => .error (.fault .missingAttribute)

/-- The text of an instance, given its parts with their texts. -/
def shownInstance (library : Library) (owner : ClassPath)
    (parts : List (String × Value × Except CodecError String)) : Except CodecError String := do
  library.shownAs (← library.provider owner "__repr__") owner parts

mutual

def shown (library : Library) : Value → Except CodecError String
  | .null => .ok "None"
  | .bool value => .ok (if value then "True" else "False")
  | .int value => .ok (toString value)
  | .float value => .ok value.text
  | .text value => .ok (quoted value)
  | .list items => do return "[" ++ joined (← library.shownItems items) ++ "]"
  | .tuple [item] => do return "(" ++ (← library.shown item) ++ ",)"
  | .tuple items => do return "(" ++ joined (← library.shownItems items) ++ ")"
  | .map entries => do return "\x7b" ++ joined (← library.shownEntries entries) ++ "\x7d"
  | .constant owner name tag =>
    if (library.changed? owner "__repr__").isSome then
      library.shownInstance owner [("_name_", .text name, .ok (quoted name)),
        ("_value_", .text tag, .ok (quoted tag))]
    else .ok ("<" ++ library.nameOf owner ++ "." ++ name ++ ": " ++ quoted tag ++ ">")
  | .altered attributes base =>
    match base.constant? with
    | some (owner, _) => library.shownInstance owner (library.shownParts attributes)
    | none => .error (.fault .missingAttribute)
  | .record owner attributes => library.shownInstance owner (library.shownParts attributes)
  | .choice owner discriminant payload =>
    library.shownInstance (.top owner) [("_variant", discriminant, library.shown discriminant),
      ("_value", payload, library.shown payload)]
  | .language value => .ok value.shown
  | .bare => .ok "<object object>"
  | .type path => .ok (library.shownClass path)
  | .function owner name =>
    match library.inherited? owner name with
    | some routine => .ok routine.shown
    | none => .ok ("<function " ++ library.functionName owner name ++ ">")
  | .method owner name receiver => do
    return "<bound method " ++ library.functionName owner name ++ " of " ++
      (← library.shown receiver) ++ ">"
  | .view .proxy whole => do
    return ViewKind.proxy.typeName ++ "(" ++ (← library.shown whole) ++ ")"
  | .view (.listed part) whole => do
    return (ViewKind.listed part).typeName ++ "([" ++
      joined (← library.shownListed part whole) ++ "])"
  | .unset => .error (.fault .missingAttribute)
  | .object _ extras (.record owner attributes) =>
    library.shownInstance owner (library.shownParts attributes ++ library.shownParts extras)
  | .object _ extras (.choice owner discriminant payload) =>
    library.shownInstance (.top owner) ([("_variant", discriminant, library.shown discriminant),
      ("_value", payload, library.shown payload)] ++ library.shownParts extras)
  | .object _ _ content => library.shown content
  | .reference _ kind => shownAgain kind

def shownItems (library : Library) : List Value → Except CodecError (List String)
  | [] => .ok []
  | item :: rest => do
    let item ← library.shown item
    return item :: (← library.shownItems rest)

/-- The texts of the entries of a map. -/
def shownEntries (library : Library) : List (Value × Value) → Except CodecError (List String)
  | [] => .ok []
  | (key, value) :: rest => do
    let key ← library.shown key
    let value ← library.shown value
    return (key ++ ": " ++ value) :: (← library.shownEntries rest)

def shownListed (library : Library) (part : MapPart) : Value → Except CodecError (List String)
  | .object _ _ content => library.shownListed part content
  | .map entries => library.shownListing part entries
  | _ => .error (.fault .tooDeep)

def shownListing (library : Library) (part : MapPart) :
    List (Value × Value) → Except CodecError (List String)
  | [] => .ok []
  | (key, value) :: rest => do
    let first ← if part = .values then library.shown value else library.shown key
    let text ← if part = .entries then do
        let second ← library.shown value
        pure ("(" ++ first ++ ", " ++ second ++ ")")
      else pure first
    return text :: (← library.shownListing part rest)

/-- The parts of an instance with their texts. -/
def shownParts (library : Library) :
    List (String × Value) → List (String × Value × Except CodecError String)
  | [] => []
  | (name, value) :: rest => (name, value, library.shown value) :: library.shownParts rest

end

end Library

end WireModel.Codec
