import WireModel.Render.Generated
import WireModel.Render.Lines
import WireModel.Render.PythonName
import WireModel.Text.Quoted
import WireModel.Text.Underscored

/-!
Python classes: a class with its fields for a record, an `enum.Enum` for an enumeration, and for a
data enum a class that holds a discriminant and a payload. Type expressions and tags stand in
quotes, so that only names can make a class unreadable.
-/

namespace WireModel.Render.Python

open Schema Text

def attributeName (field : Field) : String :=
  pythonIdentifier field.name.snake

def quotedType (type : TypeExpr) : String :=
  quoted (type.text .python)

/-- A name as it is kept inside a class: in its normal form, and with the name of the class in front
if it is private. -/
def keptName (className name : String) : String :=
  mangled (normalized className) (normalized name)

/-- The texts may be the parameters of one function of a class: names that are kept distinct. -/
def areParameters (className : String) (names : List String) : Bool :=
  names.all isBindable && (firstRepeated? [] (names.map (keptName className))).isNone

def isReadableRecord (className : String) (fields : List Field) : Bool :=
  isBindable className && areParameters className ("self" :: fields.map attributeName)

/-- A variant can be made part of a data enum. -/
def isReadableVariant (className : String) (v : Schema.Variant) : Bool :=
  isBindable v.name.upperSnake && isIdentifier ("of_" ++ v.name.snake) &&
    match v.payload with
    | .unit => true
    | .tuple slots => !slots.isEmpty
    | .object fields =>
      isReadableRecord v.name.pascal fields && areParameters className (fields.map attributeName)

def isReadable : Entity → Bool
  | .record entity => isReadableRecord entity.className entity.fields
  | .enumeration entity =>
    isBindable entity.className &&
      entity.constants.all fun constant => isBindable (pythonIdentifier constant.name.upperSnake)
  | .dataEnum entity =>
    isBindable entity.className && !entity.variants.isEmpty &&
      entity.variants.all (isReadableVariant entity.className)

/-- The lines of a record class, which holder classes share. -/
def recordLines (className : String) (fields : List Field) : List String :=
  let attributes := fields.map attributeName
  let each (text : String → String) : String := String.join (attributes.map text)
  ["class " ++ className ++ ":",
    "    __json_fields__ = ("] ++
  (fields.map fun field =>
    "        (" ++ quoted (attributeName field) ++ ", " ++ quoted field.tag ++ "),") ++
  ["    )",
    "",
    "    def __init__(self" ++ String.join (fields.map fun field =>
      ", " ++ attributeName field ++ ": " ++ quotedType field.type ++ " = None") ++ "):"] ++
  (if fields.isEmpty then ["        pass"]
    else attributes.map fun a => "        self." ++ a ++ " = " ++ a) ++
  ["",
    "    def __eq__(self, other):",
    "        if not isinstance(other, type(self)):",
    "            return NotImplemented",
    "        return (" ++ each (fun a => "self." ++ a ++ ", ") ++ ") == (" ++
      each (fun a => "other." ++ a ++ ", ") ++ ")",
    "",
    "    def __repr__(self):",
    "        return f\"" ++ className ++ "(" ++ ", ".intercalate (attributes.map fun a =>
      a ++ "=" ++ braced ("self." ++ a ++ "!r")) ++ ")\"",
    "",
    "    def to_json(self):",
    "        return _rt.encode_fields(self)",
    "",
    "    @classmethod",
    "    def from_json(cls, data):",
    "        return _rt.decode_fields(cls, data)"]

def enumerationLines (entity : Schema.Enumeration) : List String :=
  ("class " ++ entity.className ++ "(enum.Enum):") ::
  if entity.constants.isEmpty then ["    pass"]
  else entity.constants.map fun constant =>
    "    " ++ pythonIdentifier constant.name.upperSnake ++ " = " ++ quoted constant.tag

/-- The discriminant of a variant, as members of the class refer to it. -/
def discriminant (owner : String) (v : Schema.Variant) : String :=
  owner ++ ".Variant." ++ v.name.upperSnake

/-- The discriminants and the holder classes. -/
def nestedClasses (entity : DataEnum) : List String :=
  ["class Variant(enum.Enum):"] ++
  (entity.variants.map fun v => "    " ++ v.name.upperSnake ++ " = " ++ quoted v.name.pascal) ++
  [""] ++
  entity.variants.flatMap fun v =>
    match v.payload with
    | .object fields => recordLines v.name.pascal fields ++ [""]
    | _ => []

/-- The members that do not depend on the variants. -/
def commonMembers (className : String) : List String := [
  "def __init__(self, variant, value):",
  "    self._variant = variant",
  "    self._value = value",
  "",
  "@property",
  "def variant(self):",
  "    return self._variant",
  "",
  "def __eq__(self, other):",
  "    if not isinstance(other, " ++ className ++ "):",
  "        return NotImplemented",
  "    return (self._variant, self._value) == (other._variant, other._value)",
  "",
  "def __repr__(self):",
  "    return f\"" ++ className ++ "." ++ braced "self._variant.name" ++ "(" ++
    braced "self._value!r" ++ ")\"",
  "",
  "def _expect(self, variant):",
  "    if self._variant is not variant:",
  "        raise _rt.InvalidVariantError(f\"Invalid variant: " ++ braced "self._variant.name" ++
    "\")",
  ""]

def factory (className : String) (v : Schema.Variant) (parameters payload : String) :
    List String := [
  "@staticmethod",
  "def of_" ++ v.name.snake ++ "(" ++ parameters ++ "):",
  "    return " ++ className ++ "(" ++ discriminant className v ++ ", " ++ payload ++ ")",
  ""]

def accessor (className : String) (v : Schema.Variant) (suffix value : String) : List String := [
  "def get_" ++ v.name.snake ++ suffix ++ "(self):",
  "    self._expect(" ++ discriminant className v ++ ")",
  "    return " ++ value,
  ""]

/-- The factory, the accessors and the test of a variant. -/
def variantMembers (className : String) (v : Schema.Variant) : List String :=
  (match v.payload with
  | .unit => factory className v "" "None"
  | .object fields =>
    let parameters := ", ".intercalate (fields.map fun field =>
      attributeName field ++ ": " ++ quotedType field.type)
    let holder := className ++ "." ++ v.name.pascal
    factory className v parameters
      (holder ++ "(" ++ ", ".intercalate (fields.map attributeName) ++ ")") ++
    accessor className v "" "self._value"
  | .tuple slots =>
    let arguments := (List.range slots.length).map fun place => "arg" ++ toString place
    let parameters := ", ".intercalate (slots.zipWith (fun slot argument =>
      argument ++ ": " ++ quotedType slot) arguments)
    factory className v parameters ("(" ++ ", ".intercalate arguments ++ ",)") ++
    (List.range slots.length).flatMap fun place =>
      accessor className v (if slots.length = 1 then "" else toString place)
        ("self._value[" ++ toString place ++ "]")) ++
  ["def is_" ++ v.name.snake ++ "(self):",
    "    return self._variant is " ++ discriminant className v,
    ""]

def encoder (entity : DataEnum) : List String :=
  ["def to_json(self):"] ++
  (entity.variants.flatMap fun v =>
    let tag := quoted v.tag
    let tagged (payload : String) : String := braced (tag ++ ": " ++ payload)
    ["    if self._variant is " ++ discriminant entity.className v ++ ":",
      "        return " ++
        match v.payload with
        | .unit => tag
        | .tuple [_] => tagged "_rt.to_json(self._value[0])"
        | _ => tagged "_rt.to_json(self._value)"]) ++
  ["    raise _rt.InvalidVariantError(f\"Invalid variant: " ++ braced "self._variant.name" ++ "\")",
    ""]

/-- How a unit variant is recognised. -/
def unitCase (v : Schema.Variant) : List String :=
  match v.payload with
  | .unit => [
    "if data == " ++ quoted v.tag ++ ":",
    "    return cls(" ++ discriminant "cls" v ++ ", None)"]
  | _ => []

/-- How a variant with a payload is recognised and read. -/
def payloadCase (v : Schema.Variant) : List String :=
  let tag := quoted v.tag
  let case (payload : String) : List String := [
    "if " ++ tag ++ " in data:",
    "    return cls(" ++ discriminant "cls" v ++ ", " ++ payload ++ ")"]
  match v.payload with
  | .unit => []
  | .object _ => case ("_rt.from_json(data[" ++ tag ++ "], cls." ++ v.name.pascal ++ ", cls)")
  | .tuple _ =>
    case ("_rt.parse_slots(cls, " ++ tag ++ ", data[" ++ tag ++ "], cls.of_" ++ v.name.snake ++ ")")

def orPass (lines : List String) : List String :=
  if lines.isEmpty then ["pass"] else lines

def decoder (entity : DataEnum) : List String :=
  ["@classmethod",
    "def from_json(cls, data):",
    "    if isinstance(data, str):"] ++
  indent 2 (orPass (entity.variants.flatMap unitCase)) ++
  ["    elif isinstance(data, dict):"] ++
  indent 2 (orPass (entity.variants.flatMap payloadCase)) ++
  ["    raise _rt.DeserializationError(\"Cannot deserialize \" + " ++
    quoted entity.className ++ ")"]

def dataEnumLines (entity : DataEnum) : List String :=
  ("class " ++ entity.className ++ ":") :: indent 1 (
    nestedClasses entity ++
    commonMembers entity.className ++
    entity.variants.flatMap (variantMembers entity.className) ++
    encoder entity ++
    decoder entity)

/-- The first lines of each module. -/
def header : List String := [
  "# AUTO-GENERATED - DO NOT EDIT",
  "import enum",
  "",
  "from dtogen import runtime as _rt",
  "",
  ""]

/-- The names that holder classes must leave to the members of a data enum. -/
def reservedNames : List String :=
  ["Variant"]

def lines : Entity → Except GenerationError (List String)
  | .record entity => .ok (recordLines entity.className entity.fields)
  | .enumeration entity => .ok (enumerationLines entity)
  | .dataEnum entity => do
    entity.check reservedNames
    return dataEnumLines entity

/-- The module of an entity, if it can be read. -/
def generate (entity : Entity) : Except GenerationError GeneratedClass := do
  let code := joinLines (header ++ (← lines entity))
  if isReadable entity then return ⟨entity.className, code⟩
  else throw (.brokenClass .python entity.className)

end WireModel.Render.Python
