import WireModel.Codec.Equality
import WireModel.Codec.Shown
import WireModel.Json.Printer

/-!
Encoding of values as JSON. A record is an object with an entry for each field; a data enum is its
bare tag or an object with the tag as the only key; the keys of maps become texts.
-/

namespace WireModel.Codec

open Schema

/-- The name under which the module of a class knows the codec. -/
def codecName : String :=
  "_rt"

def encoderName : String :=
  "to_json"

/-- The key of an object that a key of a map becomes, if it is not shown like other values. -/
def keyText? : Value → Option String
  | .constant _ _ tag => some tag
  | .bool value => some (if value then "true" else "false")
  | .text value => some value
  | _ => none

/-- The first variant that an instance is of by its discriminant. -/
def variantOf? (entity : DataEnum) (discriminant : Value) :
    List Schema.Variant → Except CodecError (Option Schema.Variant)
  | [] => .ok none
  | v :: rest => do
    let expected ← Library.ownDiscriminant entity v
    if discriminant.isIdentical expected then return some v
    else variantOf? entity discriminant rest

/-- The encoded value, if it is an instance of a data enum. One that hides the codec encodes its
parts by its own encoder, which knows nothing else. -/
def encodedByOwner (owner : String) (value : Value) (encoded : Except CodecError Json) :
    Except CodecError Json :=
  if owner ≠ codecName then encoded
  else
    match value.content with
    | .choice known _ _ => if known = owner then encoded else .error (.fault .missingAttribute)
    | _ => .error (.fault .missingAttribute)

/-- The first item of a value without items that are values. -/
def firstPart : Value → Except CodecError Json
  | .text text =>
    match Text.letters text with
    | letter :: _ => .ok (.string letter)
    | [] => .error (.fault .missingIndex)
  | .language (.constant (.bytes (byte :: _))) => .ok (.int byte)
  | .language (.constant (.bytes [])) => .error (.fault .missingIndex)
  | .reference _ kind => .error (.fault (if kind = .record then .wrongType else .tooDeep))
  | .unset => .error (.fault .missingAttribute)
  | _ => .error (.fault .wrongType)

/-- A part of an instance with what it is encoded as: as a whole, and its first item on behalf of a
data enum. -/
structure EncodedPart where
  value : Value
  whole : Except CodecError Json
  first : String → Except CodecError Json

/-- The encoded instance of a variant, given its payload. -/
def encodeVariant (owner : String) (v : Schema.Variant) (payload : Except CodecError EncodedPart) :
    Except CodecError Json :=
  match v.payload with
  | .unit => .ok (.string v.tag)
  | .tuple [_] => do
    let part ← payload
    return .object [(v.tag, ← part.first owner)]
  | _ => do
    let part ← payload
    return .object [(v.tag, ← encodedByOwner owner part.value part.whole)]

/-- The key of an object that a plain key becomes. -/
def plainKey : Value → Except CodecError String
  | .text text => .ok text
  | .null => .ok "null"
  | .bool value => .ok (if value then "true" else "false")
  | .int value => .ok (toString value)
  | .float value => .ok (value.textWith "Infinity" "NaN")
  | _ => .error (.fault .wrongType)

mutual

/-- What is written for a value that is not encoded any further. -/
def plainJson : Value → Except CodecError Json
  | .null => .ok .null
  | .bool value => .ok (.bool value)
  | .int value => .ok (.int value)
  | .float value => .ok (.float value)
  | .text value => .ok (.string value)
  | .list items => do return .array (← plainItems items)
  | .tuple items => do return .array (← plainItems items)
  | .map entries => do return .object (← plainEntries entries)
  | .object _ _ content => plainJson content
  | .reference _ kind => .error (.fault (if kind = .record then .wrongType else .wrongValue))
  | _ => .error (.fault .wrongType)

def plainItems : List Value → Except CodecError (List Json)
  | [] => .ok []
  | item :: rest => do
    let item ← plainJson item
    return item :: (← plainItems rest)

/-- What is written for the entries of a map. -/
def plainEntries : List (Value × Value) → Except CodecError (List (String × Json))
  | [] => .ok []
  | (key, value) :: rest => do
    let key ← plainKey key
    let value ← plainJson value
    return (key, value) :: (← plainEntries rest)

end

/-- The items that a value gives when it is taken apart. -/
def takenApart (value : Value) : Except CodecError (List Value) :=
  match value.content with
  | .list items | .tuple items => .ok items
  | .map entries => .ok (entries.map (·.1))
  | .text text => .ok ((Text.letters text).map .text)
  | _ => .error (.fault .wrongType)

/-- A field as a class lists it: the attribute and the tag. -/
def listedField (item : Value) : Except CodecError (String × String) := do
  match ← takenApart item with
  | [name, tag] =>
    match name with
    | .text name => return (name, ← plainKey tag)
    | _ => throw (.fault .wrongType)
  | _ => throw (.fault .wrongValue)

namespace Library

/-- The key of an object that a key of a map becomes. -/
def keyText (library : Library) (key : Value) : Except CodecError String :=
  match key with
  | .altered attributes _ => do plainKey (← partNamed attributes "_value_")
  | key =>
    match keyText? key.content with
    | some text => .ok text
    | none => library.shown key

def encodedPart (parts : List (String × EncodedPart)) (name : String) : Except CodecError Json := do
  (← partNamed parts name).whole

/-- Encodes the fields of an instance as its class lists them, given its parts: fields of one tag
are one entry, which has the value of the last. -/
def encodeFields (library : Library) (path : ClassPath) (parts : List (String × EncodedPart)) :
    Except CodecError Json := do
  let entries ←
    match library.changed? path "__json_fields__", library.fields? path with
    | some listing, _ => do
      (← takenApart listing).mapM fun item => do
        let (name, tag) ← listedField item
        return (tag, ← encodedPart parts name)
    | none, some fields => fields.mapM fun field => do
      return (field.tag, ← encodedPart parts (Render.Python.attributeName field))
    | none, none => throw (.fault .missingAttribute)
  return .object (entries.foldl (fun known (tag, value) => bindEntry known tag value) [])

/-- Encodes an instance of a data enum, given its parts. -/
def encodeChoice (library : Library) (owner : String) (parts : List (String × EncodedPart)) :
    Except CodecError Json :=
  match library.dataEnum? owner with
  | none => .error (.fault .missingAttribute)
  | some entity => do
    let discriminant ← partNamed parts "_variant"
    if !discriminant.value.isSet then throw (.fault .missingAttribute)
    match ← variantOf? entity discriminant.value entity.variants with
    | some v => encodeVariant owner v (partNamed parts "_value")
    | none =>
      let name ← discriminantName discriminant.value
      throw (if owner = codecName then .fault .missingAttribute else .invalidVariant name)

/-- Encodes an instance as one class does it for an instance of another one, given its parts. The
codec cannot be reached from a class that hides it. -/
def encodeAs (library : Library) (provider path : ClassPath) (parts : List (String × EncodedPart)) :
    Except CodecError Json :=
  match library.at? provider with
  | some (.record ..) =>
    if provider.hides codecName then .error (.fault .missingAttribute)
    else library.encodeFields path parts
  | some (.dataEnum entity) => library.encodeChoice entity.className parts
  | _ => .error (.fault .missingAttribute)

/-- Encodes an instance, given its parts. An attribute that hides the encoder of the class breaks
it. -/
def encodeInstance (library : Library) (path : ClassPath) (parts : List (String × EncodedPart)) :
    Except CodecError Json := do
  if ((parts.lookup encoderName).map (·.value.isSet)).getD false then throw (.fault .wrongType)
  library.encodeAs (← library.provider path encoderName) path parts

/-- Classes cannot be encoded; those with an encoder lack an instance for it. -/
def encodeClass (library : Library) (path : ClassPath) : CodecError :=
  match library.at? path with
  | some (.enumeration _) => .unserializable "EnumType"
  | _ => .fault .wrongType

mutual

def encode (library : Library) : Value → Except CodecError Json
  | .null => .ok .null
  | .bool value => .ok (.bool value)
  | .int value => .ok (.int value)
  | .float value => .ok (.float value)
  | .text value => .ok (.string value)
  | .constant _ _ tag => .ok (.string tag)
  | .list items => do return .array (← library.encodeItems items)
  | .tuple items => do return .array (← library.encodeItems items)
  | .map entries => do
    let entries ← library.encodeEntries entries
    return .object (entries.foldl (fun known (key, value) => bindEntry known key value) [])
  | .altered attributes _ => do plainJson (← partNamed attributes "_value_")
  | .record owner attributes => library.encodeInstance owner (library.encodeParts attributes)
  | .choice owner discriminant payload =>
    library.encodeInstance (.top owner) [
      ("_variant", ⟨discriminant, library.encode discriminant, fun _ =>
        .error (.fault .wrongType)⟩),
      ("_value", ⟨payload, library.encode payload, fun known => library.encodeFirst known payload⟩)]
  | .language value => .error (.unserializable value.typeName)
  | .bare => .error (.unserializable "object")
  | .type path => .error (library.encodeClass path)
  | .function .. => .error (.unserializable "function")
  | .method .. => .error (.unserializable "method")
  | .view kind _ => .error (.unserializable kind.typeName)
  | .unset => .error (.fault .missingAttribute)
  | .object _ extras (.record owner attributes) =>
    library.encodeInstance owner (library.encodeParts attributes ++ library.encodeParts extras)
  | .object _ extras (.choice owner discriminant payload) =>
    library.encodeInstance (.top owner) ([
      ("_variant", ⟨discriminant, library.encode discriminant, fun _ =>
        .error (.fault .wrongType)⟩),
      ("_value", ⟨payload, library.encode payload, fun known => library.encodeFirst known payload⟩)]
      ++ library.encodeParts extras)
  | .object _ _ content => library.encode content
  | .reference .. => .error (.fault .tooDeep)

def encodeItems (library : Library) : List Value → Except CodecError (List Json)
  | [] => .ok []
  | item :: rest => do
    let item ← library.encode item
    return item :: (← library.encodeItems rest)

def encodeEntries (library : Library) :
    List (Value × Value) → Except CodecError (List (String × Json))
  | [] => .ok []
  | (key, value) :: rest => do
    let key ← library.keyText key
    let value ← library.encode value
    return (key, value) :: (← library.encodeEntries rest)

/-- Encodes each part of an instance by itself. -/
def encodeParts (library : Library) : List (String × Value) → List (String × EncodedPart)
  | [] => []
  | (name, value) :: rest =>
    (name, ⟨value, library.encode value, fun owner => library.encodeFirst owner value⟩) ::
      library.encodeParts rest

/-- Encodes only the first item of a payload, or what stands at zero in a map. -/
def encodeFirst (library : Library) (owner : String) : Value → Except CodecError Json
  | .tuple [] => .error (.fault .missingIndex)
  | .tuple (item :: _) => encodedByOwner owner item (library.encode item)
  | .list [] => .error (.fault .missingIndex)
  | .list (item :: _) => encodedByOwner owner item (library.encode item)
  | .map entries => library.encodeAtZero owner entries
  | .type path =>
    match library.at? path with
    | some (.enumeration _) => .error (.fault .missingKey)
    | _ => .error (.fault .wrongType)
  | .object _ _ content => library.encodeFirst owner content
  | value => do encodedByOwner owner value (.ok (← firstPart value))

def encodeAtZero (library : Library) (owner : String) :
    List (Value × Value) → Except CodecError Json
  | [] => .error (.fault .missingKey)
  | (key, value) :: rest =>
    if key.sameKey (.int 0) then encodedByOwner owner value (library.encode value)
    else library.encodeAtZero owner rest

end

/-- The compact JSON text of a value. -/
def print (library : Library) (value : Value) : Except CodecError String := do
  return (← library.encode value).print

end Library

end WireModel.Codec
