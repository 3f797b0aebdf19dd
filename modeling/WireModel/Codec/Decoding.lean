import WireModel.Codec.Attribute
import WireModel.Codec.Encoding
import WireModel.Codec.Form
import WireModel.Number.Decimal

/-!
Decoding of data as a type demands it. The data is what JSON stands for, but any value may be given.
The absent value belongs to every type. A record takes what a map has at the tags of its fields; a
data enum is chosen by its first variant whose tag the data shows, and by nothing else.

A value is decoded from the decoders of its parts, so that the recursion follows the data alone.
-/

namespace WireModel.Codec

open Schema Text

/-- What data is decoded as. -/
inductive Demand where
  /-- A value of a type, on behalf of an owner whose name stands in messages. -/
  | value (owner : Option String) (type : HostType)
  /-- A value of a record or of a data enum, to which the absent value does not belong. -/
  | instanceOf (type : Class)
  /-- The payload of a tuple variant: the value of its only slot, or an array with one for each. -/
  | slots (className key : String) (types : List HostType)

/-- The decoder of one piece of data. -/
abbrev Decoder := Demand → Except CodecError Value

/-- A mismatch that names the owner; not every type that owns a value has a name. -/
def onBehalf (owner : Option String) (cause : String → Mismatch) : CodecError :=
  match owner with
  | some name => .mismatch (cause name)
  | none => .fault .missingAttribute

def onData (shown : Except CodecError String) (cause : String → Mismatch) :
    Except CodecError Value := do
  throw (.mismatch (cause (← shown)))

/-- An integer as a double, if it is not beyond all doubles. -/
def widen (value : Int) : Except CodecError Value :=
  match Double.ofInt value with
  | .infinite _ => .error (.fault .overflow)
  | double => .ok (.float double)

def partAt? {α : Type} (entries : List (Value × α)) (key : String) : Option α :=
  (entries.find? fun entry => match entry.1 with | .text text => text == key | _ => false).map (·.2)

def unitVariant? (tag : String) (variants : List Schema.Variant) : Option Schema.Variant :=
  variants.find? fun v => v.payload == .unit && v.tag == tag

/-- The first variant with a payload whose tag is a key, and what stands at the key. -/
def payloadVariant? {α : Type} (entries : List (Value × α)) :
    List Schema.Variant → Option (Schema.Variant × α)
  | [] => none
  | v :: rest =>
    match v.payload, partAt? entries v.tag with
    | .unit, _ => payloadVariant? entries rest
    | _, some part => some (v, part)
    | _, none => payloadVariant? entries rest

/-- A key as an integer; `none` says that its text does not read as one. -/
def keyAsInteger? : Value → Except CodecError (Option Value)
  | .text text => .ok ((readInteger? text).map .int)
  | .int value => .ok (some (.int value))
  | .bool value => .ok (some (.int (Value.ofBool value)))
  | .float value =>
    match value.truncate? with
    | some value => .ok (some (.int value))
    | none => if value.isInfinite then .error (.fault .overflow) else .ok none
  | .language (.constant (.bytes content)) => .ok ((readInteger? (ofCodes content)).map .int)
  | _ => .error (.fault .wrongType)

/-- A key as a number of floating point; `none` says that its text does not read as one. -/
def keyAsFloat? : Value → Except CodecError (Option Value)
  | .text text => .ok ((Double.read? text).map .float)
  | .float value => .ok (some (.float value))
  | .int value => do return some (← widen value)
  | .bool value => do return some (← widen (Value.ofBool value))
  | .language (.constant (.bytes content)) => .ok ((Double.read? (ofCodes content)).map .float)
  | _ => .error (.fault .wrongType)

namespace Library

/-- Refuses data that fits no variant. A data enum that hides the codec has no way to say so. -/
def unrecognized (entity : DataEnum) : CodecError :=
  if entity.className = codecName then .fault .missingAttribute
  else .mismatch (.unrecognized entity.className)

/-- Decodes a text as a data enum. A data enum that is called like the type of texts hides it, and
so knows no text. -/
def decodeTag (library : Library) (entity : DataEnum) (tag : String) : Except CodecError Value :=
  match unitVariant? tag entity.variants with
  | some v =>
    if entity.className = "str" then .error (unrecognized entity)
    else do
      let chosen ← discriminant entity v
      discard (library.provider (.top entity.className) constructorName)
      return .choice entity.className chosen .null
  | none => .error (unrecognized entity)

/-- Decodes data as a class without looking into its parts. -/
def decodeInstance (library : Library) (type : Class) (data : Value) : Except CodecError Value :=
  match type with
  | .record path _ _ =>
    .error (if path.hides codecName then .fault .missingAttribute
      else .mismatch (.notARecord (library.nameOf path)))
  | .enumeration constants =>
    match constants.ofValue? data.content with
    | some value => .ok value
    | none => onData (library.shown data) (.unknownValue (library.nameOf constants.owner))
  | .dataEnum entity =>
    match data with
    | .text tag => library.decodeTag entity tag
    | _ => .error (unrecognized entity)

/-- Decodes data without looking into its parts. -/
def decodeWhole (library : Library) (owner : Option String) (type : HostType) (form : Form)
    (data : Value) : Except CodecError Value :=
  match form with
  | .bool =>
    match data with
    | .bool value => .ok (.bool value)
    | _ => onData (library.shown data) (.wrongKind "bool")
  | .integer =>
    match data with
    | .int value => .ok (.int value)
    | _ => onData (library.shown data) (.wrongKind "int")
  | .float =>
    match data with
    | .int value => widen value
    | .float value => .ok (.float value)
    | _ => onData (library.shown data) (.wrongKind "float")
  | .text =>
    match data with
    | .text value => .ok (.text value)
    | _ => onData (library.shown data) (.wrongKind "str")
  | .list _ => .error (onBehalf owner (.notAnArray type))
  | .map _ => .error (onBehalf owner (.notAnObject type))
  | .instanceOf type => library.decodeInstance type data
  | .unsupported => .error (onBehalf owner (.unsupportedType type))

/-- Decodes a key of an object as a type, given its decoder. -/
def decodeKey (library : Library) (owner : Option String) (type : HostType) (key : Value)
    (decoder : Decoder) : Except CodecError Value := do
  let invalid : Except CodecError Value := do
    let text ← library.shown key
    throw (onBehalf owner (.invalidKey text))
  match type with
  | .primitive .str => return key
  | .primitive .bool => return .bool (key.sameKey (.text "true"))
  | .primitive .int => (← keyAsInteger? key).elim invalid .ok
  | .primitive .float => (← keyAsFloat? key).elim invalid .ok
  | type => decoder (.value owner type)

/-- Binds a decoded key. What is no number is a new value wherever it is read from a key. -/
def bindDecoded (entries : List (Value × Value)) (key value : Value) :
    Except CodecError (List (Value × Value)) :=
  if key.isNotANumber then .ok (entries ++ [(key, value)])
  else if key.isHashable then .ok (Value.bindKey entries key value)
  else .error (.fault .wrongType)

/-- Decodes an entry of a map, given the decoders of its key and its value, and binds it. -/
def decodeEntry (library : Library) (owner : Option String) (keyType valueType : HostType)
    (known : List (Value × Value)) (entry : Value × Decoder × Decoder) :
    Except CodecError (List (Value × Value)) := do
  let key ← library.decodeKey owner keyType entry.1 entry.2.1
  let value ← entry.2.2 (.value owner valueType)
  bindDecoded known key value

def decodeMap (library : Library) (owner : Option String) (keyType valueType : HostType)
    (entries : List (Value × Decoder × Decoder)) : Except CodecError Value := do
  return .map (← entries.foldlM (library.decodeEntry owner keyType valueType) [])

/-- The fields that the constructor of a record class takes, which may be one of another class. -/
def constructorFields (library : Library) (path : ClassPath) (fields : List Field) :
    Except CodecError (List Field) :=
  match library.changed? path constructorName with
  | none => .ok fields
  | some (.function owner name) =>
    if name == constructorName then .ok ((library.fields? owner).getD []) else .ok []
  | some value => do
    if !value.isHashable then throw (.fault .wrongType)
    throw (.mismatch
      (.unresolvableTypes (library.nameOf path) (notCallable (← library.shown value))))

/-- The fields as the class of a record lists them, with their tags. -/
def fieldListing (library : Library) (path : ClassPath) (fields : List Field) : Value :=
  (library.changed? path listingName).getD (listedFields fields)

/-- Decodes the entries of a map as a record of a class that was changed: the attributes that the
class lists now become arguments of the constructor that it has now. -/
def decodeListed (library : Library) (path : ClassPath) (fields : List Field)
    (entries : List (Value × Decoder × Decoder)) : Except CodecError Value := do
  let owner := library.nameOf path
  let parameters ← library.constructorFields path fields
  let types ← library.resolveAll owner (parameters.map (·.type))
  let names := parameters.map fun field =>
    Render.Python.keptName path.name (Render.Python.attributeName field)
  let arguments ← (← takenApart (library.fieldListing path fields)).mapM fun item => do
    let (name, tag) ← listedField item
    match (names.zip types).lookup name with
    | none => throw (.fault .missingKey)
    | some type =>
      match partAt? entries tag with
      | some (_, decoder) => return (name, ← decoder (.value (some owner) type))
      | none => return (name, .null)
  discard (library.provider path constructorName)
  makeRecord path (names.map fun name => (name, (arguments.reverse.lookup name).getD .null))

/-- Decodes a field of a record from the entries of a map. A field without an entry is absent; one
whose name is kept in another form has no type. -/
def decodeField (path : ClassPath) (entries : List (Value × Decoder × Decoder))
    (field : Field × HostType) : Except CodecError (String × Value) := do
  let name := Render.Python.attributeName field.1
  if Render.Python.keptName path.name name ≠ name then throw (.fault .missingKey)
  match partAt? entries field.1.tag with
  | some (_, decoder) => return (name, ← decoder (.value (some path.name) field.2))
  | none => return (name, .null)

def decodeRecord (library : Library) (path : ClassPath) (fields : List Field)
    (entries : List (Value × Decoder × Decoder)) : Except CodecError Value := do
  if path.hides codecName then throw (.fault .missingAttribute)
  if (library.changes.lookup path).isSome then return ← library.decodeListed path fields entries
  let types ← library.resolveAll path.name (fields.map (·.type))
  makeRecord path (← (fields.zip types).mapM (decodeField path entries))

def slotTypes (library : Library) (entity : DataEnum) (v : Schema.Variant) :
    Except CodecError (List HostType) :=
  match method? entity (factoryName v) with
  | some method =>
    library.resolveAll (library.nameOf (.top entity.className)) method.parameterTypes
  | none => .error (.fault .missingAttribute)

/-- Decodes the payload of a variant. A data enum that hides the codec calls its own decoder for
that of a type, with too many arguments. -/
def decodePayload (library : Library) (entity : DataEnum) (v : Schema.Variant) (decoder : Decoder) :
    Except CodecError Value :=
  match v.payload with
  | .unit => .ok .null
  | .object fields =>
    if entity.className = codecName then .error (.fault .wrongType)
    else
      let holder := Class.record (Class.holderPath entity v) v.name.pascal fields
      decoder (.value (some (library.nameOf (.top entity.className))) (library.typeOf holder))
  | .tuple _ =>
    if entity.className = codecName then .error (.fault .missingAttribute)
    else do
      let types ← library.slotTypes entity v
      decoder (.slots (library.nameOf (.top entity.className)) v.tag types)

/-- Decodes the entries of a map as a data enum. One that is called like the type of maps hides it,
and so knows no map; one that is called like the test of types takes all data for texts. -/
def decodeChoice (library : Library) (entity : DataEnum)
    (entries : List (Value × Decoder × Decoder)) : Except CodecError Value :=
  match payloadVariant? entries entity.variants with
  | some (v, _, decoder) =>
    if entity.className = "dict" ∨ entity.className = "isinstance" then
      .error (unrecognized entity)
    else do
      let chosen ← discriminant entity v
      let payload ← library.decodePayload entity v decoder
      discard (library.provider (.top entity.className) constructorName)
      return .choice entity.className chosen payload
  | none => .error (unrecognized entity)

/-- Decodes data as a class, given the decoders of its parts. -/
def decodeAsClass (library : Library) (type : Class) (data : Value)
    (entries : List (Value × Decoder × Decoder)) : Except CodecError Value :=
  match type, data with
  | .record path _ fields, .map _ => library.decodeRecord path fields entries
  | .dataEnum entity, .map _ => library.decodeChoice entity entries
  | type, data => library.decodeInstance type data

/-- The class that decodes data for a class: itself, or the one whose decoder was set on it.
Enumerations need none. -/
def decodingClass (library : Library) (type : Class) : Except CodecError Class :=
  match type, (library.changed? type.path decoderName).map Value.content with
  | .enumeration _, _ | _, none => .ok type
  | _, some (.method path name _) =>
    match library.at? path with
    | some type => if name == decoderName then .ok type else .error (.fault .wrongType)
    | none => .error (.fault .wrongType)
  | _, some _ => .error (.fault .wrongType)

/-- Decodes data as a type that is no union, given the decoders of its parts. -/
def decodeContent (library : Library) (owner : Option String) (type : HostType) (data : Value)
    (items : List Decoder) (entries : List (Value × Decoder × Decoder)) : Except CodecError Value :=
  match library.form type, data with
  | .list [item], .list _ =>
    do return .list (← items.mapM fun decoder => decoder (.value owner item))
  | .list _, .list _ => .error (.fault .wrongValue)
  | .map [key, value], .map _ => library.decodeMap owner key value entries
  | .map _, .map _ => .error (.fault .wrongValue)
  | .instanceOf type, data => do
    library.decodeAsClass (← library.decodingClass type) data entries
  | form, data => library.decodeWhole owner type form data

/-- Decodes data as a type, given the decoders of its parts. -/
def decodeValue (library : Library) (owner : Option String) (type : HostType) (data : Value)
    (items : List Decoder) (entries : List (Value × Decoder × Decoder)) : Except CodecError Value :=
  match data with
  | .null => .ok .null
  | data =>
    match content? type with
    | some content => library.decodeContent owner content data items entries
    | none => .error (onBehalf owner (.unsupportedType type))

/-- Decodes data as the payload of a tuple variant, given the decoders of its parts. -/
def decodeSlots (library : Library) (className key : String) (types : List HostType) (data : Value)
    (items : List Decoder) (entries : List (Value × Decoder × Decoder)) : Except CodecError Value :=
  match types, data with
  | [type], data => do
    return .tuple [← library.decodeValue (some className) type data items entries]
  | types, .list _ =>
    if items.length = types.length then do
      return .tuple (← (items.zip types).mapM fun (decoder, type) =>
        decoder (.value (some className) type))
    else
      .error (.mismatch (.slotCount className key types.length))
  | types, _ => .error (.mismatch (.slotCount className key types.length))

/-- The decoder of data, given the decoders of its parts. -/
def decodeWith (library : Library) (data : Value) (items : List Decoder)
    (entries : List (Value × Decoder × Decoder)) : Decoder
  | .value owner type => library.decodeValue owner type data items entries
  | .instanceOf type => library.decodeAsClass type data entries
  | .slots className key types => library.decodeSlots className key types data items entries

mutual

def decoder (library : Library) (data : Value) : Decoder :=
  match data with
  | .list items => library.decodeWith (.list items) (library.itemDecoders items) []
  | .map entries => library.decodeWith (.map entries) [] (library.entryDecoders entries)
  | .object _ _ content => library.decoder content
  | data => library.decodeWith data [] []

def itemDecoders (library : Library) (items : List Value) : List Decoder :=
  match items with
  | [] => []
  | item :: rest => library.decoder item :: library.itemDecoders rest

/-- The keys of a map with the decoders of keys and values. -/
def entryDecoders (library : Library) (entries : List (Value × Value)) :
    List (Value × Decoder × Decoder) :=
  match entries with
  | [] => []
  | (key, value) :: rest =>
    (key.content, library.decoder key, library.decoder value) :: library.entryDecoders rest

end

def decodeData (library : Library) (data : Value) (type : HostType) (owner : Option String) :
    Except CodecError Value :=
  library.decoder data (.value owner type)

/-- Decodes a JSON value as a type, on behalf of an owner. -/
def decode (library : Library) (json : Json) (type : HostType) (owner : Option String) :
    Except CodecError Value :=
  library.decodeData (.ofJson json) type owner

def read (library : Library) (type : HostType) (text : String) : Except CodecError Value :=
  match Json.read text with
  | .ok json => library.decode json type (ownerName? type)
  | .error error => .error (.unreadable error)

end Library

end WireModel.Codec
