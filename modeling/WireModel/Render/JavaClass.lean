import WireModel.Render.Generated
import WireModel.Render.JavaLiteral
import WireModel.Render.Lines

/-!
Java classes: a class with accessors for a record, an enum for an enumeration, and for a data enum a
wrapper of a discriminant and a payload with its own serializer and deserializer.
-/

namespace WireModel.Render.Java

open Schema

def typeText (type : TypeExpr) : String :=
  type.text .java

def fieldDeclaration (field : Field) : List String := [
  "@JsonProperty(" ++ javaString field.tag ++ ")",
  "private " ++ typeText field.type ++ " " ++ field.name.camel ++ ";",
  ""]

/-- The getter and the setter of a field. -/
def accessors (field : Field) : List String :=
  block ("public " ++ typeText field.type ++ " get" ++ field.name.pascal ++ "()") [
    "    return " ++ field.name.camel ++ ";"] ++ [""] ++
  block ("public void set" ++ field.name.pascal ++ "(" ++ typeText field.type ++ " " ++
    field.name.camel ++
      ")") [
    "    this." ++ field.name.camel ++ " = " ++ field.name.camel ++ ";"] ++ [""]

def recordLines (entity : Record) : List String :=
  ["import com.fasterxml.jackson.annotation.JsonProperty;", ""] ++
  block ("public class " ++ entity.className)
    (indent 1 (
      entity.fields.flatMap fieldDeclaration ++
      ["public " ++ entity.className ++ "() " ++ braced "", ""] ++
      entity.fields.flatMap accessors))

/-- The constants of an enumeration, with a comma behind all but the last. -/
def constantLines : List Schema.Constant → List String
  | [] => []
  | constant :: rest =>
    ("    @JsonProperty(" ++ javaString constant.tag ++ ")") ::
    ("    " ++ constant.name.upperSnake ++ (if rest.isEmpty then "" else ",")) ::
    constantLines rest

def enumerationLines (entity : Schema.Enumeration) : List String :=
  ["import com.fasterxml.jackson.annotation.JsonProperty;", ""] ++
  block ("public enum " ++ entity.className) (constantLines entity.constants)

def dataEnumImports : List String := [
  "import com.fasterxml.jackson.annotation.JsonIgnore;",
  "import com.fasterxml.jackson.annotation.JsonInclude;",
  "import com.fasterxml.jackson.annotation.JsonProperty;",
  "import com.fasterxml.jackson.core.*;",
  "import com.fasterxml.jackson.databind.DeserializationContext;",
  "import com.fasterxml.jackson.databind.JsonNode;",
  "import com.fasterxml.jackson.databind.SerializerProvider;",
  "import com.fasterxml.jackson.databind.annotation.JsonDeserialize;",
  "import com.fasterxml.jackson.databind.annotation.JsonSerialize;",
  "import com.fasterxml.jackson.databind.deser.std.StdDeserializer;",
  "import com.fasterxml.jackson.databind.node.ObjectNode;",
  "import com.fasterxml.jackson.databind.ser.std.StdSerializer;",
  "import com.fasterxml.jackson.core.type.TypeReference;",
  "",
  "import java.io.IOException;"]

/-- The check of the discriminant in an accessor. -/
def variantCheck (v : Schema.Variant) : List String :=
  indent 1 (block ("if (variant != Variant." ++ v.name.upperSnake ++ ")") [
    "    throw new IllegalStateException(\"Invalid variant: \" + variant);"])

def creation (className : String) (v : Schema.Variant) (payload : String) : String :=
  "    return new " ++ className ++ "(Variant." ++ v.name.upperSnake ++ ", " ++ payload ++ ");"

/-- The holder class of an object variant. -/
def holderClass (v : Schema.Variant) (fields : List Field) : List String :=
  let holder := v.name.pascal
  let parameters := ", ".intercalate (fields.map fun field =>
    "@JsonProperty(" ++ javaString field.tag ++ ") " ++ typeText field.type ++ " " ++
      field.name.camel)
  block ("public static class " ++ holder) (indent 1 (
    (fields.map fun field => "private final " ++ typeText field.type ++ " " ++
      field.name.camel ++ ";") ++
    [""] ++
    block ("public " ++ holder ++ "(" ++ parameters ++ ")") (fields.map fun field =>
      "    this." ++ field.name.camel ++ " = " ++ field.name.camel ++ ";") ++
    [""] ++
    fields.flatMap fun field =>
      ["@JsonProperty(" ++ javaString field.tag ++ ")"] ++
      block ("public " ++ typeText field.type ++ " get" ++ field.name.pascal ++ "()") [
        "    return " ++ field.name.camel ++ ";"] ++
      [""])) ++
  [""]

/-- The factory, the accessor and the holder class of an object variant. -/
def objectMembers (className : String) (v : Schema.Variant) (fields : List Field) : List String :=
  let holder := v.name.pascal
  block ("public static " ++ className ++ " of" ++ holder ++ "(" ++ holder ++ " value)")
    [creation className v "value"] ++ [""] ++
  block ("public " ++ holder ++ " get" ++ holder ++ "()")
    (variantCheck v ++ ["    return (" ++ holder ++ ") value;"]) ++ [""] ++
  holderClass v fields

def slotAccessors (v : Schema.Variant) (numbered : Bool) (place : Nat) : List TypeExpr → List String
  | [] => []
  | slot :: rest =>
    let getter := "get" ++ v.name.pascal ++ (if numbered then toString place else "")
    ["@SuppressWarnings(\"unchecked\")"] ++
    block ("public " ++ typeText slot ++ " " ++ getter ++ "()")
      (variantCheck v ++
        ["    return (" ++ typeText slot ++ ") ((Object[]) value)[" ++ toString place ++ "];"]) ++
    [""] ++
    slotAccessors v numbered (place + 1) rest

/-- The factory and the accessors of a tuple variant. A single slot goes without a number. -/
def tupleMembers (className : String) (v : Schema.Variant) (slots : List TypeExpr) : List String :=
  let arguments := (List.range slots.length).map fun place => "arg" ++ toString place
  let parameters := ", ".intercalate (slots.zipWith
    (fun slot argument => typeText slot ++ " " ++ argument) arguments)
  block ("public static " ++ className ++ " of" ++ v.name.pascal ++ "(" ++ parameters ++ ")")
    [creation className v ("new Object[] " ++ braced (", ".intercalate arguments))] ++
  [""] ++
  slotAccessors v (slots.length != 1) 0 slots

def variantMembers (className : String) (v : Schema.Variant) : List String :=
  (match v.payload with
  | .unit =>
    block ("public static " ++ className ++ " of" ++ v.name.pascal ++ "()")
      [creation className v "null"] ++ [""]
  | .object fields => objectMembers className v fields
  | .tuple slots => tupleMembers className v slots) ++
  block ("public boolean is" ++ v.name.pascal ++ "()") [
    "    return variant == Variant." ++ v.name.upperSnake ++ ";"] ++
  [""]

/-- How a variant is written. -/
def serializerCase (v : Schema.Variant) : List String :=
  let tag := javaString v.tag
  let tagged (payload : String) : List String := [
    "gen.writeStartObject();",
    "gen.writeObjectField(" ++ tag ++ ", " ++ payload ++ ");",
    "gen.writeEndObject();"]
  let write :=
    match v.payload with
    | .unit => ["gen.writeString(" ++ tag ++ ");"]
    | .tuple [_] => tagged "((Object[]) value.value)[0]"
    | _ => tagged "value.value"
  block ("case " ++ v.name.upperSnake ++ ":") (indent 1 write) ++ ["break;"]

def serializer (entity : DataEnum) : List String :=
  let name := entity.className
  block ("public static class Serializer extends StdSerializer<" ++ name ++ ">") (indent 1 (
    block "public Serializer()" ["    super(" ++ name ++ ".class);"] ++
    ["", "@Override"] ++
    block ("public void serialize(" ++ name ++
        " value, JsonGenerator gen, SerializerProvider provider) throws IOException")
      (indent 1 (block "switch (value.getVariant())"
        (indent 1 (entity.variants.flatMap serializerCase)))))) ++
  [""]

/-- How a unit variant is recognised. -/
def unitCase (className : String) (v : Schema.Variant) : List String :=
  match v.payload with
  | .unit =>
    block ("if (p.getText().equals(" ++ javaString v.tag ++ "))") [creation className v "null"]
  | _ => []

/-- How a variant with a payload is recognised and read. -/
def payloadCase (className : String) (v : Schema.Variant) : List String :=
  let tag := javaString v.tag
  let reference (type : String) : String := "new TypeReference<" ++ type ++ ">()" ++ braced ""
  let case (payload : String) : List String :=
    block ("if (node.has(" ++ tag ++ "))") [creation className v payload]
  match v.payload with
  | .unit => []
  | .object _ =>
    case ("parseField(ctxt, node, " ++ tag ++ ", " ++ reference v.name.pascal ++ ")[0]")
  | .tuple slots =>
    case ("parseField(ctxt, node, " ++ tag ++ ", " ++
      ", ".intercalate (slots.map fun slot => reference (typeText slot)) ++ ")")

/-- The reader of a payload: one value by itself, several as an array of that size. -/
def fieldParser (className : String) : List String :=
  let parser (source : String) : String :=
    "try (JsonParser parser = " ++ source ++ ".traverse(ctxt.getParser().getCodec()))"
  block ("private Object[] parseField(DeserializationContext ctxt, ObjectNode node, String key, " ++
      "TypeReference<?>... types) throws IOException") (indent 1 (
    ["JsonNode field = node.get(key);"] ++
    block "if (field == null)" ["    return new Object[types.length];"] ++
    block "if (types.length == 1)" (indent 1 (
      block (parser "field") [
        "    return new Object[]" ++ braced "parser.readValueAs(types[0])" ++ ";"])) ++
    block "if (!field.isArray() || field.size() != types.length)" [
      "    throw new JsonParseException(ctxt.getParser(), \"Cannot deserialize " ++ className ++
        ": expected array of size \" + types.length + \" for field \" + key);"] ++
    ["Object[] result = new Object[types.length];"] ++
    block "for (int i = 0; i < types.length; i++)" (indent 1 (
      block (parser "field.get(i)") ["    result[i] = parser.readValueAs(types[i]);"])) ++
    ["return result;"]))

def deserializer (entity : DataEnum) : List String :=
  let name := entity.className
  block ("public static class Deserializer extends StdDeserializer<" ++ name ++ ">") (indent 1 (
    block "public Deserializer()" ["    super(" ++ name ++ ".class);"] ++
    [""] ++
    fieldParser name ++
    ["", "@Override"] ++
    block ("public " ++ name ++
        " deserialize(JsonParser p, DeserializationContext ctxt) throws IOException, " ++
        "JacksonException")
      (indent 1 (
        ["if (p.currentToken() == JsonToken.VALUE_STRING) \x7b"] ++
        indent 1 (entity.variants.flatMap (unitCase name)) ++
        ["\x7d else if (p.currentToken() == JsonToken.START_OBJECT) \x7b",
          "    ObjectNode node = (ObjectNode) p.getCodec().readTree(p);"] ++
        indent 1 (entity.variants.flatMap (payloadCase name)) ++
        ["\x7d",
          "throw ctxt.instantiationException(" ++ name ++
            ".class, \"Cannot deserialize \" + " ++ javaString name ++ ");"])))) ++
  [""]

def discriminants (entity : DataEnum) : List String :=
  block "public enum Variant" [
    "    " ++ ", ".intercalate (entity.variants.map fun v => v.name.upperSnake)] ++
  [""]

def dataEnumLines (entity : DataEnum) : List String :=
  let name := entity.className
  dataEnumImports ++ [
    "",
    "@JsonInclude(JsonInclude.Include.NON_NULL)",
    "@JsonSerialize(using = " ++ name ++ ".Serializer.class)",
    "@JsonDeserialize(using = " ++ name ++ ".Deserializer.class)"] ++
  block ("public class " ++ name) (indent 1 (
    ["@JsonIgnore", "private final Variant variant;", "",
      "@JsonIgnore", "private final Object value;", ""] ++
    block ("private " ++ name ++ "(Variant variant, Object value)") [
      "    this.variant = variant;", "    this.value = value;"] ++
    [""] ++
    entity.variants.flatMap (variantMembers name) ++
    serializer entity ++
    deserializer entity ++
    discriminants entity ++
    block "Variant getVariant()" ["    return variant;"]))

/-- The names that holder classes must leave to the members of a data enum. -/
def reservedNames : List String :=
  ["Variant", "Serializer", "Deserializer"]

def lines : Entity → Except GenerationError (List String)
  | .record entity => .ok (recordLines entity)
  | .enumeration entity => .ok (enumerationLines entity)
  | .dataEnum entity => do
    entity.check reservedNames
    return dataEnumLines entity

/-- The class of an entity, if its brackets are balanced. -/
def generate (entity : Entity) : Except GenerationError GeneratedClass := do
  let code := joinLines (← lines entity)
  if isBalanced code then return ⟨entity.className, code⟩
  else throw (.brokenClass .java entity.className)

end WireModel.Render.Java
