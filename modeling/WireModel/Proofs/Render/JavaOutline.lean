import Mathlib.Data.List.Basic
import WireModel.Proofs.Outcome
import WireModel.Render.JavaClass

/-!
The outline of a generated Java class: the classes, fields, methods and parameters that it declares,
each with the code around it, in which the names of classes are marked. The lines of a class are the
text of its outline.
-/

namespace WireModel.Render.Java

open Schema

/-- A piece of a line of code. -/
inductive Piece where
  /-- Words and signs of the language, literals, and names of anything but a class. -/
  | text (text : String)
  /-- The name of a class that stands in the generated one. -/
  | own (name : String)
  /-- The name of any other class, or of the package in front of one. -/
  | outside (name : String)

def Piece.spelling : Piece → String
  | .text spelling | .own spelling | .outside spelling => spelling

/-- A line of code. -/
abbrev Phrase := List Piece

def spell : Phrase → String
  | [] => ""
  | piece :: rest => piece.spelling ++ spell rest

def listed : List Phrase → Phrase
  | [] => []
  | [phrase] => phrase
  | phrase :: next :: rest => phrase ++ .text ", " :: listed (next :: rest)

/-- Phrases moved to the right, like their lines. -/
def indented (level : Nat) (phrases : List Phrase) : List Phrase :=
  phrases.map fun phrase =>
    if (spell phrase).isEmpty then phrase else .text (padding level) :: phrase

/-- Phrases between a head with an opening brace and a closing brace. -/
def enclosed (head : Phrase) (body : List Phrase) : List Phrase :=
  (head ++ [.text " \x7b"]) :: body ++ [[.text "\x7d"]]

/-- A type expression names the class that it is made of; the classes of lists and maps are named
with their package. -/
def typePhrase : TypeExpr → Phrase
  | .named name => [.outside name]
  | .list item => [.outside "java", .text ".util.List<"] ++ typePhrase item ++ [.text ">"]
  | .map key value =>
    [.outside "java", .text ".util.Map<"] ++ typePhrase key ++ [.text ", "] ++
    typePhrase value ++ [.text ">"]

/-- The annotation with the tag of a field. -/
def propertyPhrase (tag : String) : Phrase :=
  [.text "@", .outside "JsonProperty", .text ("(" ++ javaString tag ++ ")")]

structure Parameter where
  annotation : Phrase
  type : Phrase
  name : String

def Parameter.phrase (parameter : Parameter) : Phrase :=
  parameter.annotation ++ parameter.type ++ [.text (" " ++ parameter.name)]

/-- A member of a class, or lines between members. -/
inductive Member where
  | lines (phrases : List Phrase)
  | field (modifiers type : Phrase) (name : String)
  | method (modifiers type : Phrase) (name : String) (parameters : List Parameter)
      (throwing : Phrase) (body : List Phrase)
  | creator (modifiers : Phrase) (name : String) (parameters : List Parameter) (body : List Phrase)

namespace Member

def blank : Member :=
  .lines [[]]

def phrases : Member → List Phrase
  | .lines phrases => phrases
  | .field modifiers type name => [modifiers ++ type ++ [.text (" " ++ name ++ ";")]]
  | .method modifiers type name parameters throwing body =>
    enclosed (modifiers ++ type ++ [.text (" " ++ name ++ "(")] ++
      listed (parameters.map Parameter.phrase) ++ [.text ")"] ++ throwing) body
  | .creator modifiers name parameters body =>
    enclosed (modifiers ++ [.text (name ++ "(")] ++ listed (parameters.map Parameter.phrase) ++
      [.text ")"]) body

end Member

/-- What stands in a class: a member, a class with members, or an enumeration. -/
inductive Item where
  | member (member : Member)
  | nested (name : String) (extending : Phrase) (members : List Member)
  | enumeration (name : String) (constants : List String)

def Item.phrases : Item → List Phrase
  | .member inner => inner.phrases
  | .nested name extending members =>
    enclosed (.text ("public static class " ++ name) :: extending)
      (indented 1 (members.flatMap Member.phrases))
  | .enumeration name constants =>
    enclosed [.text ("public enum " ++ name)] [[.text ("    " ++ ", ".intercalate constants)]]

/-- The constants of an enumeration, each below its tag, with a comma behind all but the last. -/
def constantPhrases : List Schema.Constant → List Phrase
  | [] => []
  | constant :: rest =>
    (.text "    " :: propertyPhrase constant.tag) ::
    [.text ("    " ++ constant.name.upperSnake ++ (if rest.isEmpty then "" else ","))] ::
    constantPhrases rest

/-- A class or an enumeration, behind its imports and annotations. -/
inductive Outline where
  | ofClass (preamble : List String) (name : String) (items : List Item)
  | ofEnumeration (preamble : List String) (name : String) (constants : List Schema.Constant)

/-- What stands between the braces of the class. -/
def Outline.body : Outline → List Phrase
  | .ofClass _ _ items => items.flatMap Item.phrases
  | .ofEnumeration _ _ constants => constantPhrases constants

def Outline.lines : Outline → List String
  | .ofClass preamble name items =>
    preamble ++ block ("public class " ++ name) (indent 1 ((items.flatMap Item.phrases).map spell))
  | .ofEnumeration preamble name constants =>
    preamble ++ block ("public enum " ++ name) ((constantPhrases constants).map spell)

def declaration (field : Field) : List Member := [
  .lines [propertyPhrase field.tag],
  .field [.text "private "] (typePhrase field.type) field.name.camel,
  .blank]

def getter (field : Field) : Member :=
  .method [.text "public "] (typePhrase field.type) ("get" ++ field.name.pascal) [] [] [
    [.text ("    return " ++ field.name.camel ++ ";")]]

def assignment (field : Field) : Phrase :=
  [.text ("    this." ++ field.name.camel ++ " = " ++ field.name.camel ++ ";")]

def setter (field : Field) : Member :=
  .method [.text "public "] [.text "void"] ("set" ++ field.name.pascal)
    [⟨[], typePhrase field.type, field.name.camel⟩] [] [assignment field]

def recordMembers (entity : Record) : List Member :=
  entity.fields.flatMap declaration ++
  [.lines [[.text ("public " ++ entity.className ++ "() " ++ braced "")], []]] ++
  entity.fields.flatMap fun field => [getter field, .blank, setter field, .blank]

def checkPhrases (v : Schema.Variant) : List Phrase :=
  indented 1
    (enclosed [.text "if (variant != ", .own "Variant", .text ("." ++ v.name.upperSnake ++ ")")] [
    [.text "    throw new ", .outside "IllegalStateException",
      .text "(\"Invalid variant: \" + variant);"]])

def creationPhrase (className : String) (v : Schema.Variant) (payload : Phrase) : Phrase :=
  [.text "    return new ", .outside className, .text "(", .own "Variant",
    .text ("." ++ v.name.upperSnake ++ ", ")] ++ payload ++ [.text ");"]

/-- The parameter for a field in the constructor of a holder class. -/
def fieldParameter (field : Field) : Parameter :=
  ⟨propertyPhrase field.tag ++ [.text " "], typePhrase field.type, field.name.camel⟩

def holderCreator (v : Schema.Variant) (fields : List Field) : Member :=
  .creator [.text "public "] v.name.pascal (fields.map fieldParameter) (fields.map assignment)

def holderMembers (v : Schema.Variant) (fields : List Field) : List Member :=
  (fields.map fun field =>
    .field [.text "private final "] (typePhrase field.type) field.name.camel) ++
  [.blank, holderCreator v fields, .blank] ++
  fields.flatMap fun field => [.lines [propertyPhrase field.tag], getter field, .blank]

def factory (className : String) (v : Schema.Variant) (parameters : List Parameter)
    (payload : Phrase) : Member :=
  .method [.text "public static "] [.outside className] ("of" ++ v.name.pascal) parameters []
    [creationPhrase className v payload]

def accessor (v : Schema.Variant) (type : Phrase) (number : String) (result : Phrase) : Member :=
  .method [.text "public "] type ("get" ++ v.name.pascal ++ number) [] []
    (checkPhrases v ++ [[.text "    return ("] ++ type ++ .text ") " :: result])

def objectItems (className : String) (v : Schema.Variant) (fields : List Field) : List Item := [
  .member (factory className v [⟨[], [.own v.name.pascal], "value"⟩] [.text "value"]),
  .member .blank,
  .member (accessor v [.own v.name.pascal] "" [.text "value;"]),
  .member .blank,
  .nested v.name.pascal [] (holderMembers v fields),
  .member .blank]

def slotItems (v : Schema.Variant) (numbered : Bool) (place : Nat) : List TypeExpr → List Item
  | [] => []
  | slot :: rest =>
    .member (.lines [[.text "@", .outside "SuppressWarnings", .text "(\"unchecked\")"]]) ::
    .member (accessor v (typePhrase slot) (if numbered then toString place else "")
      [.text "((", .outside "Object", .text ("[]) value)[" ++ toString place ++ "];")]) ::
    .member .blank ::
    slotItems v numbered (place + 1) rest

def slotNames (slots : List TypeExpr) : List String :=
  (List.range slots.length).map fun place => "arg" ++ toString place

def slotParameters (slots : List TypeExpr) : List Parameter :=
  slots.zipWith (fun slot name => ⟨[], typePhrase slot, name⟩) (slotNames slots)

def tupleItems (className : String) (v : Schema.Variant) (slots : List TypeExpr) : List Item :=
  .member (factory className v (slotParameters slots)
    [.text "new ", .outside "Object", .text ("[] " ++ braced (", ".intercalate (slotNames slots)))])
      ::
  .member .blank ::
  slotItems v (slots.length != 1) 0 slots

def test (v : Schema.Variant) : Member :=
  .method [.text "public "] [.text "boolean"] ("is" ++ v.name.pascal) [] [] [
    [.text "    return variant == ", .own "Variant", .text ("." ++ v.name.upperSnake ++ ";")]]

def payloadItems (className : String) (v : Schema.Variant) : List Item :=
  match v.payload with
  | .unit => [.member (factory className v [] [.text "null"]), .member .blank]
  | .object fields => objectItems className v fields
  | .tuple slots => tupleItems className v slots

def variantItems (className : String) (v : Schema.Variant) : List Item :=
  payloadItems className v ++ [.member (test v), .member .blank]

def writingPhrases (v : Schema.Variant) : List Phrase :=
  let tagged (payload : Phrase) : List Phrase := [
    [.text "gen.writeStartObject();"],
    [.text ("gen.writeObjectField(" ++ javaString v.tag ++ ", ")] ++ payload ++ [.text ");"],
    [.text "gen.writeEndObject();"]]
  let write :=
    match v.payload with
    | .unit => [[.text ("gen.writeString(" ++ javaString v.tag ++ ");")]]
    | .tuple [_] => tagged [.text "((", .outside "Object", .text "[]) value.value)[0]"]
    | _ => tagged [.text "value.value"]
  enclosed [.text ("case " ++ v.name.upperSnake ++ ":")] (indented 1 write) ++ [[.text "break;"]]

def override : Member :=
  .lines [[.text "@", .outside "Override"]]

def serializerMembers (entity : DataEnum) : List Member := [
  .creator [.text "public "] "Serializer" [] [
    [.text "    super(", .outside entity.className, .text ".class);"]],
  .blank,
  override,
  .method [.text "public "] [.text "void"] "serialize" [
      ⟨[], [.outside entity.className], "value"⟩,
      ⟨[], [.outside "JsonGenerator"], "gen"⟩,
      ⟨[], [.outside "SerializerProvider"], "provider"⟩]
    [.text " throws ", .outside "IOException"]
    (indented 1 (enclosed [.text "switch (value.getVariant())"]
      (indented 1 (entity.variants.flatMap writingPhrases))))]

def unitPhrases (className : String) (v : Schema.Variant) : List Phrase :=
  match v.payload with
  | .unit =>
    enclosed [.text ("if (p.getText().equals(" ++ javaString v.tag ++ "))")] [
      creationPhrase className v [.text "null"]]
  | _ => []

def referencePhrase (type : Phrase) : Phrase :=
  [.text "new ", .outside "TypeReference", .text "<"] ++ type ++ [.text (">()" ++ braced "")]

def payloadPhrases (className : String) (v : Schema.Variant) : List Phrase :=
  let reading (references : Phrase) : List Phrase :=
    enclosed [.text ("if (node.has(" ++ javaString v.tag ++ "))")] [
      creationPhrase className v
        ([.text ("parseField(ctxt, node, " ++ javaString v.tag ++ ", ")] ++ references)]
  match v.payload with
  | .unit => []
  | .object _ => reading (referencePhrase [.own v.name.pascal] ++ [.text ")[0]"])
  | .tuple slots =>
    reading (listed (slots.map fun slot => referencePhrase (typePhrase slot)) ++ [.text ")"])

def parserMember (className : String) : Member :=
  let parsing (source : String) : Phrase := [.text "try (", .outside "JsonParser",
    .text (" parser = " ++ source ++ ".traverse(ctxt.getParser().getCodec()))")]
  .method [.text "private "] [.outside "Object", .text "[]"] "parseField" [
      ⟨[], [.outside "DeserializationContext"], "ctxt"⟩,
      ⟨[], [.outside "ObjectNode"], "node"⟩,
      ⟨[], [.outside "String"], "key"⟩,
      ⟨[], [.outside "TypeReference", .text "<?>..."], "types"⟩]
    [.text " throws ", .outside "IOException"]
    (indented 1 (
      [[.outside "JsonNode", .text " field = node.get(key);"]] ++
      enclosed [.text "if (field == null)"] [
        [.text "    return new ", .outside "Object", .text "[types.length];"]] ++
      enclosed [.text "if (types.length == 1)"] (indented 1 (
        enclosed (parsing "field") [
          [.text "    return new ", .outside "Object",
            .text ("[]" ++ braced "parser.readValueAs(types[0])" ++ ";")]])) ++
      enclosed [.text "if (!field.isArray() || field.size() != types.length)"] [
        [.text "    throw new ", .outside "JsonParseException",
          .text ("(ctxt.getParser(), \"Cannot deserialize " ++ className ++
            ": expected array of size \" + types.length + \" for field \" + key);")]] ++
      [[.outside "Object", .text "[] result = new ", .outside "Object", .text "[types.length];"]] ++
      enclosed [.text "for (int i = 0; i < types.length; i++)"] (indented 1 (
        enclosed (parsing "field.get(i)")
          [[.text "    result[i] = parser.readValueAs(types[i]);"]])) ++
      [[.text "return result;"]]))

def deserializerMembers (entity : DataEnum) : List Member := [
  .creator [.text "public "] "Deserializer" [] [
    [.text "    super(", .outside entity.className, .text ".class);"]],
  .blank,
  parserMember entity.className,
  .blank,
  override,
  .method [.text "public "] [.outside entity.className] "deserialize" [
      ⟨[], [.outside "JsonParser"], "p"⟩,
      ⟨[], [.outside "DeserializationContext"], "ctxt"⟩]
    [.text " throws ", .outside "IOException", .text ", ", .outside "JacksonException"]
    (indented 1 (
      [[.text "if (p.currentToken() == ", .outside "JsonToken", .text ".VALUE_STRING) \x7b"]] ++
      indented 1 (entity.variants.flatMap (unitPhrases entity.className)) ++
      [[.text "\x7d else if (p.currentToken() == ", .outside "JsonToken",
        .text ".START_OBJECT) \x7b"],
        [.text "    ", .outside "ObjectNode", .text " node = (", .outside "ObjectNode",
          .text ") p.getCodec().readTree(p);"]] ++
      indented 1 (entity.variants.flatMap (payloadPhrases entity.className)) ++
      [[.text "\x7d"],
        [.text "throw ctxt.instantiationException(", .outside entity.className,
          .text (".class, \"Cannot deserialize \" + " ++ javaString entity.className ++ ");")]]))]

def ignore : Member :=
  .lines [[.text "@", .outside "JsonIgnore"]]

def dataEnumItems (entity : DataEnum) : List Item :=
  [.member ignore, .member (.field [.text "private final "] [.own "Variant"] "variant"),
    .member .blank,
    .member ignore, .member (.field [.text "private final "] [.outside "Object"] "value"),
      .member .blank,
    .member (.creator [.text "private "] entity.className [
        ⟨[], [.own "Variant"], "variant"⟩, ⟨[], [.outside "Object"], "value"⟩] [
      [.text "    this.variant = variant;"], [.text "    this.value = value;"]]),
    .member .blank] ++
  entity.variants.flatMap (variantItems entity.className) ++
  [.nested "Serializer" [.text " extends ", .outside "StdSerializer", .text "<",
    .outside entity.className,
      .text ">"] (serializerMembers entity),
    .member .blank,
    .nested "Deserializer" [.text " extends ", .outside "StdDeserializer", .text "<",
      .outside entity.className, .text ">"] (deserializerMembers entity),
    .member .blank,
    .enumeration "Variant" (entity.variants.map fun v => v.name.upperSnake),
    .member .blank,
    .member (.method [] [.own "Variant"] "getVariant" [] [] [[.text "    return variant;"]])]

def outline : Entity → Outline
  | .record entity =>
    .ofClass ["import com.fasterxml.jackson.annotation.JsonProperty;", ""] entity.className
      ((recordMembers entity).map .member)
  | .enumeration entity =>
    .ofEnumeration ["import com.fasterxml.jackson.annotation.JsonProperty;", ""] entity.className
      entity.constants
  | .dataEnum entity =>
    .ofClass (dataEnumImports ++ [
      "",
      "@JsonInclude(JsonInclude.Include.NON_NULL)",
      "@JsonSerialize(using = " ++ entity.className ++ ".Serializer.class)",
      "@JsonDeserialize(using = " ++ entity.className ++ ".Deserializer.class)"])
      entity.className (dataEnumItems entity)

theorem spell_nil : spell [] = "" :=
  rfl

theorem spell_cons {piece : Piece} {rest : Phrase} :
    spell (piece :: rest) = piece.spelling ++ spell rest :=
  rfl

theorem spell_append {first second : Phrase} :
    spell (first ++ second) = spell first ++ spell second := by
  induction first with
  | nil => rw [List.nil_append, spell_nil, String.empty_append]
  | cons piece rest ih => rw [List.cons_append, spell_cons, ih, spell_cons, String.append_assoc]

theorem spell_listed (phrases : List Phrase) :
    spell (listed phrases) = ", ".intercalate (phrases.map spell) := by
  fun_induction listed phrases with
  | case1 => rfl
  | case2 phrase => rw [List.map_singleton, String.intercalate_singleton]
  | case3 phrase next rest ih =>
    rw [spell_append, spell_cons, ih, List.map_cons, List.map_cons, List.map_cons,
      String.intercalate_cons_cons, String.append_assoc]
    rfl

theorem map_spell_indented {level : Nat} {phrases : List Phrase} :
    (indented level phrases).map spell = indent level (phrases.map spell) := by
  rw [indented, indent, List.map_map, List.map_map]
  refine List.map_congr_left fun phrase _ => ?_
  by_cases empty : (spell phrase).isEmpty = true
  · simp only [Function.comp_apply, if_pos empty]
  · simp only [Function.comp_apply, if_neg empty]
    rfl

theorem map_spell_enclosed {head : Phrase} {body : List Phrase} :
    (enclosed head body).map spell = block (spell head) (body.map spell) := by
  rw [enclosed, block, List.map_append, List.map_cons, spell_append]
  rfl

theorem spell_typePhrase (type : TypeExpr) : spell (typePhrase type) = typeText type := by
  induction type with
  | named name => exact String.append_empty
  | list item ih =>
    have written : typeText (.list item) = "java.util.List<" ++ typeText item ++ ">" := rfl
    rw [written, ← ih, typePhrase]
    simp only [spell_append, spell_cons, spell_nil, Piece.spelling, String.append_empty,
      String.append_assoc]
    -- The literals that are left are one piece on one side and several on the other.
    rfl
  | map key value ihKey ihValue =>
    have written : typeText (.map key value) =
        "java.util.Map<" ++ typeText key ++ ", " ++ typeText value ++ ">" := rfl
    rw [written, ← ihKey, ← ihValue, typePhrase]
    simp only [spell_append, spell_cons, spell_nil, Piece.spelling, String.append_empty,
      String.append_assoc]
    rfl

theorem spell_propertyPhrase (tag : String) :
    spell (propertyPhrase tag) = "@JsonProperty(" ++ javaString tag ++ ")" := by
  simp only [propertyPhrase, spell_cons, spell_nil, Piece.spelling, String.append_empty,
    String.append_assoc]
  rfl

theorem phrases_declaration (field : Field) :
    ((declaration field).flatMap Member.phrases).map spell = fieldDeclaration field := by
  have line : spell ([Piece.text "private "] ++ typePhrase field.type ++
      [Piece.text (" " ++ field.name.camel ++ ";")]) =
      "private " ++ typeText field.type ++ " " ++ field.name.camel ++ ";" := by
    simp only [spell_append, spell_typePhrase, spell_cons, spell_nil, Piece.spelling,
      String.append_empty, String.append_assoc]
  rw [fieldDeclaration, ← spell_propertyPhrase, ← line]
  rfl

theorem phrases_method (modifiers type : Phrase) (name : String) (parameters : List Parameter)
    (throwing : Phrase) (body : List Phrase) :
    (Member.method modifiers type name parameters throwing body).phrases.map spell =
      block (spell modifiers ++ (spell type ++ (" " ++ (name ++ ("(" ++
        (", ".intercalate (parameters.map fun parameter => spell parameter.phrase) ++
          (")" ++ spell throwing))))))) (body.map spell) := by
  rw [Member.phrases, map_spell_enclosed]
  simp only [spell_append, spell_listed, List.map_map, spell_cons, spell_nil, Piece.spelling,
    String.append_empty, String.append_assoc]
  rfl

theorem phrases_creator (modifiers : Phrase) (name : String) (parameters : List Parameter)
    (body : List Phrase) :
    (Member.creator modifiers name parameters body).phrases.map spell =
      block (spell modifiers ++ (name ++ ("(" ++
        (", ".intercalate (parameters.map fun parameter => spell parameter.phrase) ++ ")"))))
        (body.map spell) := by
  rw [Member.phrases, map_spell_enclosed]
  simp only [spell_append, spell_listed, List.map_map, spell_cons, spell_nil, Piece.spelling,
    String.append_empty, String.append_assoc]
  rfl

theorem phrases_getter (field : Field) :
    (getter field).phrases.map spell =
      block ("public " ++ typeText field.type ++ " get" ++ field.name.pascal ++ "()") [
        "    return " ++ field.name.camel ++ ";"] := by
  rw [getter, phrases_method]
  simp only [spell_typePhrase, spell_cons, spell_nil, Piece.spelling, String.append_empty,
    String.append_assoc, List.map_cons, List.map_nil]
  rfl

theorem spell_assignment (field : Field) :
    spell (assignment field) = "    this." ++ field.name.camel ++ " = " ++
      field.name.camel ++ ";" :=
  String.append_empty

theorem phrases_setter (field : Field) :
    (setter field).phrases.map spell =
      block ("public void set" ++ field.name.pascal ++ "(" ++ typeText field.type ++ " " ++
        field.name.camel ++ ")") ["    this." ++ field.name.camel ++ " = " ++
          field.name.camel ++ ";"] := by
  rw [setter, phrases_method, List.map_singleton, List.map_singleton, spell_assignment,
    String.intercalate_singleton]
  simp only [Parameter.phrase, List.nil_append, spell_append, spell_typePhrase,
    spell_cons, spell_nil, Piece.spelling, String.append_empty, String.append_assoc]
  rfl

theorem lines_record (entity : Record) : (outline (.record entity)).lines = recordLines entity := by
  have declarations : ((entity.fields.flatMap declaration).flatMap Member.phrases).map spell =
      entity.fields.flatMap fieldDeclaration := by
    rw [List.flatMap_assoc, List.map_flatMap]
    simp only [phrases_declaration]
  have accessing : ((entity.fields.flatMap fun field =>
      [getter field, .blank, setter field, .blank]).flatMap Member.phrases).map spell =
      entity.fields.flatMap accessors := by
    rw [List.flatMap_assoc, List.map_flatMap]
    refine List.flatMap_congr fun field _ => ?_
    rw [accessors, ← phrases_getter, ← phrases_setter]
    simp only [List.flatMap_cons, List.flatMap_nil, List.map_append, List.append_assoc]
    rfl
  have items : ((recordMembers entity).map Item.member).flatMap Item.phrases =
      (recordMembers entity).flatMap Member.phrases := by
    rw [List.flatMap_map]
    rfl
  have creator : ([Member.lines [[.text ("public " ++ entity.className ++ "() " ++ braced "")],
      []]].flatMap Member.phrases).map spell =
        ["public " ++ entity.className ++ "() " ++ braced "", ""] :=
    congrArg (fun line => [line, ""]) String.append_empty
  rw [outline, Outline.lines, items, recordLines, recordMembers, List.flatMap_append,
    List.flatMap_append, List.map_append, List.map_append, declarations, accessing, creator]

theorem phrases_constants (constants : List Schema.Constant) :
    (constantPhrases constants).map spell = constantLines constants := by
  induction constants with
  | nil => rfl
  | cons constant rest ih =>
    have tag : spell (.text "    " :: propertyPhrase constant.tag) =
        "    @JsonProperty(" ++ javaString constant.tag ++ ")" := by
      rw [spell_cons, spell_propertyPhrase, Piece.spelling]
      simp only [← String.append_assoc]
      rfl
    have name :
        spell [.text ("    " ++ constant.name.upperSnake ++ (if rest.isEmpty then "" else ","))] =
        "    " ++ constant.name.upperSnake ++ (if rest.isEmpty then "" else ",") :=
      String.append_empty
    rw [constantPhrases, constantLines, List.map_cons, List.map_cons, ih, tag, name]

theorem lines_enumeration (entity : Schema.Enumeration) :
    (outline (.enumeration entity)).lines = enumerationLines entity := by
  rw [outline, Outline.lines, phrases_constants, enumerationLines]

theorem phrases_check (v : Schema.Variant) : (checkPhrases v).map spell = variantCheck v := by
  have head :
      spell [.text "if (variant != ", .own "Variant", .text ("." ++ v.name.upperSnake ++ ")")] =
      "if (variant != Variant." ++ v.name.upperSnake ++ ")" := by
    simp only [spell_cons, spell_nil, Piece.spelling, String.append_empty, String.append_assoc]
    rfl
  rw [checkPhrases, map_spell_indented, map_spell_enclosed, head]
  rfl

theorem spell_creation (className : String) (v : Schema.Variant) (payload : Phrase) :
    spell (creationPhrase className v payload) = creation className v (spell payload) := by
  unfold creationPhrase creation
  simp only [spell_append, spell_cons, spell_nil, Piece.spelling, String.append_empty,
    String.append_assoc]
  rfl

theorem spell_fieldParameter (field : Field) :
    spell (fieldParameter field).phrase =
      "@JsonProperty(" ++ javaString field.tag ++ ") " ++ typeText field.type ++ " " ++
        field.name.camel := by
  rw [Parameter.phrase, fieldParameter, spell_append, spell_append, spell_append,
    spell_propertyPhrase, spell_typePhrase]
  simp only [spell_cons, spell_nil, Piece.spelling, String.append_empty, String.append_assoc]
  rfl

/-- The fields of a holder class. -/
theorem phrases_holderFields (fields : List Field) :
    ((fields.map fun field => Member.field [.text "private final "] (typePhrase field.type)
        field.name.camel).flatMap Member.phrases).map spell = fields.map fun field =>
      "private final " ++ typeText field.type ++ " " ++ field.name.camel ++ ";" := by
  rw [List.flatMap_map, List.map_flatMap, List.map_eq_flatMap]
  refine List.flatMap_congr fun field _ => congrArg (fun line => [line]) ?_
  simp only [spell_append, spell_typePhrase, spell_cons, spell_nil, Piece.spelling,
    String.append_empty, String.append_assoc]

/-- The constructor of a holder class. -/
theorem phrases_holderCreator (v : Schema.Variant) (fields : List Field) :
    (holderCreator v fields).phrases.map spell =
      block ("public " ++ v.name.pascal ++ "(" ++ ", ".intercalate (fields.map fun field =>
        "@JsonProperty(" ++ javaString field.tag ++ ") " ++ typeText field.type ++ " " ++
          field.name.camel) ++ ")")
        (fields.map fun field => "    this." ++ field.name.camel ++ " = " ++
          field.name.camel ++ ";") := by
  have assignments : (fields.map assignment).map spell = fields.map fun field =>
      "    this." ++ field.name.camel ++ " = " ++ field.name.camel ++ ";" := by
    rw [List.map_map]
    exact List.map_congr_left fun field _ => spell_assignment field
  rw [holderCreator, phrases_creator, assignments, List.map_map]
  simp only [Function.comp_def, spell_fieldParameter, spell_cons, spell_nil, Piece.spelling,
    String.append_empty, String.append_assoc]

/-- The accessors of a holder class. -/
theorem phrases_holderGetters (fields : List Field) :
    ((fields.flatMap fun field =>
        [.lines [propertyPhrase field.tag], getter field, .blank]).flatMap
          Member.phrases).map spell =
      fields.flatMap fun field => ["@JsonProperty(" ++ javaString field.tag ++ ")"] ++
        block ("public " ++ typeText field.type ++ " get" ++ field.name.pascal ++ "()") [
          "    return " ++ field.name.camel ++ ";"] ++ [""] := by
  rw [List.flatMap_assoc, List.map_flatMap]
  refine List.flatMap_congr fun field _ => ?_
  rw [← phrases_getter, ← spell_propertyPhrase]
  simp only [List.flatMap_cons, List.flatMap_nil, List.map_append, List.append_assoc]
  rfl

theorem phrases_holder (v : Schema.Variant) (fields : List Field) :
    (Item.nested v.name.pascal [] (holderMembers v fields)).phrases.map spell ++ [""] =
      holderClass v fields := by
  have head : spell (.text ("public static class " ++ v.name.pascal) :: []) =
      "public static class " ++ v.name.pascal := String.append_empty
  rw [Item.phrases, map_spell_enclosed, head, map_spell_indented, holderMembers,
    List.flatMap_append, List.flatMap_append, List.map_append, List.map_append,
    phrases_holderFields, phrases_holderGetters]
  simp only [List.flatMap_cons, List.flatMap_nil, List.map_append, phrases_holderCreator,
    List.append_nil, List.append_assoc]
  unfold holderClass
  simp only [List.append_assoc]
  rfl

theorem phrases_factory (className : String) (v : Schema.Variant) (parameters : List Parameter)
    (payload : Phrase) :
    (factory className v parameters payload).phrases.map spell =
      block ("public static " ++ className ++ " of" ++ v.name.pascal ++ "(" ++
        ", ".intercalate (parameters.map fun parameter => spell parameter.phrase) ++ ")")
        [creation className v (spell payload)] := by
  rw [factory, phrases_method, List.map_singleton, spell_creation]
  simp only [spell_cons, spell_nil, Piece.spelling, String.append_empty, String.append_assoc]
  rfl

theorem phrases_accessor (v : Schema.Variant) (type : Phrase) (number : String) (result : Phrase) :
    (accessor v type number result).phrases.map spell =
      block ("public " ++ spell type ++ " get" ++ v.name.pascal ++ number ++ "()")
        (variantCheck v ++ ["    return (" ++ spell type ++ ") " ++ spell result]) := by
  rw [accessor, phrases_method, List.map_append, phrases_check, List.map_singleton, List.map_nil]
  simp only [spell_append, spell_cons, spell_nil, Piece.spelling, String.append_empty,
    String.append_assoc]
  rfl

theorem phrases_test (v : Schema.Variant) :
    (test v).phrases.map spell = block ("public boolean is" ++ v.name.pascal ++ "()") [
      "    return variant == Variant." ++ v.name.upperSnake ++ ";"] := by
  rw [test, phrases_method, List.map_singleton, List.map_nil]
  simp only [spell_cons, spell_nil, Piece.spelling, String.append_empty, String.append_assoc]
  rfl

theorem phrases_member (member : Member) : (Item.member member).phrases = member.phrases :=
  rfl

theorem map_spell_blank : Member.blank.phrases.map spell = [""] :=
  rfl

theorem phrases_object (className : String) (v : Schema.Variant) (fields : List Field) :
    ((objectItems className v fields).flatMap Item.phrases).map spell =
      objectMembers className v fields := by
  have makes :
      (factory className v [⟨[], [.own v.name.pascal], "value"⟩]
      [.text "value"]).phrases.map spell =
      block ("public static " ++ className ++ " of" ++ v.name.pascal ++ "(" ++
        v.name.pascal ++ " value)")
        [creation className v "value"] := by
    rw [phrases_factory, List.map_singleton, String.intercalate_singleton]
    simp only [Parameter.phrase, List.nil_append, List.cons_append, spell_cons, spell_nil,
      Piece.spelling, String.append_empty, String.append_assoc]
    rfl
  have reads : (accessor v [.own v.name.pascal] "" [.text "value;"]).phrases.map spell =
      block ("public " ++ v.name.pascal ++ " get" ++ v.name.pascal ++ "()")
        (variantCheck v ++ ["    return (" ++ v.name.pascal ++ ") value;"]) := by
    rw [phrases_accessor]
    simp only [spell_cons, spell_nil, Piece.spelling, String.append_empty, String.append_assoc]
    rfl
  unfold objectItems objectMembers
  rw [← phrases_holder]
  simp only [List.flatMap_cons, List.flatMap_nil, List.map_append, phrases_member, makes, reads,
    map_spell_blank, List.append_assoc]
  rfl

theorem phrases_slots (v : Schema.Variant) (numbered : Bool) (place : Nat) (slots : List TypeExpr) :
    ((slotItems v numbered place slots).flatMap Item.phrases).map spell =
      slotAccessors v numbered place slots := by
  induction slots generalizing place with
  | nil => rfl
  | cons slot rest ih =>
    have reads : (accessor v (typePhrase slot) (if numbered then toString place else "")
        [.text "((", .outside "Object",
          .text ("[]) value)[" ++ toString place ++ "];")]).phrases.map spell =
        block ("public " ++ typeText slot ++ " " ++
          ("get" ++ v.name.pascal ++ (if numbered then toString place else "")) ++ "()")
          (variantCheck v ++
            ["    return (" ++ typeText slot ++ ") ((Object[]) value)[" ++ toString place ++
              "];"]) := by
      rw [phrases_accessor, spell_typePhrase]
      simp only [spell_cons, spell_nil, Piece.spelling, String.append_empty, String.append_assoc]
      rfl
    rw [slotItems, slotAccessors, List.flatMap_cons, List.flatMap_cons, List.flatMap_cons,
      List.map_append, List.map_append, List.map_append, ih, phrases_member, phrases_member,
      phrases_member, reads, map_spell_blank]
    simp only [List.append_assoc]
    rfl

theorem spell_slotParameters (slots : List TypeExpr) :
    (slotParameters slots).map (fun parameter => spell parameter.phrase) =
      slots.zipWith (fun slot argument => typeText slot ++ " " ++ argument) (slotNames slots) := by
  rw [slotParameters, List.map_zipWith]
  refine congrArg (List.zipWith · slots (slotNames slots)) (funext fun slot =>
    funext fun name => ?_)
  simp only [Parameter.phrase, List.nil_append, spell_append, spell_typePhrase,
    spell_cons, spell_nil, Piece.spelling, String.append_empty, String.append_assoc]

theorem phrases_tuple (className : String) (v : Schema.Variant) (slots : List TypeExpr) :
    ((tupleItems className v slots).flatMap Item.phrases).map spell =
      tupleMembers className v slots := by
  have payload : spell [.text "new ", .outside "Object",
      .text ("[] " ++ braced (", ".intercalate (slotNames slots)))] =
      "new Object[] " ++ braced (", ".intercalate (slotNames slots)) := by
    simp only [spell_cons, spell_nil, Piece.spelling, String.append_empty]
    rfl
  rw [tupleItems, List.flatMap_cons, List.flatMap_cons, List.map_append, List.map_append,
    phrases_slots, phrases_member, phrases_member, phrases_factory, spell_slotParameters, payload,
    map_spell_blank]
  unfold tupleMembers
  simp only [List.append_assoc]
  rfl

theorem phrases_payload (className : String) (v : Schema.Variant) :
    ((payloadItems className v).flatMap Item.phrases).map spell =
      match v.payload with
      | .unit =>
        block ("public static " ++ className ++ " of" ++ v.name.pascal ++ "()")
          [creation className v "null"] ++ [""]
      | .object fields => objectMembers className v fields
      | .tuple slots => tupleMembers className v slots := by
  unfold payloadItems
  cases v.payload with
  | unit =>
    have makes : (factory className v [] [.text "null"]).phrases.map spell =
        block ("public static " ++ className ++ " of" ++ v.name.pascal ++ "()")
          [creation className v "null"] := by
      rw [phrases_factory]
      simp only [spell_cons, spell_nil, Piece.spelling, String.append_empty, String.append_assoc]
      rfl
    rw [← makes]
    simp only [List.flatMap_cons, List.flatMap_nil, List.map_append, phrases_member,
      map_spell_blank]
    rfl
  | object fields => exact phrases_object className v fields
  | tuple slots => exact phrases_tuple className v slots

theorem phrases_variant (className : String) (v : Schema.Variant) :
    ((variantItems className v).flatMap Item.phrases).map spell = variantMembers className v := by
  rw [variantItems, List.flatMap_append, List.map_append, phrases_payload]
  unfold variantMembers
  rw [← phrases_test, List.append_assoc]
  simp only [List.flatMap_cons, List.flatMap_nil, List.map_append, phrases_member, map_spell_blank]
  rfl

theorem spell_text (text : String) : spell [.text text] = text :=
  String.append_empty

theorem phrases_writing (v : Schema.Variant) : (writingPhrases v).map spell = serializerCase v := by
  have tagged (payload : Phrase) :
      spell ([Piece.text ("gen.writeObjectField(" ++ javaString v.tag ++ ", ")] ++
      payload ++ [Piece.text ");"]) =
      "gen.writeObjectField(" ++ javaString v.tag ++ ", " ++ spell payload ++ ");" := by
    simp only [spell_append, spell_text]
  have single : spell [.text "((", .outside "Object", .text "[]) value.value)[0]"] =
      "((Object[]) value.value)[0]" := rfl
  unfold writingPhrases serializerCase
  simp only [List.map_append, map_spell_enclosed, map_spell_indented, spell_text]
  refine congrArg (fun body => block ("case " ++ v.name.upperSnake ++ ":") (indent 1 body) ++
    ["break;"]) ?_
  cases v.payload with
  | unit => rw [List.map_singleton, spell_text]
  | object fields => simp only [List.map_cons, List.map_nil, tagged, spell_text]
  | tuple slots =>
    rcases slots with _ | ⟨slot, _ | ⟨next, rest⟩⟩
    · simp only [List.map_cons, List.map_nil, tagged, spell_text]
    · simp only [List.map_cons, List.map_nil, tagged, spell_text, single]
    · simp only [List.map_cons, List.map_nil, tagged, spell_text]

theorem phrases_unit (className : String) (v : Schema.Variant) :
    (unitPhrases className v).map spell = unitCase className v := by
  unfold unitPhrases unitCase
  cases v.payload with
  | unit => rw [map_spell_enclosed, List.map_singleton, spell_creation, spell_text, spell_text]
  | object fields => rfl
  | tuple slots => rfl

theorem spell_reference (type : Phrase) :
    spell (referencePhrase type) = "new TypeReference<" ++ spell type ++ ">()" ++ braced "" := by
  rw [referencePhrase]
  simp only [spell_append, spell_cons, spell_nil, Piece.spelling, String.append_empty,
    String.append_assoc]
  rfl

theorem phrases_reading (className : String) (v : Schema.Variant) :
    (payloadPhrases className v).map spell = payloadCase className v := by
  unfold payloadPhrases payloadCase
  cases v.payload with
  | unit => rfl
  | object fields =>
    have own : spell [.own v.name.pascal] = v.name.pascal := String.append_empty
    simp only [map_spell_enclosed, List.map_singleton, spell_creation, spell_append, spell_text,
      spell_reference, own, String.append_assoc]
  | tuple slots =>
    have references : (slots.map fun slot => referencePhrase (typePhrase slot)).map spell =
        slots.map fun slot => "new TypeReference<" ++ typeText slot ++ ">()" ++ braced "" := by
      rw [List.map_map]
      refine List.map_congr_left fun slot _ => ?_
      rw [Function.comp_apply, spell_reference, spell_typePhrase]
    simp only [map_spell_enclosed, List.map_singleton, spell_creation, spell_append, spell_text,
      spell_listed, references, String.append_assoc]

theorem phrases_parsing (className : String) :
    (parserMember className).phrases.map spell = fieldParser className := by
  have failure : spell [.text "    throw new ", .outside "JsonParseException",
      .text ("(ctxt.getParser(), \"Cannot deserialize " ++ className ++
        ": expected array of size \" + types.length + \" for field \" + key);")] =
      "    throw new JsonParseException(ctxt.getParser(), \"Cannot deserialize " ++ className ++
        ": expected array of size \" + types.length + \" for field \" + key);" := by
    simp only [spell_cons, spell_nil, Piece.spelling, String.append_empty, String.append_assoc]
    rfl
  unfold parserMember fieldParser
  simp only [phrases_method, List.map_append, map_spell_enclosed, map_spell_indented,
    List.map_singleton, failure]
  rfl

/-- The constructor of a codec. -/
theorem phrases_codec (name className : String) :
    (Member.creator [.text "public "] name [] [
        [.text "    super(", .outside className, .text ".class);"]]).phrases.map spell =
      block ("public " ++ name ++ "()") ["    super(" ++ className ++ ".class);"] := by
  rw [phrases_creator]
  simp only [List.map_cons, List.map_nil, String.intercalate_nil, spell_cons, spell_nil,
    Piece.spelling, String.append_empty, String.append_assoc]
  rfl

/-- The class of a codec. -/
theorem phrases_codecClass (name base className : String) (members : List Member) :
    (Item.nested name [.text " extends ", .outside base, .text "<", .outside className,
        .text ">"] members).phrases.map spell =
      block ("public static class " ++ name ++ " extends " ++ base ++ "<" ++ className ++ ">")
        (indent 1 (members.flatMap fun inner => inner.phrases.map spell)) := by
  rw [Item.phrases, map_spell_enclosed, map_spell_indented, List.map_flatMap]
  simp only [spell_cons, spell_nil, Piece.spelling, String.append_empty, String.append_assoc]

theorem phrases_serializer (entity : DataEnum) :
    (Item.nested "Serializer" [.text " extends ", .outside "StdSerializer", .text "<",
      .outside entity.className, .text ">"] (serializerMembers entity)).phrases.map spell ++ [""] =
      serializer entity := by
  have writes : (Member.method [.text "public "] [.text "void"] "serialize" [
        ⟨[], [.outside entity.className], "value"⟩,
        ⟨[], [.outside "JsonGenerator"], "gen"⟩,
        ⟨[], [.outside "SerializerProvider"], "provider"⟩]
      [.text " throws ", .outside "IOException"]
      (indented 1 (enclosed [.text "switch (value.getVariant())"]
        (indented 1 (entity.variants.flatMap writingPhrases))))).phrases.map spell =
      block ("public void serialize(" ++ entity.className ++
          " value, JsonGenerator gen, SerializerProvider provider) throws IOException")
        (indent 1 (block "switch (value.getVariant())"
          (indent 1 (entity.variants.flatMap serializerCase)))) := by
    rw [phrases_method, map_spell_indented, map_spell_enclosed, map_spell_indented,
      List.map_flatMap]
    simp only [phrases_writing, List.map_cons, List.map_nil, String.intercalate_cons_cons,
      String.intercalate_singleton, Parameter.phrase, List.nil_append, List.cons_append, spell_cons,
      spell_nil, Piece.spelling, String.append_empty, String.append_assoc]
    rfl
  rw [phrases_codecClass, serializerMembers]
  simp only [List.flatMap_cons, List.flatMap_nil, List.append_nil, phrases_codec, writes]
  rfl

theorem phrases_deserializer (entity : DataEnum) :
    (Item.nested "Deserializer" [.text " extends ", .outside "StdDeserializer", .text "<",
      .outside entity.className, .text ">"] (deserializerMembers entity)).phrases.map
        spell ++ [""] =
      deserializer entity := by
  have failure : spell [.text "throw ctxt.instantiationException(", .outside entity.className,
      .text (".class, \"Cannot deserialize \" + " ++ javaString entity.className ++ ");")] =
      "throw ctxt.instantiationException(" ++ entity.className ++
        ".class, \"Cannot deserialize \" + " ++ javaString entity.className ++ ");" := by
    simp only [spell_cons, spell_nil, Piece.spelling, String.append_empty, String.append_assoc]
  have reads (body : List Phrase) :
        (Member.method [.text "public "] [.outside entity.className] "deserialize"
        [⟨[], [.outside "JsonParser"], "p"⟩, ⟨[], [.outside "DeserializationContext"], "ctxt"⟩]
        [.text " throws ", .outside "IOException", .text ", ", .outside "JacksonException"]
        body).phrases.map spell =
      block ("public " ++ entity.className ++
        " deserialize(JsonParser p, DeserializationContext ctxt) throws IOException, " ++
        "JacksonException") (body.map spell) := by
    rw [phrases_method]
    simp only [List.map_cons, List.map_nil, String.intercalate_cons_cons,
      String.intercalate_singleton, Parameter.phrase, List.nil_append, List.cons_append, spell_cons,
      spell_nil, Piece.spelling, String.append_empty, String.append_assoc]
    rfl
  rw [phrases_codecClass, deserializerMembers]
  simp only [List.flatMap_cons, List.flatMap_nil, List.append_nil, phrases_codec,
    phrases_parsing, reads, map_spell_indented, List.map_append, List.map_flatMap, phrases_unit,
    phrases_reading, List.map_cons, List.map_nil, failure]
  rfl

theorem lines_dataEnum (entity : DataEnum) :
    (outline (.dataEnum entity)).lines = dataEnumLines entity := by
  have variants :
      ((entity.variants.flatMap (variantItems entity.className)).flatMap Item.phrases).map spell =
      entity.variants.flatMap (variantMembers entity.className) := by
    rw [List.flatMap_assoc, List.map_flatMap]
    simp only [phrases_variant]
  have creator : (Member.creator [.text "private "] entity.className [
        ⟨[], [.own "Variant"], "variant"⟩, ⟨[], [.outside "Object"], "value"⟩] [
      [.text "    this.variant = variant;"], [.text "    this.value = value;"]]).phrases.map spell =
      block ("private " ++ entity.className ++ "(Variant variant, Object value)") [
        "    this.variant = variant;", "    this.value = value;"] := by
    rw [phrases_creator]
    simp only [List.map_cons, List.map_nil, String.intercalate_cons_cons,
      String.intercalate_singleton, Parameter.phrase, List.nil_append, List.cons_append, spell_cons,
      spell_nil, Piece.spelling, String.append_empty, String.append_assoc]
    rfl
  have enumeration :
      (Item.enumeration "Variant" (entity.variants.map fun v => v.name.upperSnake)).phrases.map
      spell ++ [""] = discriminants entity := by
    rw [Item.phrases, map_spell_enclosed, List.map_singleton, spell_text, spell_text]
    rfl
  rw [outline, Outline.lines, dataEnumItems, List.flatMap_append, List.flatMap_append,
    List.map_append, List.map_append, variants]
  unfold dataEnumLines
  rw [← phrases_serializer, ← phrases_deserializer, ← enumeration]
  simp only [List.flatMap_cons, List.flatMap_nil, List.map_append, phrases_member, creator,
    List.append_assoc, map_spell_blank, List.append_nil]
  rfl

/-- The lines of a class are those of its outline. -/
theorem lines_eq_outline {entity : Entity} {written : List String}
    (succeeded : lines entity = .ok written) :
    written = (outline entity).lines := by
  cases entity with
  | record entity => cases succeeded; exact (lines_record entity).symm
  | enumeration entity => cases succeeded; exact (lines_enumeration entity).symm
  | dataEnum entity =>
    obtain ⟨checked, -, returned⟩ := Outcome.bind_ok.mp succeeded
    cases returned
    exact (lines_dataEnum entity).symm

end WireModel.Render.Java
