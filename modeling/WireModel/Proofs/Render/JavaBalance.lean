import Mathlib.Data.List.Forall2
import Mathlib.Tactic.MkIffOfInductiveProp
import WireModel.Proofs.Codec.Package
import WireModel.Proofs.Render.Scan
import WireModel.Render.Generation

/-!
Java classes are balanced. Names and type expressions without quotes and brackets are passed over by
the scan, tags stand in literals of their own whatever they hold, and each template opens and closes
its brackets around them.
-/

namespace WireModel

open Render (Plain Neutral NeutralLines Leads neutral_javaString)

namespace Schema

/-- The name and the type expression of a field have no quote and no bracket; its tag may have
any. -/
@[mk_iff]
structure Field.IsPlain (field : Field) : Prop where
  name : Plain field.name.snake.toList
  type : Plain (Render.Java.typeText field.type).toList

/-- The names and the type expressions of a payload have no quote and no bracket. -/
def Payload.IsPlain : Payload → Prop
  | .unit => True
  | .tuple slots => ∀ slot ∈ slots, Plain (Render.Java.typeText slot).toList
  | .object fields => ∀ field ∈ fields, field.IsPlain

/-- The name of a variant and those of its payload have no quote and no bracket. -/
@[mk_iff]
structure Variant.IsPlain (v : Variant) : Prop where
  name : Plain v.name.snake.toList
  payload : v.payload.IsPlain

/-- The identifiers and the type expressions of a class have no quote and no bracket. -/
def Entity.IsPlain : Entity → Prop
  | .record entity => Plain entity.className.toList ∧ ∀ field ∈ entity.fields, field.IsPlain
  | .enumeration entity =>
    Plain entity.className.toList ∧ ∀ constant ∈ entity.constants, Plain constant.name.snake.toList
  | .dataEnum entity => Plain entity.className.toList ∧ ∀ v ∈ entity.variants, v.IsPlain

instance : DecidablePred Field.IsPlain :=
  fun field => decidable_of_iff' _ (field.isPlain_iff)

instance : DecidablePred Payload.IsPlain
  | .unit => inferInstanceAs (Decidable True)
  | .tuple slots =>
    inferInstanceAs (Decidable (∀ slot ∈ slots, Plain (Render.Java.typeText slot).toList))
  | .object fields => inferInstanceAs (Decidable (∀ field ∈ fields, field.IsPlain))

instance : DecidablePred Variant.IsPlain :=
  fun v => decidable_of_iff' _ (v.isPlain_iff)

instance : DecidablePred Entity.IsPlain
  | .record entity =>
    inferInstanceAs (Decidable (_ ∧ ∀ field ∈ entity.fields, field.IsPlain))
  | .enumeration entity =>
    inferInstanceAs
      (Decidable (_ ∧ ∀ constant ∈ entity.constants, Plain constant.name.snake.toList))
  | .dataEnum entity => inferInstanceAs (Decidable (_ ∧ ∀ v ∈ entity.variants, v.IsPlain))

namespace Field.IsPlain

variable {field : Field}

theorem typeText (plain : field.IsPlain) : Neutral (Render.Java.typeText field.type) :=
  plain.type.neutral

theorem camel (plain : field.IsPlain) : Neutral field.name.camel :=
  Render.neutral_camel plain.name

theorem pascal (plain : field.IsPlain) : Neutral field.name.pascal :=
  Render.neutral_pascal plain.name

end Field.IsPlain

namespace Variant.IsPlain

variable {v : Variant}

theorem pascal (plain : v.IsPlain) : Neutral v.name.pascal :=
  Render.neutral_pascal plain.name

theorem upperSnake (plain : v.IsPlain) : Neutral v.name.upperSnake :=
  Render.neutral_upperSnake plain.name

end Variant.IsPlain

end Schema

namespace Render.Java

open Schema

variable {field : Field} {className : String} {v : Schema.Variant}

/-- An annotation with a tag is neutral, whatever the tag. -/
theorem neutral_property (tag : String) : Neutral ("@JsonProperty(" ++ javaString tag ++ ")") :=
  Neutral.between (.chars rfl) (neutral_javaString tag) (.chars rfl)

theorem neutral_fieldDeclaration (plain : field.IsPlain) : NeutralLines (fieldDeclaration field) :=
  .cons (neutral_property field.tag) (.cons
    (Leads.append (.append (.append (.append (.chars rfl) (plain.typeText.leads _)) (.chars rfl))
      (plain.camel.leads _)) (.chars rfl))
    .blank)

/-- The getter of a field. -/
theorem neutral_getter (plain : field.IsPlain) :
    NeutralLines (block ("public " ++ typeText field.type ++ " get" ++ field.name.pascal ++ "()") [
      "    return " ++ field.name.camel ++ ";"]) :=
  .block
    (Leads.append (.append (.append (.append (.chars rfl) (plain.typeText.leads _)) (.chars rfl))
      (plain.pascal.leads _)) (.chars rfl))
    (.cons (Neutral.between (.chars rfl) plain.camel (.chars rfl)) .nil)

/-- The assignment of a field. -/
theorem neutral_assignment (plain : field.IsPlain) :
    Neutral ("    this." ++ field.name.camel ++ " = " ++ field.name.camel ++ ";") :=
  Leads.append (.append (.append (.append (.chars rfl) (plain.camel.leads _)) (.chars rfl))
    (plain.camel.leads _)) (.chars rfl)

theorem neutral_accessors (plain : field.IsPlain) : NeutralLines (accessors field) := by
  have setter :
      Neutral ("public void set" ++ field.name.pascal ++ "(" ++ typeText field.type ++ " " ++
      field.name.camel ++ ")") :=
    Leads.append (.append (.append (.append (.append (.append (.chars rfl) (plain.pascal.leads _))
      (.chars rfl)) (plain.typeText.leads _)) (.chars rfl)) (plain.camel.leads _)) (.chars rfl)
  exact (((neutral_getter plain).append .blank).append
    (.block setter (.cons (neutral_assignment plain) .nil))).append .blank

theorem neutral_recordLines {entity : Schema.Record} (plain : (Entity.record entity).IsPlain) :
    NeutralLines (recordLines entity) := by
  have name := plain.1.neutral
  have head : Neutral ("public class " ++ entity.className) := .append (Leads.chars rfl) name
  have creator : Neutral ("public " ++ entity.className ++ "() " ++ braced "") :=
    .append (Neutral.between (.chars rfl) name (.chars rfl)) (Neutral.empty.braced)
  have body :=
    ((NeutralLines.flatMap fun field member =>
      neutral_fieldDeclaration (plain.2 field member)).append
    (.cons creator .blank)).append
      (.flatMap fun field member => neutral_accessors (plain.2 field member))
  exact .append (.cons (Leads.chars rfl) .blank) (.block head (body.indent 1))

theorem neutral_constantLines {constants : List Schema.Constant}
    (plain : ∀ constant ∈ constants, Plain constant.name.snake.toList) :
    NeutralLines (constantLines constants) := by
  induction constants with
  | nil => exact .nil
  | cons constant rest ih =>
    obtain ⟨first, others⟩ := List.forall_mem_cons.mp plain
    have name := neutral_upperSnake first
    have property : Neutral ("    @JsonProperty(" ++ javaString constant.tag ++ ")") :=
      Neutral.between (.chars rfl) (neutral_javaString constant.tag) (.chars rfl)
    have comma : Neutral (if rest.isEmpty then "" else ",") := by
      split
      · exact .empty
      · exact Leads.chars rfl
    exact .cons property (.cons (.append (.append (Leads.chars rfl) name) comma) (ih others))

theorem neutral_enumerationLines {entity : Schema.Enumeration}
    (plain : (Entity.enumeration entity).IsPlain) : NeutralLines (enumerationLines entity) := by
  have head : Neutral ("public enum " ++ entity.className) :=
    .append (Leads.chars rfl) plain.1.neutral
  exact .append (.cons (Leads.chars rfl) .blank)
    (.block head (neutral_constantLines plain.2))

theorem neutral_variantCheck (plain : v.IsPlain) : NeutralLines (variantCheck v) := by
  have head : Neutral ("if (variant != Variant." ++ v.name.upperSnake ++ ")") :=
    Neutral.between (.chars rfl) plain.upperSnake (.chars rfl)
  exact NeutralLines.indent (.block head (.cons (Leads.chars rfl) .nil)) 1

theorem neutral_creation {payload : String} (name : Neutral className) (plain : v.IsPlain)
    (neutral : Neutral payload) : Neutral (creation className v payload) :=
  Leads.append
    (.append (.append (.append (.append (.append (.chars rfl) (name.leads _)) (.chars rfl))
    (plain.upperSnake.leads _)) (.chars rfl)) (neutral.leads _)) (.chars rfl)

theorem neutral_holderClass {fields : List Field} (plain : v.IsPlain)
    (each : ∀ field ∈ fields, field.IsPlain) : NeutralLines (holderClass v fields) := by
  have holder := plain.pascal
  have declarations : NeutralLines (fields.map fun field =>
      "private final " ++ typeText field.type ++ " " ++ field.name.camel ++ ";") := by
    refine .map fun field member => ?_
    have plain := each field member
    exact .append (.append (.append (.append (Leads.chars rfl) plain.typeText) (Leads.chars rfl))
      plain.camel) (Leads.chars rfl)
  have parameters : Neutral (", ".intercalate (fields.map fun field =>
      "@JsonProperty(" ++ javaString field.tag ++ ") " ++ typeText field.type ++ " " ++
        field.name.camel)) := by
    refine .intercalate (Leads.chars rfl) (List.forall_mem_map.mpr fun field member => ?_)
    have plain := each field member
    exact .append (.append (.append
      (Neutral.between (.chars rfl) (neutral_javaString field.tag) (.chars rfl))
      plain.typeText) (Leads.chars rfl)) plain.camel
  have assignments : NeutralLines (fields.map fun field =>
      "    this." ++ field.name.camel ++ " = " ++ field.name.camel ++ ";") :=
    .map fun field member => neutral_assignment (each field member)
  have getters : NeutralLines (fields.flatMap fun field =>
      ["@JsonProperty(" ++ javaString field.tag ++ ")"] ++
      block ("public " ++ typeText field.type ++ " get" ++ field.name.pascal ++ "()") [
        "    return " ++ field.name.camel ++ ";"] ++
      [""]) :=
    .flatMap fun field member =>
      ((NeutralLines.cons (neutral_property field.tag) .nil).append
        (neutral_getter (each field member))).append .blank
  refine .append
    (.block (.append (Leads.chars rfl) holder) (.indent
      (.append (.append (.append (.append declarations .blank) (.block ?_ assignments)) .blank)
        getters) 1))
    .blank
  exact Leads.append (.append (.append (.append (.chars rfl) (holder.leads _)) (.chars rfl))
    (parameters.leads _)) (.chars rfl)

theorem neutral_objectMembers {fields : List Field} (name : Neutral className) (plain : v.IsPlain)
    (each : ∀ field ∈ fields, field.IsPlain) : NeutralLines (objectMembers className v fields) := by
  have holder := plain.pascal
  have factory : Neutral ("public static " ++ className ++ " of" ++ v.name.pascal ++ "(" ++
      v.name.pascal ++ " value)") :=
    Leads.append
      (.append (.append (.append (.append (.append (.chars rfl) (name.leads _)) (.chars rfl))
      (holder.leads _)) (.chars rfl)) (holder.leads _)) (.chars rfl)
  have getter : Neutral ("public " ++ v.name.pascal ++ " get" ++ v.name.pascal ++ "()") :=
    .append (.append (.append (.append (Leads.chars rfl) holder) (Leads.chars rfl)) holder)
      (Leads.chars rfl)
  have downcast : Neutral ("    return (" ++ v.name.pascal ++ ") value;") :=
    Neutral.between (.chars rfl) holder (.chars rfl)
  exact .append
    (.append
      (.append
        (.append
          (.block factory (.cons (neutral_creation name plain (Leads.chars rfl)) .nil)) .blank)
        (.block getter ((neutral_variantCheck plain).append (.cons downcast .nil))))
      .blank)
    (neutral_holderClass plain each)

theorem neutral_slotAccessors {slots : List TypeExpr} {numbered : Bool} {place : Nat}
    (plain : v.IsPlain) (each : ∀ slot ∈ slots, Plain (typeText slot).toList) :
    NeutralLines (slotAccessors v numbered place slots) := by
  induction slots generalizing place with
  | nil => exact .nil
  | cons slot rest ih =>
    obtain ⟨first, others⟩ := List.forall_mem_cons.mp each
    have type := first.neutral
    have number : Neutral (if numbered then toString place else "") := by
      split
      · exact neutral_toString place
      · exact .empty
    have getter : Neutral ("public " ++ typeText slot ++ " " ++
        ("get" ++ v.name.pascal ++ (if numbered then toString place else "")) ++ "()") :=
      .append (.append (.append (.append (Leads.chars rfl) type) (Leads.chars rfl))
        (.append (.append (Leads.chars rfl) plain.pascal) number)) (Leads.chars rfl)
    have downcast : Neutral ("    return (" ++ typeText slot ++ ") ((Object[]) value)[" ++
        toString place ++ "];") :=
      .append (.append (Neutral.between (.chars rfl) type (.chars rfl))
        (neutral_toString place)) (Leads.chars rfl)
    exact .append
      (.append
        (.append (.cons (Leads.chars rfl) .nil)
          (.block getter ((neutral_variantCheck plain).append (.cons downcast .nil))))
        .blank)
      (ih others)

theorem neutral_tupleMembers {slots : List TypeExpr} (name : Neutral className) (plain : v.IsPlain)
    (each : ∀ slot ∈ slots, Plain (typeText slot).toList) :
    NeutralLines (tupleMembers className v slots) := by
  have argument {item : String}
      (member : item ∈ (List.range slots.length).map fun place => "arg" ++ toString place) :
      Neutral item := by
    obtain ⟨place, -, rfl⟩ := List.mem_map.mp member
    exact .append (Leads.chars rfl) (neutral_toString place)
  have comma : Neutral ", " := Leads.chars rfl
  have zipped {arguments : List String} :
      slots.zipWith (fun slot argument => typeText slot ++ " " ++ argument) arguments =
        (slots.zip arguments).map fun pair => typeText pair.1 ++ " " ++ pair.2 :=
    (List.map_zip_eq_zipWith (f := fun pair => typeText pair.1 ++ " " ++ pair.2)).symm
  have parameters : Neutral (", ".intercalate (slots.zipWith
      (fun slot argument => typeText slot ++ " " ++ argument)
      ((List.range slots.length).map fun place => "arg" ++ toString place))) := by
    rw [zipped]
    refine comma.intercalate (List.forall_mem_map.mpr fun pair member => ?_)
    obtain ⟨inside, numbered⟩ := List.of_mem_zip member
    exact .append (.append (each _ inside).neutral (Leads.chars rfl)) (argument numbered)
  have payload : Neutral ("new Object[] " ++ braced (", ".intercalate
      ((List.range slots.length).map fun place => "arg" ++ toString place))) :=
    .append (Leads.chars rfl) (comma.intercalate fun item => argument).braced
  refine .append
    (.append (.block ?_ (.cons (neutral_creation name plain payload) .nil)) .blank)
    (neutral_slotAccessors plain each)
  exact Leads.append
    (.append (.append (.append (.append (.append (.chars rfl) (name.leads _)) (.chars rfl))
    (plain.pascal.leads _)) (.chars rfl)) (parameters.leads _)) (.chars rfl)

theorem neutral_variantMembers (name : Neutral className) (plain : v.IsPlain) :
    NeutralLines (variantMembers className v) := by
  have test : NeutralLines (block ("public boolean is" ++ v.name.pascal ++ "()") [
      "    return variant == Variant." ++ v.name.upperSnake ++ ";"]) :=
    .block (.append (.append (Leads.chars rfl) plain.pascal) (Leads.chars rfl))
      (.cons (.append (.append (Leads.chars rfl) plain.upperSnake) (Leads.chars rfl)) .nil)
  have payload := plain.payload
  refine .append (.append ?_ test) .blank
  cases carried : v.payload with
  | unit =>
    have factory : Neutral ("public static " ++ className ++ " of" ++ v.name.pascal ++ "()") :=
      .append (.append (.append (.append (Leads.chars rfl) name) (Leads.chars rfl)) plain.pascal)
        (Leads.chars rfl)
    exact .append
      (.block factory (.cons (neutral_creation name plain (Leads.chars rfl)) .nil)) .blank
  | object fields =>
    rw [carried] at payload
    exact neutral_objectMembers name plain payload
  | tuple slots =>
    rw [carried] at payload
    exact neutral_tupleMembers name plain payload

theorem neutral_serializerCase (plain : v.IsPlain) : NeutralLines (serializerCase v) := by
  have tag := neutral_javaString v.tag
  have head : Neutral ("case " ++ v.name.upperSnake ++ ":") :=
    .append (.append (Leads.chars rfl) plain.upperSnake) (Leads.chars rfl)
  have tagged {payload : String} (neutral : Neutral payload) : NeutralLines [
      "gen.writeStartObject();",
      "gen.writeObjectField(" ++ javaString v.tag ++ ", " ++ payload ++ ");",
      "gen.writeEndObject();"] :=
    .cons (Leads.chars rfl) (.cons
      (Leads.append (.append (.append (.append (.chars rfl) (tag.leads _)) (.chars rfl))
        (neutral.leads _)) (.chars rfl))
      (.cons (Leads.chars rfl) .nil))
  refine .append (.block head (.indent ?_ 1)) (.cons (Leads.chars rfl) .nil)
  split
  · exact .cons (Neutral.between (.chars rfl) tag (.chars rfl)) .nil
  · exact tagged (Leads.chars rfl)
  · exact tagged (Leads.chars rfl)

theorem neutral_serializer {entity : DataEnum} (plain : (Entity.dataEnum entity).IsPlain) :
    NeutralLines (serializer entity) := by
  have name := plain.1.neutral
  have head :
      Neutral ("public static class Serializer extends StdSerializer<" ++
      entity.className ++ ">") :=
    .append (.append (Leads.chars rfl) name) (Leads.chars rfl)
  have creator :
      NeutralLines (block "public Serializer()" ["    super(" ++ entity.className ++ ".class);"]) :=
    .block (Leads.chars rfl) (.cons (Neutral.between (.chars rfl) name (.chars rfl)) .nil)
  have method : Neutral ("public void serialize(" ++ entity.className ++
      " value, JsonGenerator gen, SerializerProvider provider) throws IOException") :=
    Neutral.between (.chars rfl) name (.chars rfl)
  have cases : NeutralLines (entity.variants.flatMap serializerCase) :=
    .flatMap fun v member => neutral_serializerCase (plain.2 v member)
  exact .append
    (.block head (.indent
      (.append
        (.append creator (.cons .empty (.cons (Leads.chars rfl) .nil)))
        (.block method (.indent (.block (Leads.chars rfl) (cases.indent 1)) 1))) 1))
    .blank

theorem neutral_unitCase (name : Neutral className) (plain : v.IsPlain) :
    NeutralLines (unitCase className v) := by
  rw [unitCase]
  split
  · have head : Neutral ("if (p.getText().equals(" ++ javaString v.tag ++ "))") :=
      Neutral.between (.chars rfl) (neutral_javaString v.tag) (.chars rfl)
    exact .block head (.cons (neutral_creation name plain (Leads.chars rfl)) .nil)
  · exact .nil

theorem neutral_payloadCase (name : Neutral className) (plain : v.IsPlain) :
    NeutralLines (payloadCase className v) := by
  have tag := neutral_javaString v.tag
  have reference {type : String} (neutral : Neutral type) :
      Neutral ("new TypeReference<" ++ type ++ ">()" ++ braced "") :=
    .append (.append (.append (Leads.chars rfl) neutral) (Leads.chars rfl)) Neutral.empty.braced
  have case {payload : String} (neutral : Neutral payload) :
      NeutralLines
        (block ("if (node.has(" ++ javaString v.tag ++ "))") [creation className v payload]) :=
    .block (Neutral.between (.chars rfl) tag (.chars rfl))
      (.cons (neutral_creation name plain neutral) .nil)
  have payload := plain.payload
  rw [payloadCase]
  cases carried : v.payload with
  | unit => exact .nil
  | object fields =>
    exact case (Leads.append (.append (.append (.append (.chars rfl) (tag.leads _)) (.chars rfl))
      ((reference plain.pascal).leads _)) (.chars rfl))
  | tuple slots =>
    rw [carried] at payload
    have references : Neutral (", ".intercalate (slots.map fun slot =>
        "new TypeReference<" ++ typeText slot ++ ">()" ++ braced "")) :=
      .intercalate (Leads.chars rfl) (List.forall_mem_map.mpr fun slot member =>
        reference (payload slot member).neutral)
    exact case (Leads.append (.append (.append (.append (.chars rfl) (tag.leads _)) (.chars rfl))
      (references.leads _)) (.chars rfl))

/-- The refusal of an array of another size: the name of the class stands inside a literal, which it
cannot end. -/
theorem neutral_sizeRefusal (plain : Plain className.toList) :
    Neutral ("    throw new JsonParseException(ctxt.getParser(), \"Cannot deserialize " ++
      className ++
      ": expected array of size \" + types.length + \" for field \" + key);") := by
  have literal : ScanMode.literal ≠ .code := by decide
  obtain ⟨after, inside, name⟩ := plain.scan_literal literal ['(']
  have front :
      scan (.code, [])
      "    throw new JsonParseException(ctxt.getParser(), \"Cannot deserialize ".toList =
      some (.literal, ['(']) :=
    scan_chars rfl
  have back :
      scan (after, ['('])
      ": expected array of size \" + types.length + \" for field \" + key);".toList =
      some (.code, []) := by
    cases after with
    | code => exact absurd rfl inside
    | literal => exact scan_chars rfl
    | escaped => exact scan_chars rfl
  rw [Neutral, Leads, String.toList_append, String.toList_append, scan_append, scan_append, front,
    Option.bind_some, name, Option.bind_some, back]

theorem neutral_fieldParser (plain : Plain className.toList) :
    NeutralLines (fieldParser className) := by
  have line {text : List Char} (scanned : scan (.code, []) text = some (.code, [])) :
      NeutralLines [String.ofList text] :=
    .cons (Leads.chars scanned) .nil
  have whole : NeutralLines (block "if (types.length == 1)" (indent 1
      (block ("try (JsonParser parser = " ++ "field" ++ ".traverse(ctxt.getParser().getCodec()))") [
        "    return new Object[]" ++ braced "parser.readValueAs(types[0])" ++ ";"]))) :=
    .block (Leads.chars rfl) (.indent (.block
      (Leads.append (.append (.chars rfl) (.chars rfl)) (.chars rfl))
      (.cons (.append (.append (Leads.chars rfl) (Neutral.braced (Leads.chars rfl)))
        (Leads.chars rfl)) .nil)) 1)
  have item : NeutralLines (block "for (int i = 0; i < types.length; i++)" (indent 1
      (block ("try (JsonParser parser = " ++ "field.get(i)" ++
        ".traverse(ctxt.getParser().getCodec()))") [
        "    result[i] = parser.readValueAs(types[i]);"]))) :=
    .block (Leads.chars rfl) (.indent (.block
      (Leads.append (.append (.chars rfl) (.chars rfl)) (.chars rfl)) (line rfl)) 1)
  have absent :
      NeutralLines (block "if (field == null)" ["    return new Object[types.length];"]) :=
    .block (Leads.chars rfl) (line rfl)
  exact .block (Leads.append (.chars rfl) (.chars rfl)) (.indent
    (.append (.append (.append (.append (.append (.append (line rfl) absent) whole)
      (.block (Leads.chars rfl) (.cons (neutral_sizeRefusal plain) .nil))) (line rfl)) item)
        (line rfl)) 1)

theorem neutral_deserializer {entity : DataEnum} (plain : (Entity.dataEnum entity).IsPlain) :
    NeutralLines (deserializer entity) := by
  have name := plain.1.neutral
  have head :
      Neutral ("public static class Deserializer extends StdDeserializer<" ++ entity.className ++
      ">") :=
    .append (.append (Leads.chars rfl) name) (Leads.chars rfl)
  have creator : NeutralLines (block "public Deserializer()"
      ["    super(" ++ entity.className ++ ".class);"]) :=
    .block (Leads.chars rfl) (.cons (Neutral.between (.chars rfl) name (.chars rfl)) .nil)
  have method : Neutral ("public " ++ entity.className ++
      " deserialize(JsonParser p, DeserializationContext ctxt) throws IOException, " ++
        "JacksonException") :=
    .append (.append (.append (Leads.chars rfl) name) (Leads.chars rfl)) (Leads.chars rfl)
  have units : NeutralLines (entity.variants.flatMap (unitCase entity.className)) :=
    .flatMap fun v member => neutral_unitCase name (plain.2 v member)
  have payloads : NeutralLines (entity.variants.flatMap (payloadCase entity.className)) :=
    .flatMap fun v member => neutral_payloadCase name (plain.2 v member)
  have refusal : Neutral ("throw ctxt.instantiationException(" ++ entity.className ++
      ".class, \"Cannot deserialize \" + " ++ javaString entity.className ++ ");") :=
    Leads.append (.append (.append (.append (.chars rfl) (name.leads _)) (.chars rfl))
      ((neutral_javaString _).leads _)) (.chars rfl)
  -- The first brace is closed on the line that opens the second one, and so this is no block.
  have branches : NeutralLines (
      ["if (p.currentToken() == JsonToken.VALUE_STRING) \x7b"] ++
      indent 1 (entity.variants.flatMap (unitCase entity.className)) ++
      ["\x7d else if (p.currentToken() == JsonToken.START_OBJECT) \x7b",
        "    ObjectNode node = (ObjectNode) p.getCodec().readTree(p);"] ++
      indent 1 (entity.variants.flatMap (payloadCase entity.className)) ++
      ["\x7d",
        "throw ctxt.instantiationException(" ++ entity.className ++
          ".class, \"Cannot deserialize \" + " ++ javaString entity.className ++ ");"]) :=
    LinesLead.append
      (.append
        (.append (.append (.cons (.chars rfl) .nil) ((units.indent 1).leads _))
          (.cons (.chars rfl) (.cons (.chars rfl) .nil)))
        ((payloads.indent 1).leads _))
      (.cons (.chars rfl) (.cons refusal .nil))
  exact .append
    (.block head (.indent
      (.append
        (.append (.append (.append creator .blank) (neutral_fieldParser plain.1))
          (.cons .empty (.cons (Leads.chars rfl) .nil)))
        (.block method (branches.indent 1))) 1))
    .blank

theorem neutral_discriminants {entity : DataEnum} (plain : (Entity.dataEnum entity).IsPlain) :
    NeutralLines (discriminants entity) := by
  have names : Neutral (", ".intercalate (entity.variants.map fun v => v.name.upperSnake)) :=
    .intercalate (Leads.chars rfl) (List.forall_mem_map.mpr fun v member =>
      (plain.2 v member).upperSnake)
  exact .append (.block (Leads.chars rfl) (.cons (.append (Leads.chars rfl) names) .nil))
    .blank

theorem neutral_dataEnumLines {entity : DataEnum} (plain : (Entity.dataEnum entity).IsPlain) :
    NeutralLines (dataEnumLines entity) := by
  have name := plain.1.neutral
  have imports : NeutralLines dataEnumImports := by
    rw [dataEnumImports]
    repeat refine .cons (Leads.chars rfl) ?_
    exact .nil
  have annotations : NeutralLines [
      "",
      "@JsonInclude(JsonInclude.Include.NON_NULL)",
      "@JsonSerialize(using = " ++ entity.className ++ ".Serializer.class)",
      "@JsonDeserialize(using = " ++ entity.className ++ ".Deserializer.class)"] :=
    .cons .empty (.cons (Leads.chars rfl) (.cons
      (Neutral.between (.chars rfl) name (.chars rfl)) (.cons
      (Neutral.between (.chars rfl) name (.chars rfl)) .nil)))
  have declarations : NeutralLines ["@JsonIgnore", "private final Variant variant;", "",
      "@JsonIgnore", "private final Object value;", ""] :=
    .cons (Leads.chars rfl) (.cons (Leads.chars rfl) (.cons .empty
      (.cons (Leads.chars rfl) (.cons (Leads.chars rfl) .blank))))
  have creator : NeutralLines (block
      ("private " ++ entity.className ++ "(Variant variant, Object value)") [
        "    this.variant = variant;", "    this.value = value;"]) :=
    .block (.append (.append (Leads.chars rfl) name) (Leads.chars rfl))
      (.cons (Leads.chars rfl) (.cons (Leads.chars rfl) .nil))
  have members : NeutralLines (entity.variants.flatMap (variantMembers entity.className)) :=
    .flatMap fun v member => neutral_variantMembers name (plain.2 v member)
  have getter : NeutralLines (block "Variant getVariant()" ["    return variant;"]) :=
    .block (Leads.chars rfl) (.cons (Leads.chars rfl) .nil)
  have body := ((((((declarations.append creator).append .blank).append members).append
    (neutral_serializer plain)).append (neutral_deserializer plain)).append
      (neutral_discriminants plain)).append getter
  exact .append (.append imports annotations)
    (.block (.append (Leads.chars rfl) name) (body.indent 1))

/-- The check of a data enum is passed by an externally tagged one whose holder classes take no name
that is taken. -/
theorem check_ok {entity : DataEnum} {reserved : List String} (external : entity.style = .external)
    (free : ∀ holder ∈ entity.holders, holder ∉ entity.className :: reserved) :
    entity.check reserved = .ok () := by
  have none : (entity.holders.find? fun holder => holder ∈ entity.className :: reserved) = none :=
    List.find?_eq_none.mpr fun holder member => by simpa using free holder member
  rw [DataEnum.check, if_neg (not_not_intro external), none]

/-- What keeps a class from being generated, apart from its brackets: a style that has no generator,
or a holder class with a name that is taken. -/
def IsGenerable : Entity → Prop
  | .record _ | .enumeration _ => True
  | .dataEnum entity =>
    entity.style = .external ∧ ∀ holder ∈ entity.holders, holder ∉ entity.className :: reservedNames

instance : DecidablePred IsGenerable
  | .record _ | .enumeration _ => inferInstanceAs (Decidable True)
  | .dataEnum _ => inferInstanceAs (Decidable (_ ∧ _))

theorem exists_lines {entity : Entity} (plain : entity.IsPlain) (generable : IsGenerable entity) :
    ∃ text, lines entity = .ok text ∧ NeutralLines text := by
  cases entity with
  | record entity => exact ⟨_, rfl, neutral_recordLines plain⟩
  | enumeration entity => exact ⟨_, rfl, neutral_enumerationLines plain⟩
  | dataEnum entity =>
    refine ⟨dataEnumLines entity, ?_, neutral_dataEnumLines plain⟩
    rw [lines, check_ok generable.1 generable.2]
    rfl

theorem exists_generated {entity : Entity} (plain : entity.IsPlain)
    (generable : IsGenerable entity) :
    ∃ generated, generate entity = .ok generated ∧ generated.name = entity.className ∧
      isBalanced generated.code = true := by
  obtain ⟨text, found, neutral⟩ := exists_lines plain generable
  refine ⟨⟨entity.className, joinLines text⟩, ?_, rfl, neutral.isBalanced⟩
  rw [generate, found]
  exact if_pos neutral.isBalanced

end Render.Java

namespace Schema

open Render.Java

/-- From names and type expressions without quotes and brackets one class is generated for each
entity, in order, and its brackets are balanced, whatever the wire tags are. -/
theorem generate_java_balanced {schema : Schema}
    (distinct : (schema.entities.map Entity.className).Nodup)
    (plain : ∀ entity ∈ schema.entities, entity.IsPlain)
    (generable : ∀ entity ∈ schema.entities, IsGenerable entity) :
    ∃ classes, schema.generate .java = .ok classes ∧
      List.Forall₂ (fun entity generated => generated.name = entity.className ∧
        Render.isBalanced generated.code = true) schema.entities classes := by
  have unrepeated : schema.distinctEntities = .ok schema.entities := by
    rw [distinctEntities, firstRepeated?_eq_none.mpr ⟨distinct, by simp⟩]
  obtain ⟨rows, entities, made⟩ := Outcome.exists_rows fun entity member =>
    exists_generated (plain entity member) (generable entity member)
  refine ⟨rows.map Prod.snd, ?_, ?_⟩
  · rw [generate, unrepeated, ← entities]
    exact Outcome.mapM_map_ok fun row member => (made row member).1
  · rw [← entities, List.forall₂_map_left_iff, List.forall₂_map_right_iff, List.forall₂_same]
    exact fun row member => (made row member).2

/-- Classes of every kind with tags that hold quotes, backslashes, brackets and line ends. -/
def quotingSchema : Schema where
  records := [
    ⟨.ofPascal "Plain", "Plain", []⟩,
    ⟨.ofPascal "Point", "Point", [⟨.ofSnake "x_axis", "\"", .named "Long"⟩,
      ⟨.ofSnake "labels", ")\x7b\n", .list (.named "String")⟩]⟩]
  enumerations :=
  [⟨.ofPascal "Tone", "Tone", [⟨.ofUpperSnake "DARK", "\\"⟩, ⟨.ofUpperSnake "LIGHT", "\\\""⟩]⟩]
  dataEnums := [
    ⟨.ofPascal "Never", "Never", .external, []⟩,
    ⟨.ofPascal "Shape", "Shape", .external, [
      ⟨.ofPascal "Empty", "(", .unit⟩,
      ⟨.ofPascal "Circle", "\"\"\x7b", .tuple [.named "Point", .named "Double"]⟩,
      ⟨.ofPascal "Labelled", "\x7d\\", .object [⟨.ofSnake "label", "\"\x7d", .named "String"⟩]⟩]⟩]

theorem generate_java_balanced_quoting :
    ∃ classes, quotingSchema.generate .java = .ok classes ∧
      List.Forall₂ (fun entity generated => generated.name = entity.className ∧
        Render.isBalanced generated.code = true) quotingSchema.entities classes :=
  generate_java_balanced (by decide) (by decide +kernel) (by decide +kernel)

end Schema

end WireModel
