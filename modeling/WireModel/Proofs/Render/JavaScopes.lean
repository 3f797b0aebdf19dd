import WireModel.Proofs.Render.JavaMembers

/-!
What the names of classes mean in a generated Java class. A class that is declared in it hides one
of the same name from outside, and only four names are kept from the holder classes: the outside
names of a data enum are listed, and they mean what they are written for exactly if no class in it
has one of them.
-/

namespace WireModel

open Schema

/-- The classes that a type expression names, and the package of lists and maps. -/
def TypeExpr.classNames : TypeExpr → List String
  | .named name => [name]
  | .list item => "java" :: item.classNames
  | .map key value => "java" :: (key.classNames ++ value.classNames)

/-- The names from outside that stand where a payload is made and taken apart. -/
def Schema.Payload.foreignNames : Schema.Payload → List String
  | .unit => []
  | .object fields =>
    "IllegalStateException" :: fields.flatMap fun field => "JsonProperty" :: field.type.classNames
  | .tuple slots =>
    slots.flatMap fun slot => "SuppressWarnings" :: "IllegalStateException" :: slot.classNames

namespace Render.Java

/-- The names from outside that stand in every data enum. -/
def codecNames : List String := [
  "JsonIgnore", "Object", "StdSerializer", "Override", "JsonGenerator", "SerializerProvider",
    "IOException",
  "StdDeserializer", "DeserializationContext", "ObjectNode", "String", "TypeReference", "JsonNode",
  "JsonParser", "JsonParseException", "JacksonException", "JsonToken"]

end Render.Java

/-- The names from outside that stand in a data enum: those of its codec, its own one, and those of
its payloads. -/
def Schema.DataEnum.foreignNames (entity : DataEnum) : List String :=
  Render.Java.codecNames ++ entity.className :: entity.variants.flatMap fun v =>
    v.payload.foreignNames

namespace Render.Java

/-- What the name of a class means where it stands: a class that is declared in the class around it,
or one from outside. -/
inductive Meaning where
  | nested (name : String)
  | outside (name : String)

namespace Meaning

def name : Meaning → String
  | .nested name | .outside name => name

end Meaning

/-- What a piece is written for, if it is the name of a class. -/
def Piece.meaning? : Piece → Option Meaning
  | .text _ => none
  | .own name => some (.nested name)
  | .outside name => some (.outside name)

def Phrase.meanings (phrase : Phrase) : List Meaning :=
  phrase.filterMap Piece.meaning?

/-- What the names of classes in some lines are written for. -/
def meanings (phrases : List Phrase) : List Meaning :=
  phrases.flatMap Phrase.meanings

namespace Outline

/-- The classes that are declared in a class. -/
def nestedNames : Outline → List String
  | .ofClass _ _ items => items.flatMap Item.nestedNames
  | .ofEnumeration .. => []

/-- The meaning of the name of a class in the body of a class: what is declared there hides the
rest. -/
def meaning (outline : Outline) (name : String) : Meaning :=
  if name ∈ outline.nestedNames then .nested name else .outside name

/-- Each name of a class in the body means what it is written for. -/
def Resolved (outline : Outline) : Prop :=
  ∀ meaning ∈ meanings outline.body, outline.meaning meaning.name = meaning

end Outline

section Phrases

variable {first second head : Phrase} {phrases others : List Phrase} {meaning : Meaning}

@[simp]
theorem phrase_append :
    Phrase.meanings (first ++ second) = Phrase.meanings first ++ Phrase.meanings second :=
  List.filterMap_append

@[simp]
theorem meanings_append : meanings (phrases ++ others) = meanings phrases ++ meanings others :=
  List.flatMap_append

@[simp]
theorem meanings_cons : meanings (first :: phrases) = first.meanings ++ meanings phrases :=
  List.flatMap_cons

@[simp]
theorem meanings_nil : meanings [] = [] :=
  rfl

@[simp]
theorem meanings_flatMap {α : Type} {items : List α} {write : α → List Phrase} :
    meanings (items.flatMap write) = items.flatMap fun item => meanings (write item) :=
  List.flatMap_assoc

@[simp]
theorem meanings_map {α : Type} {items : List α} {write : α → Phrase} :
    meanings (items.map write) = items.flatMap fun item => (write item).meanings :=
  List.flatMap_map ..

@[simp]
theorem meanings_indented {level : Nat} : meanings (indented level phrases) = meanings phrases := by
  rw [meanings, indented, List.flatMap_map]
  refine List.flatMap_congr fun phrase _ => ?_
  split <;> rfl

@[simp]
theorem meanings_enclosed :
    meanings (enclosed head phrases) = head.meanings ++ meanings phrases := by
  have opening : Phrase.meanings (head ++ [.text " \x7b"]) = head.meanings := by
    rw [phrase_append]
    exact List.append_nil _
  rw [enclosed, meanings_append, meanings_cons, opening]
  exact List.append_nil _

@[simp]
theorem meanings_listed : Phrase.meanings (listed phrases) = meanings phrases := by
  fun_induction listed phrases with
  | case1 => rfl
  | case2 phrase => rw [meanings_cons, meanings_nil, List.append_nil]
  | case3 phrase next rest ih =>
    rw [phrase_append, meanings_cons, ← ih]
    rfl

@[simp]
theorem meanings_text {text : String} {phrase : Phrase} :
    Phrase.meanings (.text text :: phrase) = phrase.meanings :=
  rfl

@[simp]
theorem meanings_own {name : String} {phrase : Phrase} :
    Phrase.meanings (.own name :: phrase) = .nested name :: phrase.meanings :=
  rfl

@[simp]
theorem meanings_outside {name : String} {phrase : Phrase} :
    Phrase.meanings (.outside name :: phrase) = .outside name :: phrase.meanings :=
  rfl

@[simp]
theorem meanings_empty : Phrase.meanings [] = [] :=
  rfl

@[simp]
theorem meanings_typePhrase (type : TypeExpr) :
    Phrase.meanings (typePhrase type) = type.classNames.map .outside := by
  induction type with
  | named name => rfl
  | list item ih =>
    rw [typePhrase, phrase_append, phrase_append, ih, TypeExpr.classNames]
    exact List.append_nil _
  | map key value ihKey ihValue =>
    simp only [typePhrase, phrase_append, ihKey, ihValue, TypeExpr.classNames, List.map_cons,
      List.map_append, meanings_outside, meanings_text, meanings_empty, List.append_nil,
      List.cons_append, List.nil_append]

@[simp]
theorem meanings_propertyPhrase (tag : String) :
    Phrase.meanings (propertyPhrase tag) = [.outside "JsonProperty"] :=
  rfl

end Phrases

/-- The names in the type of a parameter and the annotation in front. -/
def Parameter.meanings (parameter : Parameter) : List Meaning :=
  parameter.annotation.meanings ++ parameter.type.meanings

@[simp]
theorem meanings_parameter (parameter : Parameter) :
    Phrase.meanings parameter.phrase = parameter.meanings := by
  simp [Parameter.phrase, Parameter.meanings]

@[simp]
theorem meanings_method (modifiers type : Phrase) (name : String) (parameters : List Parameter)
    (throwing : Phrase) (body : List Phrase) :
    meanings (Member.method modifiers type name parameters throwing body).phrases =
      modifiers.meanings ++ (type.meanings ++ (parameters.flatMap Parameter.meanings ++
        (throwing.meanings ++ meanings body))) := by
  simp [Member.phrases]

@[simp]
theorem meanings_creator (modifiers : Phrase) (name : String) (parameters : List Parameter)
    (body : List Phrase) :
    meanings (Member.creator modifiers name parameters body).phrases =
      modifiers.meanings ++ (parameters.flatMap Parameter.meanings ++ meanings body) := by
  simp [Member.phrases]

@[simp]
theorem meanings_field (modifiers type : Phrase) (name : String) :
    meanings (Member.field modifiers type name).phrases = modifiers.meanings ++ type.meanings := by
  simp [Member.phrases]

@[simp]
theorem meanings_lines (phrases : List Phrase) :
    meanings (Member.lines phrases).phrases = meanings phrases :=
  rfl

@[simp]
theorem meanings_blank : meanings Member.blank.phrases = [] :=
  rfl

@[simp]
theorem meanings_member (inner : Member) :
    meanings (Item.member inner).phrases = meanings inner.phrases :=
  rfl

@[simp]
theorem meanings_nested (name : String) (extending : Phrase) (members : List Member) :
    meanings (Item.nested name extending members).phrases =
      extending.meanings ++ members.flatMap fun inner => meanings inner.phrases := by
  simp [Item.phrases]

@[simp]
theorem meanings_enumeration (name : String) (constants : List String) :
    meanings (Item.enumeration name constants).phrases = [] := by
  simp [Item.phrases]

@[simp]
theorem meanings_getter (field : Field) :
    meanings (getter field).phrases = field.type.classNames.map .outside := by
  simp [getter]

@[simp]
theorem meanings_check (v : Schema.Variant) :
    meanings (checkPhrases v) = [.nested "Variant", .outside "IllegalStateException"] := by
  simp [checkPhrases]

@[simp]
theorem meanings_creation (className : String) (v : Schema.Variant) (payload : Phrase) :
    Phrase.meanings (creationPhrase className v payload) =
      .outside className :: .nested "Variant" :: payload.meanings := by
  simp [creationPhrase]

@[simp]
theorem meanings_factory (className : String) (v : Schema.Variant) (parameters : List Parameter)
    (payload : Phrase) :
    meanings (factory className v parameters payload).phrases =
      .outside className :: (parameters.flatMap Parameter.meanings ++
        .outside className :: .nested "Variant" :: payload.meanings) := by
  simp [factory]

@[simp]
theorem meanings_accessor (v : Schema.Variant) (type : Phrase) (number : String) (result : Phrase) :
    meanings (accessor v type number result).phrases =
      type.meanings ++ .nested "Variant" :: .outside "IllegalStateException" ::
        (type.meanings ++ result.meanings) := by
  simp [accessor]

@[simp]
theorem meanings_test (v : Schema.Variant) : meanings (test v).phrases = [.nested "Variant"] := by
  simp [test]

@[simp]
theorem meanings_assignment (field : Field) : Phrase.meanings (assignment field) = [] :=
  rfl

/-- The names around the fields of a variant. -/
@[simp]
theorem meanings_holder (v : Schema.Variant) (fields : List Field) :
    ((holderMembers v fields).flatMap fun inner => meanings inner.phrases) =
      (fields.flatMap fun field => field.type.classNames.map Meaning.outside) ++
        ((fields.flatMap fun field => Meaning.outside "JsonProperty" ::
          field.type.classNames.map .outside) ++
        (fields.flatMap fun field => Meaning.outside "JsonProperty" ::
          field.type.classNames.map .outside)) := by
  simp [holderMembers, holderCreator, fieldParameter, List.flatMap_assoc, List.flatMap_map,
    Parameter.meanings]

/-- The names around the slots of a variant. -/
@[simp]
theorem meanings_slots (v : Schema.Variant) (numbered : Bool) (place : Nat)
    (slots : List TypeExpr) :
    ((slotItems v numbered place slots).flatMap fun item => meanings item.phrases) =
      slots.flatMap fun slot =>
      Meaning.outside "SuppressWarnings" :: (slot.classNames.map .outside ++
        Meaning.nested "Variant" :: Meaning.outside "IllegalStateException" ::
          (slot.classNames.map .outside ++ [Meaning.outside "Object"])) := by
  induction slots generalizing place with
  | nil => rfl
  | cons slot rest ih => simp [slotItems, ih]

@[simp]
theorem meanings_slotParameters (slots : List TypeExpr) :
    (slotParameters slots).flatMap Parameter.meanings = slots.flatMap fun slot =>
      slot.classNames.map .outside := by
  have types : (slotParameters slots).map Parameter.meanings =
      slots.map fun slot => slot.classNames.map .outside := by
    refine List.ext_getElem ?_ fun place inside within => ?_
    · simp [slotParameters, slotNames]
    · simp [slotParameters, Parameter.meanings]
  rw [List.flatMap_def, List.flatMap_def, types]

/-- The class is one that is declared in a data enum, or one of those that it names from outside. -/
def Permits (entity : DataEnum) : Meaning → Prop
  | .nested name => name ∈ entity.holders ++ ["Serializer", "Deserializer", "Variant"]
  | .outside name => name ∈ entity.foreignNames

section Permits

variable {entity : DataEnum}

@[simp]
theorem permits_variant : Permits entity (.nested "Variant") := by
  simp [Permits]

@[simp]
theorem permits_className : Permits entity (.outside entity.className) := by
  simp [Permits, DataEnum.foreignNames]

theorem permits_codec {name : String} (listed : name ∈ codecNames) :
    Permits entity (.outside name) :=
  List.mem_append_left _ listed

theorem permits_payload {v : Schema.Variant} (member : v ∈ entity.variants) :
    ∀ name ∈ v.payload.foreignNames, Permits entity (.outside name) :=
  fun _ inside => List.mem_append_right _ (.tail _ (List.mem_flatMap.mpr ⟨v, member, inside⟩))

theorem permits_holder {v : Schema.Variant} (member : v ∈ entity.variants) {fields : List Field}
    (carries : v.payload = .object fields) : Permits entity (.nested v.name.pascal) :=
  List.mem_append_left _ (List.mem_filterMap.mpr ⟨v, member, by rw [carries]⟩)

/-- The names in the members of a variant. -/
theorem permits_variantItems {v : Schema.Variant} (member : v ∈ entity.variants) :
    ∀ meaning ∈ meanings ((variantItems entity.className v).flatMap Item.phrases),
      Permits entity meaning := by
  have payload := permits_payload member
  have object : Permits entity (.outside "Object") := permits_codec (by decide)
  have own : Permits entity (.nested "Variant") := permits_variant
  have self : Permits entity (.outside entity.className) := permits_className
  unfold variantItems payloadItems
  cases carries : v.payload with
  | unit => simp
  | object fields =>
    have holder := permits_holder member carries
    have refusal := payload "IllegalStateException" (carries ▸ .head _)
    have tagged : ∀ field ∈ fields, Permits entity (.outside "JsonProperty") := fun field inside =>
      payload _ (carries ▸ .tail _ (List.mem_flatMap.mpr ⟨field, inside, .head _⟩))
    have typed : ∀ field ∈ fields, ∀ name ∈ field.type.classNames, Permits entity (.outside name) :=
      fun field inside name stands =>
        payload _ (carries ▸ .tail _ (List.mem_flatMap.mpr ⟨field, inside, .tail _ stands⟩))
    simp [objectItems, Parameter.meanings]
    grind
  | tuple slots =>
    have refused : ∀ slot ∈ slots, Permits entity (.outside "SuppressWarnings") ∧
        Permits entity (.outside "IllegalStateException") := fun slot inside =>
      ⟨payload _ (carries ▸ List.mem_flatMap.mpr ⟨slot, inside, .head _⟩),
        payload _ (carries ▸ List.mem_flatMap.mpr ⟨slot, inside, .tail _ (.head _)⟩)⟩
    have typed : ∀ slot ∈ slots, ∀ name ∈ slot.classNames, Permits entity (.outside name) :=
      fun slot inside name stands =>
        payload _ (carries ▸ List.mem_flatMap.mpr ⟨slot, inside, .tail _ (.tail _ stands)⟩)
    simp [tupleItems]
    grind

theorem foreign_variantItems {v : Schema.Variant} :
    ∀ name ∈ v.payload.foreignNames,
      .outside name ∈ meanings ((variantItems entity.className v).flatMap Item.phrases) := by
  unfold variantItems payloadItems
  cases carries : v.payload with
  | unit => simp [Schema.Payload.foreignNames]
  | object fields =>
    simp [Schema.Payload.foreignNames, objectItems, Parameter.meanings]
    grind
  | tuple slots =>
    simp [Schema.Payload.foreignNames, tupleItems]
    grind

theorem permits_writing (v : Schema.Variant) :
    ∀ meaning ∈ meanings (writingPhrases v), Permits entity meaning := by
  have object : Permits entity (.outside "Object") := permits_codec (by decide)
  unfold writingPhrases
  rcases v.payload with _ | ⟨_ | ⟨slot, _ | ⟨next, rest⟩⟩⟩ | fields
  all_goals simp [object]

theorem permits_unit (v : Schema.Variant) :
    ∀ meaning ∈ meanings (unitPhrases entity.className v), Permits entity meaning := by
  unfold unitPhrases
  cases v.payload with
  | unit => simp
  | object fields => simp
  | tuple slots => simp

theorem permits_reading {v : Schema.Variant} (member : v ∈ entity.variants) :
    ∀ meaning ∈ meanings (payloadPhrases entity.className v), Permits entity meaning := by
  have payload := permits_payload member
  have reference : Permits entity (.outside "TypeReference") := permits_codec (by decide)
  have own : Permits entity (.nested "Variant") := permits_variant
  have self : Permits entity (.outside entity.className) := permits_className
  unfold payloadPhrases
  cases carries : v.payload with
  | unit => simp
  | object fields => simp [referencePhrase, own, self, reference, permits_holder member carries]
  | tuple slots =>
    have typed : ∀ slot ∈ slots, ∀ name ∈ slot.classNames, Permits entity (.outside name) :=
      fun slot inside name stands =>
        payload _ (carries ▸ List.mem_flatMap.mpr ⟨slot, inside, .tail _ (.tail _ stands)⟩)
    simp [referencePhrase]
    grind

theorem permits_parsing : ∀ meaning ∈ meanings (parserMember entity.className).phrases,
    Permits entity meaning := by
  simp (disch := decide) [parserMember, Parameter.meanings, permits_codec]

theorem permits_serializer : ∀ meaning ∈ (serializerMembers entity).flatMap fun inner =>
    meanings inner.phrases,
    Permits entity meaning := by
  have writing : ∀ meaning, ∀ v ∈ entity.variants, meaning ∈ meanings (writingPhrases v) →
      Permits entity meaning := fun meaning v _ => permits_writing v meaning
  simpa (disch := decide) [serializerMembers, Parameter.meanings, override, permits_codec]
    using writing

theorem permits_deserializer :
    ∀ meaning ∈ (deserializerMembers entity).flatMap fun inner => meanings inner.phrases,
      Permits entity meaning := by
  have parser : ∀ meaning ∈ meanings (parserMember entity.className).phrases,
      Permits entity meaning :=
    permits_parsing
  have units : ∀ meaning, ∀ v ∈ entity.variants,
      meaning ∈ meanings (unitPhrases entity.className v) →
      Permits entity meaning := fun meaning v _ => permits_unit v meaning
  have payloads : ∀ meaning, ∀ v ∈ entity.variants,
      meaning ∈ meanings (payloadPhrases entity.className v) →
      Permits entity meaning := fun meaning v member => permits_reading member meaning
  simpa (disch := decide) [deserializerMembers, Parameter.meanings, override, permits_codec,
    or_imp, forall_and]
    using ⟨parser, units, payloads⟩

/-- A data enum names the classes that are declared in it and the listed ones from outside. -/
theorem permits_dataEnumItems :
    ∀ meaning ∈ meanings ((dataEnumItems entity).flatMap Item.phrases), Permits entity meaning := by
  have variants : ∀ meaning ∈ meanings
      ((entity.variants.flatMap (variantItems entity.className)).flatMap Item.phrases),
      Permits entity meaning := by
    rw [List.flatMap_assoc, meanings_flatMap]
    intro meaning stands
    obtain ⟨v, member, inside⟩ := List.mem_flatMap.mp stands
    exact permits_variantItems member meaning inside
  rw [dataEnumItems, List.flatMap_append, List.flatMap_append, meanings_append, meanings_append,
    List.forall_mem_append, List.forall_mem_append]
  refine ⟨⟨?_, variants⟩, ?_⟩
  · simp (disch := decide) [ignore, Parameter.meanings, permits_codec]
  · simp only [List.flatMap_cons, List.flatMap_nil, meanings_append, meanings_nested,
      meanings_member, meanings_blank, meanings_enumeration, List.forall_mem_append]
    refine ⟨⟨?_, permits_serializer⟩, ?_, ⟨?_, permits_deserializer⟩, ?_⟩
    all_goals simp (disch := decide) [permits_codec]

/-- The listed names stand in a data enum. -/
theorem foreign_dataEnumItems :
    ∀ name ∈ entity.foreignNames,
      .outside name ∈ meanings ((dataEnumItems entity).flatMap Item.phrases) := by
  have codec : ∀ name ∈ codecNames ++ [entity.className],
      .outside name ∈ meanings ((dataEnumItems entity).flatMap Item.phrases) := by
    simp [codecNames, dataEnumItems, ignore, serializerMembers, deserializerMembers, parserMember,
      override, Parameter.meanings]
  have payloads : ∀ v ∈ entity.variants, ∀ name ∈ v.payload.foreignNames,
      .outside name ∈ meanings ((dataEnumItems entity).flatMap Item.phrases) := by
    intro v member name stands
    rw [dataEnumItems, List.flatMap_append, List.flatMap_append, meanings_append, meanings_append]
    refine List.mem_append_left _ (List.mem_append_right _ ?_)
    rw [List.flatMap_assoc, meanings_flatMap]
    exact List.mem_flatMap.mpr ⟨v, member, foreign_variantItems name stands⟩
  intro name listed
  rw [DataEnum.foreignNames, ← List.singleton_append, ← List.append_assoc,
    List.mem_append] at listed
  rcases listed with fixed | carried
  · exact codec name fixed
  · obtain ⟨v, member, stands⟩ := List.mem_flatMap.mp carried
    exact payloads v member name stands

end Permits

/-- The names from outside that stand in a data enum are the listed ones. -/
theorem mem_foreignNames {entity : DataEnum} {name : String} :
    .outside name ∈ meanings (outline (.dataEnum entity)).body ↔ name ∈ entity.foreignNames :=
  ⟨fun stands => permits_dataEnumItems (.outside name) stands, foreign_dataEnumItems name⟩

/-- A name means the class from outside exactly if none is declared under it. -/
theorem meaning_eq_outside {outline : Outline} {name : String} :
    outline.meaning name = .outside name ↔ name ∉ outline.nestedNames := by
  unfold Outline.meaning
  by_cases declared : name ∈ outline.nestedNames
  · rw [if_pos declared]
    exact ⟨nofun, fun absent => absurd declared absent⟩
  · rw [if_neg declared]
    exact ⟨fun _ => declared, fun _ => rfl⟩

theorem mem_nestedNames {entity : DataEnum} {name : String} :
    name ∈ (outline (.dataEnum entity)).nestedNames ↔ name ∈ entity.holders ∨
      name ∈ reservedNames := by
  have nested : (outline (.dataEnum entity)).nestedNames =
      entity.holders ++ ["Serializer", "Deserializer", "Variant"] := dataEnum_nested entity
  rw [nested, List.mem_append]
  refine or_congr_right ?_
  simp only [reservedNames, List.mem_cons, List.not_mem_nil, or_false]
  tauto

/-- The names in a data enum mean what they are written for exactly if no class in it has the name
of a class that it needs from outside. -/
theorem resolved_dataEnum {entity : DataEnum} :
    (outline (.dataEnum entity)).Resolved ↔
      (∀ holder ∈ entity.holders, holder ∉ entity.foreignNames) ∧
        ∀ name ∈ reservedNames, name ∉ entity.foreignNames := by
  constructor
  · intro resolved
    have apart : ∀ name ∈ (outline (.dataEnum entity)).nestedNames, name ∉ entity.foreignNames :=
      fun name declared listed =>
        meaning_eq_outside.mp (resolved (.outside name) (mem_foreignNames.mpr listed)) declared
    exact ⟨fun holder member => apart holder (mem_nestedNames.mpr (.inl member)),
      fun name member => apart name (mem_nestedNames.mpr (.inr member))⟩
  · rintro ⟨holders, reserved⟩ meaning stands
    -- A name of a class inside is declared for sure; only one from outside can be hidden.
    have permitted := permits_dataEnumItems meaning stands
    cases meaning with
    | nested name =>
      have declared : name ∈ (outline (.dataEnum entity)).nestedNames := by
        rw [show (outline (.dataEnum entity)).nestedNames = _ from dataEnum_nested entity]
        exact permitted
      exact if_pos declared
    | outside name =>
      refine meaning_eq_outside.mpr fun declared => ?_
      rcases mem_nestedNames.mp declared with holder | fixed
      · exact holders name holder permitted
      · exact reserved name fixed permitted

end Render.Java

open Render.Java hiding generate

variable {model : Model} {roots : List HostType} {before after : Memory}

/-- A generated data enum is the text of an outline. Its holder classes leave four names, the names
that stand in it for classes from outside are the listed ones, and each name in it means what it is
written for exactly if no holder class has a listed name and no listed name is that of another class
in it. -/
theorem generate_java_resolved {classes : List GeneratedClass}
    (succeeds : (generate .java model roots).run.run before = (.ok classes, after)) :
    ∃ schema, (Schema.ofTypes .java model roots).run.run before = (.ok schema, after) ∧
      List.Forall₂ (fun entity generated => generated.name = entity.className ∧
        generated.code = Render.joinLines (outline entity).lines) schema.entities classes ∧
      ∀ entity, .dataEnum entity ∈ schema.entities →
        (∀ holder ∈ entity.holders, holder ∉ entity.className :: reservedNames) ∧
        (∀ name, .outside name ∈ meanings (outline (.dataEnum entity)).body ↔
          name ∈ entity.foreignNames) ∧
        ((outline (.dataEnum entity)).Resolved ↔
          (∀ holder ∈ entity.holders, holder ∉ entity.foreignNames) ∧
            ∀ name ∈ reservedNames, name ∉ entity.foreignNames) := by
  obtain ⟨schema, collected, generated⟩ := generate_ok.mp succeeds
  have each := (Schema.generate_each generated).1
  refine ⟨schema, collected, ?_, fun entity member =>
    ⟨?_, fun name => mem_foreignNames, resolved_dataEnum⟩⟩
  · exact each.imp fun entity generated succeeds =>
      ⟨(generate_outline succeeds).1, (generate_outline succeeds).2.1⟩
  · obtain ⟨generated, -, succeeds⟩ := Outcome.exists_related each member
    exact (generate_outline succeeds).2.2 entity rfl

namespace Codec

theorem generate_java_resolved_figure :
    ∃ classes after,
      (generate .java (figureModel figureVariants) [.declared figureRef]).run.run .empty =
        (.ok classes, after) ∧
      ∃ schema : Schema, schema = figureSchema figureJavaParts ∧
        List.Forall₂ (fun entity generated => generated.name = entity.className ∧
          generated.code = Render.joinLines (outline entity).lines) schema.entities classes ∧
        ∀ entity, .dataEnum entity ∈ schema.entities → (outline (.dataEnum entity)).Resolved := by
  obtain ⟨classes, succeeds⟩ := exists_classes figure_javaCollected
    (Schema.generates_java (by decide) (by decide +kernel) (by decide +kernel))
  obtain ⟨schema, found, texts, resolved⟩ := generate_java_resolved succeeds
  have collected := figure_javaCollected
  rw [found] at collected
  obtain rfl : schema = figureSchema figureJavaParts := Option.some.inj collected
  refine ⟨classes, _, succeeds, _, rfl, texts, fun entity member => ?_⟩
  obtain rfl : entity = figureEnum figureJavaParts := by
    simpa [Schema.entities, figureSchema] using member
  exact (resolved _ member).2.2.mpr (by decide +kernel)

/-- A variant with the name of a class for texts, and one that holds a text. -/
def textVariants : List Variant :=
  [⟨"String", .object [("n", .primitive .int)], none⟩, ⟨"Text", .tuple [.primitive .str], none⟩]

def textParts : List Schema.Variant :=
  [⟨.ofPascal "String", "String", .object [⟨.ofSnake "n", "n", .named "Long"⟩]⟩,
    ⟨.ofPascal "Text", "Text", .tuple [.named "String"]⟩]

/-- A data enum is generated although one of its holder classes hides a class that it needs from
outside. -/
theorem not_generate_java_resolved :
    ¬ ∀ (model : Model) (roots : List HostType) (before after : Memory)
      (classes : List GeneratedClass)
      (schema : Schema),
      (∀ declared ∈ model.classes, ∀ name ∈ declared.names, Text.isIdentifier name = true) →
      (generate .java model roots).run.run before = (.ok classes, after) →
      ((Schema.ofTypes .java model roots).run.run before).1.toOption = some schema →
      ∀ entity, .dataEnum entity ∈ schema.entities → ∀ holder ∈ entity.holders,
        .outside holder ∉ meanings (outline (.dataEnum entity)).body := by
  intro apart
  have collected : ((Schema.ofTypes .java (figureModel textVariants)
      [.declared figureRef]).run.run .empty).1.toOption = some (figureSchema textParts) := by
    rw [Schema.ofTypes_eq_paired (by decide +kernel)]
    decide +kernel
  obtain ⟨classes, succeeds⟩ := exists_classes collected
    (Schema.generates_java (by decide) (by decide +kernel) (by decide +kernel))
  have free := apart _ _ _ _ _ _ (by decide +kernel) succeeds collected (figureEnum textParts)
    (List.mem_cons_self ..) "String" (by decide +kernel)
  exact free (mem_foreignNames.mpr (by decide +kernel))

end Codec

end WireModel
