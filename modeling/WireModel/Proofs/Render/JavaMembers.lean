import Mathlib.Data.List.Perm.Basic
import WireModel.Proofs.Codec.Members
import WireModel.Proofs.Collection.References
import WireModel.Proofs.Render.JavaBalance
import WireModel.Proofs.Render.JavaOutline
import WireModel.Text.Class

/-!
The names that a generated Java class declares. Nothing checks them: they are legal, and no two
members have one name, exactly if the declared names are legal and differ when they are converted.
-/

namespace WireModel

namespace Render.Java

open Schema Text

/-- Numbers that are letters, connectors between words, and signs of currencies. -/
def javaStarts : List (Nat × Nat) := [
  (0x16ee, 0x16f0), (0x2160, 0x2182), (0x2185, 0x2188), (0x3007, 0x3007), (0x3021, 0x3029),
    (0x3038, 0x303a),
  (0xa6e6, 0xa6ef), (0x10140, 0x10174), (0x10341, 0x10341), (0x1034a, 0x1034a), (0x103d1, 0x103d5),
  (0x12400, 0x1246e),
  (0x5f, 0x5f), (0x203f, 0x2040), (0x2054, 0x2054), (0xfe33, 0xfe34), (0xfe4d, 0xfe4f),
    (0xff3f, 0xff3f),
  (0x24, 0x24), (0xa2, 0xa5), (0x58f, 0x58f), (0x60b, 0x60b), (0x7fe, 0x7ff), (0x9f2, 0x9f3),
    (0x9fb, 0x9fb),
  (0xaf1, 0xaf1), (0xbf9, 0xbf9), (0xe3f, 0xe3f), (0x17db, 0x17db), (0x20a0, 0x20c0),
    (0xa838, 0xa838),
  (0xfdfc, 0xfdfc), (0xfe69, 0xfe69), (0xff04, 0xff04), (0xffe0, 0xffe1), (0xffe5, 0xffe6),
  (0x11fdd, 0x11fe0), (0x1e2ff, 0x1e2ff), (0x1ecb0, 0x1ecb0)]

/-- What may follow in other identifiers and is no letter, digit or mark. -/
def javaStrangers : List (Nat × Nat) :=
  [(0xb7, 0xb7), (0x387, 0x387), (0x1369, 0x1371), (0x19da, 0x19da), (0x2118, 0x2118),
    (0x212e, 0x212e)]

/-- Control and format characters that an identifier may hold. -/
def javaIgnorables : List (Nat × Nat) := [
  (0x0, 0x8), (0xe, 0x1b), (0x7f, 0x9f), (0xad, 0xad), (0x600, 0x605), (0x61c, 0x61c),
    (0x6dd, 0x6dd),
  (0x70f, 0x70f), (0x890, 0x891), (0x8e2, 0x8e2), (0x180e, 0x180e), (0x200b, 0x200f),
    (0x202a, 0x202e),
  (0x2060, 0x2064), (0x2066, 0x206f), (0xfeff, 0xfeff), (0xfff9, 0xfffb), (0x110bd, 0x110bd),
  (0x110cd, 0x110cd), (0x13430, 0x13438), (0x1bca0, 0x1bca3), (0x1d173, 0x1d17a),
    (0xe0001, 0xe0001),
  (0xe0020, 0xe007f)]

/-- The character may begin an identifier. -/
def isJavaStart (c : Char) : Bool :=
  isLetter c || inRanges javaStarts c

/-- The character may stand in an identifier. -/
def isJavaPart (c : Char) : Bool :=
  isJavaStart c || isDecimalDigit c || (isIdentifierContinuation c && !inRanges javaStrangers c) ||
    inRanges javaIgnorables c

/-- The keywords and the literals among the words. -/
def javaWords : List String := [
  "_", "abstract", "assert", "boolean", "break", "byte", "case", "catch", "char", "class",
    "const", "continue",
  "default", "do", "double", "else", "enum", "extends", "false", "final", "finally", "float",
    "for", "goto",
  "if", "implements", "import", "instanceof", "int", "interface", "long", "native", "new",
    "null", "package",
  "private", "protected", "public", "return", "short", "static", "strictfp", "super", "switch",
  "synchronized", "this", "throw", "throws", "transient", "true", "try", "void",
    "volatile", "while"]

/-- The text is an identifier and no reserved word. -/
def isJavaName (text : String) : Bool :=
  match text.toList with
  | [] => false
  | first :: rest => isJavaStart first && rest.all isJavaPart && !javaWords.contains text

namespace Member

def fields : Member → List String
  | .field _ _ name => [name]
  | _ => []

def parameters : Member → List String
  | .method _ _ _ parameters _ _ | .creator _ _ parameters _ => parameters.map Parameter.name
  | _ => []

/-- The method that a member declares: its name and the types of its parameters. -/
def signatures : Member → List (String × List String)
  | .method _ _ name parameters _ _ =>
    [(name, parameters.map fun parameter => spell parameter.type)]
  | _ => []

end Member

namespace Item

def members : Item → List Member
  | .member inner => [inner]
  | _ => []

/-- The class that an item declares. -/
def nestedNames : Item → List String
  | .member _ => []
  | .nested name _ _ | .enumeration name _ => [name]

end Item

/-- The fields and parameters of a class have legal names, and its fields and methods are apart. -/
structure LegalMembers (members : List Member) : Prop where
  fields : ∀ name ∈ members.flatMap Member.fields, isJavaName name = true
  parameters : ∀ name ∈ members.flatMap Member.parameters, isJavaName name = true
  fieldsApart : (members.flatMap Member.fields).Nodup
  methodsApart : (members.flatMap Member.signatures).Nodup

/-- The constants of an enumeration have legal names, and no two have the same. -/
structure LegalConstants (constants : List String) : Prop where
  legal : ∀ name ∈ constants, isJavaName name = true
  apart : constants.Nodup

def Item.Legal : Item → Prop
  | .member _ => True
  | .nested _ _ members => LegalMembers members
  | .enumeration _ constants => LegalConstants constants

/-- What a class and the classes in it declare is legal, and no two classes in it have one name. -/
def Outline.Legal : Outline → Prop
  | .ofClass _ _ items =>
    LegalMembers (items.flatMap Item.members) ∧ (items.flatMap Item.nestedNames).Nodup ∧
      ∀ item ∈ items, item.Legal
  | .ofEnumeration _ _ constants =>
    LegalConstants (constants.map fun constant => constant.name.upperSnake)

/-- The names of fields are legal in camel case and differ in Pascal case. -/
structure LegalFields (names : List Name) : Prop where
  legal : ∀ name ∈ names, isJavaName name.camel = true
  apart : (names.map Name.pascal).Nodup

/-- What stands behind the name of a variant in the accessors of its slots: a number, unless there
is just one slot. -/
def slotNumbers : Nat → List String
  | 1 => [""]
  | slots => (List.range slots).map toString

/-- The names of a variant: its own, the endings of its accessors, and those of its fields. -/
structure VariantNames where
  name : Name
  numbers : List String
  fields : List Name

def accessorNames (variants : List VariantNames) : List String :=
  variants.flatMap fun v => v.numbers.map fun number => v.name.pascal ++ number

/-- The names of variants are legal and distinct in upper snake case, and in Pascal case no two
factories, tests or accessors have the same; one more accessor is that of the discriminant. -/
structure LegalVariants (variants : List VariantNames) : Prop where
  constants : LegalConstants (variants.map fun v => v.name.upperSnake)
  pascals : (variants.map fun v => v.name.pascal).Nodup
  accessors : (accessorNames variants ++ ["Variant"]).Nodup
  fields : ∀ v ∈ variants, LegalFields v.fields

end Render.Java

open Render.Java hiding generate

def Schema.Variant.names (v : Schema.Variant) : VariantNames :=
  match v.payload with
  | .unit => ⟨v.name, [], []⟩
  | .object fields => ⟨v.name, [""], fields.map Schema.Field.name⟩
  | .tuple slots => ⟨v.name, slotNumbers slots.length, []⟩

/-- The names of a class to generate lead to legal declarations. -/
def Schema.Entity.JavaLegal : Schema.Entity → Prop
  | .record entity => LegalFields (entity.fields.map Schema.Field.name)
  | .enumeration entity =>
    LegalConstants (entity.constants.map fun constant => constant.name.upperSnake)
  | .dataEnum entity => LegalVariants (entity.variants.map Schema.Variant.names)

def Variant.names (v : Variant) : VariantNames :=
  match v.payload with
  | .unit => ⟨.ofPascal v.name, [], []⟩
  | .object fields => ⟨.ofPascal v.name, [""], fields.map fun field => .ofSnake field.1⟩
  | .tuple slots => ⟨.ofPascal v.name, slotNumbers slots.length, []⟩

/-- The declared names of what a type is made of lead to legal declarations. -/
def Content.JavaLegal (model : Model) : Content → Prop
  | .primitive | .container _ => True
  | .record _ fields => LegalFields (fields.map fun field => .ofSnake field.1)
  | .enumeration ref =>
    LegalConstants ((model.members ref).map fun member =>
      (Collect.constantName member.name).upperSnake)
  | .dataEnum _ variants => LegalVariants (variants.map Variant.names)

namespace Render.Java

open Schema Text

theorem pascal_of_camel (name : Name) :
    name.pascal = String.ofList (Name.raiseFirst name.camel.toList) := by
  rw [Name.pascal, Name.camel, String.toList_ofList]

/-- Names that differ in Pascal case differ in camel case. -/
theorem LegalFields.camels {names : List Name} (legal : LegalFields names) :
    (names.map Name.camel).Nodup := by
  refine .of_map (fun text => String.ofList (Name.raiseFirst text.toList)) ?_
  rw [List.map_map]
  exact (List.map_congr_left fun name _ => pascal_of_camel name) ▸ legal.apart

/-- The methods whose names begin with a character. -/
def BeginWith (c : Char) (signatures : List (String × List String)) : Prop :=
  ∀ signature ∈ signatures, signature.1.toList.head? = some c

/-- Methods with different characters in front are apart if those with the same one are. -/
theorem nodup_append_of_beginWith {c : Char} {first second : List (String × List String)}
    (begins : BeginWith c first)
    (others : ∀ signature ∈ second, signature.1.toList.head? ≠ some c) :
    (first ++ second).Nodup ↔ first.Nodup ∧ second.Nodup := by
  have disjoint : first.Disjoint second := fun signature inside other =>
    others signature other (begins signature inside)
  exact ⟨fun apart => ⟨apart.of_append_left, apart.of_append_right⟩,
    fun apart => apart.1.append apart.2 disjoint⟩

/-- Methods of one word and of different names are apart. -/
theorem nodup_worded {α : Type} {items : List α} {word : String} {name : α → String}
    {parameters : α → List String} (apart : (items.map name).Nodup) :
    (items.map fun item => (word ++ name item, parameters item)).Nodup := by
  refine .of_map Prod.fst ?_
  rw [List.map_map]
  have worded := apart.map fun _ _ same => (String.append_right_inj word).mp same
  rwa [List.map_map] at worded

/-- Methods of one word without parameters are apart exactly if their names are. -/
theorem nodup_getters {names : List String} (word : String) :
    (names.map fun name => (word ++ name, ([] : List String))).Nodup ↔ names.Nodup := by
  refine List.nodup_map_iff fun name other same => ?_
  exact (String.append_right_inj word).mp (Prod.mk.inj same).1

theorem record_signatures (entity : Record) :
    (recordMembers entity).flatMap Member.signatures = entity.fields.flatMap fun field =>
      [("get" ++ field.name.pascal, []),
        ("set" ++ field.name.pascal, [spell (typePhrase field.type)])] := by
  simp [recordMembers, List.flatMap_assoc, declaration, getter, setter, Member.signatures,
    Member.blank]

theorem record_methods (entity : Record) :
    ((recordMembers entity).flatMap Member.signatures).Nodup ↔
      (entity.fields.map fun field => field.name.pascal).Nodup := by
  have split : (((entity.fields.map fun field => field.name.pascal).map fun name =>
        ("get" ++ name, ([] : List String))) ++
      entity.fields.map fun field =>
        ("set" ++ field.name.pascal, [spell (typePhrase field.type)])).Perm
      (entity.fields.flatMap fun field => [("get" ++ field.name.pascal, []),
        ("set" ++ field.name.pascal, [spell (typePhrase field.type)])]) := by
    rw [List.map_map, List.map_eq_flatMap, List.map_eq_flatMap]
    exact List.flatMap_append_perm ..
  rw [record_signatures, ← split.nodup_iff, nodup_append_of_beginWith (c := 'g') ?_ ?_,
    nodup_getters, and_iff_left_of_imp nodup_worded]
  all_goals simp [BeginWith]

/-- A class with a field, a parameter and methods for each of some fields is legal if their names
are. -/
theorem legal_of_fields {members : List Member} {fields : List Field}
    (declared : members.flatMap Member.fields = fields.map fun field => field.name.camel)
    (parameters : members.flatMap Member.parameters = fields.map fun field => field.name.camel)
    (methods : (members.flatMap Member.signatures).Nodup ↔
      (fields.map fun field => field.name.pascal).Nodup) :
    LegalMembers members ↔ LegalFields (fields.map Field.name) := by
  constructor
  · intro legal
    -- Fields that differ are not enough: the accessors are named in Pascal case, which joins more
    -- names.
    have names := legal.fields
    rw [declared, List.forall_mem_map] at names
    exact ⟨List.forall_mem_map.mpr names, by rw [List.map_map]; exact methods.mp legal.methodsApart⟩
  · intro legal
    have names : ∀ name ∈ fields.map fun field => field.name.camel, isJavaName name = true :=
      List.forall_mem_map.mpr (List.forall_mem_map.mp legal.legal)
    have camels := legal.camels
    have pascals := legal.apart
    rw [List.map_map] at camels pascals
    exact ⟨declared ▸ names, parameters ▸ names, declared ▸ camels, methods.mpr pascals⟩

theorem legal_record (entity : Record) :
    LegalMembers (recordMembers entity) ↔ LegalFields (entity.fields.map Field.name) := by
  refine legal_of_fields ?_ ?_ (record_methods entity)
  · simp [recordMembers, List.flatMap_assoc, declaration, getter, setter, Member.fields,
      Member.blank, List.map_eq_flatMap]
  · simp [recordMembers, List.flatMap_assoc, declaration, getter, setter, Member.parameters,
      Member.blank, List.map_eq_flatMap]

theorem isDecimalDigit_of_isDigit {c : Char} (digit : c.isDigit = true) :
    isDecimalDigit c = true := by
  rw [isDecimalDigit, digitValue?, Option.isSome_map, List.find?_isSome]
  refine ⟨(0x30, 0x39), List.mem_cons_self .., ?_⟩
  simp only [Char.isDigit, ge_iff_le, Bool.and_eq_true, decide_eq_true_eq] at digit ⊢
  exact digit

/-- A number behind a word that begins no keyword makes a legal name. -/
theorem isJavaName_argument (place : Nat) : isJavaName ("arg" ++ toString place) = true := by
  have spelled : ("arg" ++ toString place).toList = "arg".toList ++ (toString place).toList :=
    String.toList_append
  have digits : (toString place).toList.all isJavaPart = true :=
    List.all_eq_true.mpr fun c member => by
      have digit := isDecimalDigit_of_isDigit
        (List.all_eq_true.mp (Codec.all_isDigit_toString place) c member)
      simp [isJavaPart, digit]
  have word : javaWords.contains ("arg" ++ toString place) = false := by
    rw [← Bool.not_eq_true, List.contains_iff_mem]
    intro member
    -- No reserved word begins with it, so the digits behind it do not matter.
    have others : ∀ word ∈ javaWords, "arg".toList.isPrefixOf word.toList = false := by
      decide +kernel
    have begins := others _ member
    rw [spelled, List.isPrefixOf_iff_prefix.mpr (List.prefix_append ..)] at begins
    cases begins
  have argument : isJavaName ("arg" ++ toString place) =
      (isJavaStart 'a' && ('r' :: 'g' :: (toString place).toList).all isJavaPart &&
        !javaWords.contains ("arg" ++ toString place)) := by
    unfold isJavaName
    rw [spelled]
    rfl
  rw [argument, word, List.all_cons, List.all_cons, digits]
  decide +kernel

theorem legal_holder (v : Schema.Variant) (fields : List Field) :
    LegalMembers (holderMembers v fields) ↔ LegalFields (fields.map Field.name) := by
  have signatures : (holderMembers v fields).flatMap Member.signatures =
      (fields.map fun field => field.name.pascal).map fun name => ("get" ++ name, []) := by
    simp [holderMembers, holderCreator, List.flatMap_assoc, getter, Member.signatures, Member.blank,
      List.map_eq_flatMap]
  have none : (fields.flatMap fun _ => ([] : List String)) = [] :=
    List.flatMap_eq_nil_iff.mpr fun _ _ => rfl
  refine legal_of_fields ?_ ?_ ?_
  · simp [holderMembers, holderCreator, List.flatMap_assoc, getter, Member.fields, Member.blank,
      List.map_eq_flatMap]
  · simp [holderMembers, holderCreator, fieldParameter, List.flatMap_assoc, getter,
      Member.parameters, Member.blank, List.map_eq_flatMap, none]
  · rw [signatures, nodup_getters]

def factoryTypes (v : Schema.Variant) : List String :=
  match v.payload with
  | .unit => []
  | .object _ => [spell [.own v.name.pascal]]
  | .tuple slots => slots.map fun slot => spell (typePhrase slot)

/-- The methods of a variant: its factory, its accessors and its test. -/
def variantSignatures (v : Schema.Variant) : List (String × List String) :=
  ("of" ++ v.name.pascal, factoryTypes v) ::
    (v.names.numbers.map (fun number => ("get" ++ (v.name.pascal ++ number), [])) ++
      [("is" ++ v.name.pascal, [])])

theorem slotNumbers_eq (slots : Nat) :
    slotNumbers slots =
      (List.range slots).map fun place => if slots != 1 then toString place else "" := by
  unfold slotNumbers
  split
  · rfl
  · rename_i several
    have numbered : (slots != 1) = true := bne_iff_ne.mpr several
    simp only [numbered, if_true]

theorem slot_members (v : Schema.Variant) (numbered : Bool) (place : Nat) (slots : List TypeExpr) :
    ((slotItems v numbered place slots).flatMap Item.members).flatMap Member.fields = [] ∧
    ((slotItems v numbered place slots).flatMap Item.members).flatMap Member.parameters = [] ∧
    ((slotItems v numbered place slots).flatMap Item.members).flatMap Member.signatures =
      (List.range' place slots.length).map fun number =>
        ("get" ++ (v.name.pascal ++ if numbered then toString number else ""), []) := by
  induction slots generalizing place with
  | nil => exact ⟨rfl, rfl, rfl⟩
  | cons slot rest ih =>
    obtain ⟨fields, parameters, signatures⟩ := ih (place + 1)
    refine ⟨fields, parameters, ?_⟩
    rw [List.length_cons, List.range'_succ, List.map_cons, ← signatures, ← String.append_assoc]
    rfl

/-- What stands for a slot declares no class. -/
theorem slot_item {v : Schema.Variant} {numbered : Bool} {place : Nat} {slots : List TypeExpr}
    {item : Item}
    (inside : item ∈ slotItems v numbered place slots) : ∃ inner, item = .member inner := by
  induction slots generalizing place with
  | nil => cases inside
  | cons slot rest ih =>
    simp only [slotItems, List.mem_cons] at inside
    rcases inside with rfl | rfl | rfl | later
    · exact ⟨_, rfl⟩
    · exact ⟨_, rfl⟩
    · exact ⟨_, rfl⟩
    · exact ih later

/-- A factory of slots has a numbered parameter for each of them. -/
theorem slotParameters_names (slots : List TypeExpr) :
    (slotParameters slots).map Parameter.name = slotNames slots := by
  refine List.ext_getElem ?_ fun place inside within => ?_
  · simp [slotParameters, slotNames]
  · simp [slotParameters]

theorem slotParameters_types (slots : List TypeExpr) :
    (slotParameters slots).map Parameter.type = slots.map typePhrase := by
  refine List.ext_getElem ?_ fun place inside within => ?_
  · simp [slotParameters, slotNames]
  · simp [slotParameters]

theorem variant_signatures (className : String) (v : Schema.Variant) :
    ((variantItems className v).flatMap Item.members).flatMap Member.signatures =
      variantSignatures v := by
  rw [variantItems, List.flatMap_append, List.flatMap_append, variantSignatures, ← List.cons_append]
  congr 1
  unfold payloadItems factoryTypes Schema.Variant.names
  cases v.payload with
  | unit => rfl
  | object fields =>
    simp [objectItems, factory, accessor, Item.members, Member.signatures, Member.blank]
  | tuple slots =>
    obtain ⟨-, -, accessors⟩ := slot_members v (slots.length != 1) 0 slots
    have types : (slotParameters slots).map (fun parameter => spell parameter.type) =
        slots.map fun slot => spell (typePhrase slot) := by
      simpa only [List.map_map, Function.comp_def] using congrArg (List.map spell)
        (slotParameters_types slots)
    simp only [tupleItems, factory, Member.blank, List.flatMap_cons, Item.members,
      Member.signatures, types, List.nil_append, List.singleton_append, accessors, slotNumbers_eq,
      List.map_map, List.range_eq_range', Function.comp_def]

theorem variant_fields (className : String) (v : Schema.Variant) :
    ((variantItems className v).flatMap Item.members).flatMap Member.fields = [] := by
  rw [variantItems, List.flatMap_append, List.flatMap_append, List.append_eq_nil_iff]
  refine ⟨?_, rfl⟩
  unfold payloadItems
  cases v.payload with
  | unit => rfl
  | object fields => rfl
  | tuple slots => exact (slot_members v (slots.length != 1) 0 slots).1

theorem variant_parameters (className : String) (v : Schema.Variant) :
    ∀ name ∈ ((variantItems className v).flatMap Item.members).flatMap Member.parameters,
      isJavaName name = true := by
  have inside : ((variantItems className v).flatMap Item.members).flatMap Member.parameters =
      ((payloadItems className v).flatMap Item.members).flatMap Member.parameters := by
    rw [variantItems, List.flatMap_append, List.flatMap_append]
    exact List.append_nil _
  rw [inside]
  unfold payloadItems
  cases v.payload with
  | unit => exact List.forall_mem_nil _
  | object fields =>
    have legal : isJavaName "value" = true := by decide
    exact List.forall_mem_singleton.mpr legal
  | tuple slots =>
    have parameters :
        ((tupleItems className v slots).flatMap Item.members).flatMap Member.parameters =
        slotNames slots := by
      simp only [tupleItems, factory, Member.blank, List.flatMap_cons, Item.members,
        Member.parameters, slotParameters_names, List.singleton_append,
        (slot_members v (slots.length != 1) 0 slots).2.1, List.append_nil]
    rw [parameters]
    exact List.forall_mem_map.mpr fun place _ => isJavaName_argument place

/-- The classes that the variants declare are the holders of fields. -/
theorem variants_nested (entity : DataEnum) :
    (entity.variants.flatMap (variantItems entity.className)).flatMap Item.nestedNames =
      entity.holders := by
  rw [DataEnum.holders, List.filterMap_eq_flatMap_toList, List.flatMap_assoc]
  refine List.flatMap_congr fun v _ => ?_
  have accessors (numbered : Bool) (place : Nat) (slots : List TypeExpr) :
      (slotItems v numbered place slots).flatMap Item.nestedNames = [] := by
    refine List.flatMap_eq_nil_iff.mpr fun item inside => ?_
    obtain ⟨inner, rfl⟩ := slot_item inside
    rfl
  rw [variantItems, List.flatMap_append]
  unfold payloadItems
  cases v.payload with
  | unit => rfl
  | object fields => rfl
  | tuple slots => simpa [tupleItems, Item.nestedNames] using accessors _ _ slots

theorem legal_variant (className : String) (v : Schema.Variant) :
    (∀ item ∈ variantItems className v, item.Legal) ↔ LegalFields v.names.fields := by
  have accessors (numbered : Bool) (place : Nat) (slots : List TypeExpr) :
      ∀ item ∈ slotItems v numbered place slots, item.Legal := by
    intro item inside
    obtain ⟨inner, rfl⟩ := slot_item inside
    trivial
  have none : LegalFields [] := ⟨List.forall_mem_nil _, .nil⟩
  rw [variantItems, List.forall_mem_append]
  unfold payloadItems Schema.Variant.names
  cases v.payload with
  | unit => simp [Item.Legal, none]
  | object fields => simp [objectItems, Item.Legal, legal_holder]
  | tuple slots => simpa [tupleItems, Item.Legal, none] using accessors _ _ slots

theorem legal_serializer (entity : DataEnum) : LegalMembers (serializerMembers entity) where
  fields := List.forall_mem_nil _
  parameters := by
    have legal : ∀ name ∈ ["value", "gen", "provider"], isJavaName name = true := by decide +kernel
    exact legal
  fieldsApart := .nil
  methodsApart := List.nodup_singleton _

theorem legal_deserializer (entity : DataEnum) : LegalMembers (deserializerMembers entity) where
  fields := List.forall_mem_nil _
  parameters := by
    have legal : ∀ name ∈ ["ctxt", "node", "key", "types", "p", "ctxt"],
        isJavaName name = true := by
      decide +kernel
    exact legal
  fieldsApart := .nil
  methodsApart := by
    have names : (((deserializerMembers entity).flatMap Member.signatures).map Prod.fst).Nodup :=
      show ["parseField", "deserialize"].Nodup by decide
    exact names.of_map

/-- What the variants declare is what each of them declares. -/
theorem variants_declared {α : Type} (entity : DataEnum) (read : Member → List α) :
    ((entity.variants.flatMap (variantItems entity.className)).flatMap Item.members).flatMap read =
      entity.variants.flatMap fun v =>
        ((variantItems entity.className v).flatMap Item.members).flatMap read := by
  simp only [List.flatMap_assoc]

theorem dataEnum_fields (entity : DataEnum) :
    ((dataEnumItems entity).flatMap Item.members).flatMap Member.fields = ["variant", "value"] := by
  have variants : ((entity.variants.flatMap (variantItems entity.className)).flatMap
      Item.members).flatMap Member.fields = [] := by
    rw [variants_declared]
    exact List.flatMap_eq_nil_iff.mpr fun v _ => variant_fields entity.className v
  rw [dataEnumItems, List.flatMap_append, List.flatMap_append, List.flatMap_append,
    List.flatMap_append, variants]
  rfl

theorem dataEnum_parameters (entity : DataEnum) :
    ∀ name ∈ ((dataEnumItems entity).flatMap Item.members).flatMap Member.parameters,
      isJavaName name = true := by
  have own : ∀ name ∈ ["variant", "value"], isJavaName name = true := by decide
  rw [dataEnumItems, List.flatMap_append, List.flatMap_append, List.flatMap_append,
    List.flatMap_append, List.forall_mem_append, List.forall_mem_append, variants_declared]
  refine ⟨⟨own, fun name declared => ?_⟩, List.forall_mem_nil _⟩
  obtain ⟨v, -, inside⟩ := List.mem_flatMap.mp declared
  exact variant_parameters entity.className v name inside

theorem names_name (v : Schema.Variant) : v.names.name = v.name := by
  unfold Schema.Variant.names
  cases v.payload <;> rfl

/-- The methods of variants, by the word that they begin with. -/
theorem variants_signatures (variants : List Schema.Variant) :
    (variants.flatMap variantSignatures).Perm
      ((variants.map fun v => ("of" ++ v.name.pascal, factoryTypes v)) ++
        ((accessorNames (variants.map Schema.Variant.names)).map (fun name =>
          ("get" ++ name, [])) ++
        (variants.map fun v => v.name.pascal).map fun name => ("is" ++ name, []))) := by
  have accessors : (accessorNames (variants.map Schema.Variant.names)).map
      (fun name => ("get" ++ name, ([] : List String))) =
      variants.flatMap fun v => v.names.numbers.map fun number =>
        ("get" ++ (v.name.pascal ++ number), []) := by
    simp only [accessorNames, List.flatMap_map, List.map_flatMap, List.map_map, names_name]
    rfl
  rw [accessors, List.map_map, List.map_eq_flatMap, List.map_eq_flatMap]
  refine List.Perm.symm ?_
  exact ((List.flatMap_append_perm ..).append_left _).trans (List.flatMap_append_perm ..)

/-- The methods of a data enum, by the word that they begin with. -/
theorem dataEnum_signatures (entity : DataEnum) :
    (((dataEnumItems entity).flatMap Item.members).flatMap Member.signatures).Perm
      ((entity.variants.map fun v => ("of" ++ v.name.pascal, factoryTypes v)) ++
        (((entity.variants.map fun v => v.name.pascal).map fun name => ("is" ++ name, [])) ++
        ((accessorNames (entity.variants.map Schema.Variant.names) ++ ["Variant"]).map fun name =>
          ("get" ++ name, [])))) := by
  have variants : ((entity.variants.flatMap (variantItems entity.className)).flatMap
      Item.members).flatMap Member.signatures = entity.variants.flatMap variantSignatures := by
    rw [variants_declared]
    exact List.flatMap_congr fun v _ => variant_signatures entity.className v
  have declared : ((dataEnumItems entity).flatMap Item.members).flatMap Member.signatures =
      entity.variants.flatMap variantSignatures ++ [("getVariant", [])] := by
    rw [dataEnumItems, List.flatMap_append, List.flatMap_append, List.flatMap_append,
      List.flatMap_append, variants]
    rfl
  rw [declared, List.map_append]
  -- The accessor of the discriminant stands behind the tests, and joins the other accessors.
  refine ((variants_signatures entity.variants).append_right _).trans ?_
  rw [List.append_assoc]
  refine List.Perm.append_left _ ?_
  rw [← List.append_assoc]
  exact List.perm_append_comm.append_right _

/-- The members of a data enum that are no classes are legal if its variants have different names
for their factories, tests and accessors. -/
theorem legal_dataEnumMembers (entity : DataEnum) :
    LegalMembers ((dataEnumItems entity).flatMap Item.members) ↔
      (entity.variants.map fun v => v.name.pascal).Nodup ∧
        (accessorNames (entity.variants.map Schema.Variant.names) ++ ["Variant"]).Nodup := by
  have methods : (((dataEnumItems entity).flatMap Item.members).flatMap Member.signatures).Nodup ↔
      (entity.variants.map fun v => v.name.pascal).Nodup ∧
        (accessorNames (entity.variants.map Schema.Variant.names) ++ ["Variant"]).Nodup := by
    rw [(dataEnum_signatures entity).nodup_iff, nodup_append_of_beginWith (c := 'o') ?_ ?_,
      nodup_append_of_beginWith (c := 'i') ?_ ?_, nodup_getters, nodup_getters, ← and_assoc,
      and_iff_right_of_imp nodup_worded]
    all_goals simp [BeginWith, or_imp, forall_and]
  refine ⟨fun legal => methods.mp legal.methodsApart, fun apart => ?_⟩
  have own : ∀ name ∈ ["variant", "value"], isJavaName name = true := by decide
  refine ⟨?_, dataEnum_parameters entity, ?_, methods.mpr apart⟩
  · rwa [dataEnum_fields]
  · rw [dataEnum_fields]
    decide

theorem dataEnum_nested (entity : DataEnum) :
    (dataEnumItems entity).flatMap Item.nestedNames =
      entity.holders ++ ["Serializer", "Deserializer", "Variant"] := by
  rw [dataEnumItems, List.flatMap_append, List.flatMap_append, variants_nested]
  rfl

/-- The classes in a data enum are legal if its constants and the fields of its variants are. -/
theorem legal_dataEnumItems (entity : DataEnum) :
    (∀ item ∈ dataEnumItems entity, item.Legal) ↔
      (∀ v ∈ entity.variants, LegalFields v.names.fields) ∧
        LegalConstants (entity.variants.map fun v => v.name.upperSnake) := by
  rw [dataEnumItems, List.forall_mem_append, List.forall_mem_append]
  constructor
  · rintro ⟨⟨-, variants⟩, others⟩
    refine ⟨fun v member => ?_, ?_⟩
    · exact (legal_variant entity.className v).mp fun item inside =>
        variants item (List.mem_flatMap.mpr ⟨v, member, inside⟩)
    · exact others (.enumeration "Variant" _) (by simp)
  · rintro ⟨fields, constants⟩
    refine ⟨⟨?_, fun item inside => ?_⟩, ?_⟩
    · simp [Item.Legal]
    · obtain ⟨v, member, declared⟩ := List.mem_flatMap.mp inside
      exact (legal_variant entity.className v).mpr (fields v member) item declared
    · simp [Item.Legal, legal_serializer, legal_deserializer, constants]

theorem holders_sublist (entity : DataEnum) :
    entity.holders.Sublist (entity.variants.map fun v => v.name.pascal) := by
  rw [DataEnum.holders]
  induction entity.variants with
  | nil => exact .slnil
  | cons v rest ih =>
    rw [List.filterMap_cons, List.map_cons]
    cases v.payload with
    | unit | tuple slots => exact ih.cons _
    | object fields => exact ih.cons_cons _

/-- What a data enum declares is legal exactly if the names of its variants lead to it; holder
classes leave their names to the other classes in it. -/
theorem legal_dataEnum {entity : DataEnum} (free : ∀ holder ∈ entity.holders,
      holder ∉ reservedNames) :
    (outline (.dataEnum entity)).Legal ↔
      LegalVariants (entity.variants.map Schema.Variant.names) := by
  have constants : ((entity.variants.map Schema.Variant.names).map fun v => v.name.upperSnake) =
      entity.variants.map fun v => v.name.upperSnake := by
    simp only [List.map_map, Function.comp_def, names_name]
  have pascals : ((entity.variants.map Schema.Variant.names).map fun v => v.name.pascal) =
      entity.variants.map fun v => v.name.pascal := by
    simp only [List.map_map, Function.comp_def, names_name]
  constructor
  · rintro ⟨members, -, items⟩
    obtain ⟨apart, accessors⟩ := (legal_dataEnumMembers entity).mp members
    obtain ⟨fields, legal⟩ := (legal_dataEnumItems entity).mp items
    exact ⟨constants ▸ legal, pascals ▸ apart, accessors, List.forall_mem_map.mpr fields⟩
  · intro legal
    have apart := pascals ▸ legal.pascals
    have fields : ∀ v ∈ entity.variants, LegalFields v.names.fields := fun v member =>
      legal.fields v.names (List.mem_map_of_mem member)
    refine ⟨(legal_dataEnumMembers entity).mpr ⟨apart, legal.accessors⟩, ?_,
      (legal_dataEnumItems entity).mpr ⟨fields, constants ▸ legal.constants⟩⟩
    rw [dataEnum_nested]
    refine (apart.sublist (holders_sublist entity)).append (by decide) fun holder inside other => ?_
    refine free holder inside ?_
    simp only [reservedNames, List.mem_cons, List.not_mem_nil, or_false] at other ⊢
    tauto

/-- The holder classes of a data enum that passes the check have names of their own. -/
theorem holders_free {entity : DataEnum} {reserved : List String}
    (checked : entity.check reserved = .ok ()) :
    ∀ holder ∈ entity.holders, holder ∉ entity.className :: reserved := by
  unfold DataEnum.check at checked
  split at checked
  · cases checked
  split at checked
  · cases checked
  rename_i free
  intro holder inside taken
  have unreserved := List.find?_eq_none.mp free holder inside
  exact unreserved (decide_eq_true taken)

/-- A generated class is the text of its outline. -/
theorem generate_outline {entity : Entity} {generated : GeneratedClass}
    (succeeds : generate entity = .ok generated) :
    generated.name = entity.className ∧ generated.code = joinLines (outline entity).lines ∧
      ∀ dataEnum, entity = .dataEnum dataEnum →
        ∀ holder ∈ dataEnum.holders, holder ∉ dataEnum.className :: reservedNames := by
  obtain ⟨written, found, rest⟩ := Outcome.bind_ok.mp succeeds
  dsimp only at rest
  split at rest
  · cases rest
    refine ⟨rfl, congrArg joinLines (lines_eq_outline found), ?_⟩
    rintro dataEnum rfl
    obtain ⟨⟨⟩, checked, -⟩ := Outcome.bind_ok.mp found
    exact holders_free checked
  · cases rest

/-- What a generated class declares is legal exactly if the names that it is made from lead to
it. -/
theorem legal_outline {entity : Entity} {generated : GeneratedClass}
    (succeeds : generate entity = .ok generated) : (outline entity).Legal ↔ entity.JavaLegal := by
  cases entity with
  | record entity =>
    have members : ((recordMembers entity).map Item.member).flatMap Item.members =
        recordMembers entity := by
      simp [List.flatMap_map, Item.members]
    have nested : ((recordMembers entity).map Item.member).flatMap Item.nestedNames = [] := by
      simp [List.flatMap_map, Item.nestedNames]
    have items : ∀ item ∈ (recordMembers entity).map Item.member, item.Legal :=
      List.forall_mem_map.mpr fun _ _ => trivial
    rw [outline, Outline.Legal, members, nested, legal_record, Entity.JavaLegal]
    exact and_iff_left ⟨.nil, items⟩
  | enumeration entity => exact Iff.rfl
  | dataEnum entity =>
    have free := (generate_outline succeeds).2.2 entity rfl
    exact legal_dataEnum fun holder inside taken => free holder inside (.tail _ taken)

end Render.Java

namespace Collect

variable {target : Target}

/-- Fields keep their names. -/
theorem describeFields_names {fields : List (String × HostType)} {described : List Schema.Field}
    (found : fields.mapM (describeField target) = .ok described) :
    described.map Schema.Field.name = fields.map fun field => .ofSnake field.1 := by
  rw [Outcome.mapM_ok] at found
  induction found with
  | nil => rfl
  | cons first _ ih =>
    obtain ⟨text, -, same⟩ := Outcome.bind_ok.mp first
    obtain rfl := Outcome.pure_ok.mp same
    rw [List.map_cons, List.map_cons, ih]

theorem describeVariant_names {declared : Variant} {described : Schema.Variant}
    (found : describeVariant target declared = .ok described) :
    described.names = declared.names := by
  obtain ⟨name, tag, content⟩ := described
  obtain ⟨rfl, -, carried⟩ := describeVariant_ok found
  unfold Schema.Variant.names Variant.names
  dsimp only at carried ⊢
  cases payload : declared.payload with
  | unit =>
    rw [payload] at carried
    cases carried
    rfl
  | tuple slots =>
    rw [payload] at carried
    obtain ⟨types, rfl, length⟩ := describeSlots_ok carried
    exact congrArg (fun slots => (⟨_, slotNumbers slots, []⟩ : VariantNames)) length
  | object fields =>
    rw [payload] at carried
    obtain ⟨parts, rfl, each⟩ := describeObject_ok carried
    exact congrArg (fun names => (⟨_, [""], names⟩ : VariantNames)) (describeFields_names each)

/-- The names of a class are those that are declared. -/
theorem describe_javaLegal {model : Model} {type : HostType} {content : Content}
    {entity? : Option Schema.Entity} (found : describe model target type content = .ok entity?) :
    (∀ entity ∈ entity?, entity.JavaLegal) ↔ content.JavaLegal model := by
  cases content with
  | primitive =>
    cases found
    simp [Content.JavaLegal]
  | container =>
    cases found
    simp [Content.JavaLegal]
  | record ref fields =>
    obtain ⟨className, -, rest⟩ := Outcome.bind_ok.mp found
    obtain ⟨parts, each, same⟩ := Outcome.bind_ok.mp rest
    obtain rfl := Outcome.pure_ok.mp same
    simp only [Option.mem_some_iff, forall_eq', Schema.Entity.JavaLegal, Content.JavaLegal,
      describeFields_names each]
  | enumeration ref =>
    obtain ⟨className, -, same⟩ := Outcome.bind_ok.mp found
    obtain rfl := Outcome.pure_ok.mp same
    simp only [Option.mem_some_iff, forall_eq', Schema.Entity.JavaLegal, Content.JavaLegal,
      enumeration, List.map_map, Function.comp_def]
  | dataEnum ref variants =>
    obtain ⟨className, -, rest⟩ := Outcome.bind_ok.mp found
    obtain ⟨parts, each, same⟩ := Outcome.bind_ok.mp rest
    obtain rfl := Outcome.pure_ok.mp same
    have names : parts.map Schema.Variant.names = variants.map Variant.names := by
      have described := (Outcome.mapM_ok.mp each).imp fun _ _ => describeVariant_names
      rw [← List.forall₂_eq_eq_eq, List.forall₂_map_left_iff, List.forall₂_map_right_iff]
      exact described.flip
    simp only [Option.mem_some_iff, forall_eq', Schema.Entity.JavaLegal, Content.JavaLegal, names]

end Collect

variable {model : Model} {roots : List HostType} {before after : Memory}

/-- A generated class is the text of an outline, and what the outline declares is legal exactly if
the names are that are declared in the model for the type that the class was collected for. -/
theorem generate_java_legal {classes : List GeneratedClass}
    (succeeds : (generate .java model roots).run.run before = (.ok classes, after)) :
    ∃ (schema : Schema) (walk : List Expansion),
      (Schema.ofTypes .java model roots).run.run before = (.ok schema, after) ∧
      (∀ expansion ∈ walk, expansion.Valid model before .java ∧
        Needed model before roots expansion.type) ∧
      schema.entities.Perm (walk.filterMap Expansion.entity) ∧
      List.Forall₂ (fun entity generated => generated.name = entity.className ∧
        generated.code = Render.joinLines (outline entity).lines) schema.entities classes ∧
      ∀ expansion ∈ walk, ∀ entity ∈ expansion.entity,
        (outline entity).Legal ↔ expansion.content.JavaLegal model := by
  obtain ⟨schema, collected, generated⟩ := generate_ok.mp succeeds
  obtain ⟨collection, found, rfl⟩ := Schema.ofTypes_ok collected
  obtain ⟨walk, walked⟩ := Collect.addAll_walked found
  have entities : collection.schema.entities.Perm (walk.filterMap Expansion.entity) :=
    walked.entities
  have each := (Schema.generate_each generated).1
  refine ⟨_, walk, collected, fun expansion member => ?_, entities, ?_,
    fun expansion member entity made => ?_⟩
  · exact ⟨walked.valid expansion member, walked.needed (walked.reached expansion member)⟩
  · exact each.imp fun entity generated succeeds =>
      ⟨(generate_outline succeeds).1, (generate_outline succeeds).2.1⟩
  · have inside : entity ∈ collection.schema.entities :=
      entities.mem_iff.mpr (List.mem_filterMap.mpr ⟨expansion, member, made⟩)
    obtain ⟨generated, -, succeeds⟩ := Outcome.exists_related each inside
    have described := Collect.describe_javaLegal (walked.valid expansion member).entity
    rw [legal_outline succeeds, ← described, made]
    simp

/-- All classes are generated from plain names of their own. -/
theorem Schema.generates_java {schema : Schema}
    (distinct : (schema.entities.map Entity.className).Nodup)
    (plain : ∀ entity ∈ schema.entities, entity.IsPlain)
    (generable : ∀ entity ∈ schema.entities, IsGenerable entity) :
    (schema.generate .java).toOption.isSome = true := by
  have unrepeated : schema.distinctEntities = .ok schema.entities := by
    rw [distinctEntities, firstRepeated?_eq_none.mpr ⟨distinct, by simp⟩]
  obtain ⟨rows, entities, made⟩ := Outcome.exists_rows fun entity member =>
    exists_generated (plain entity member) (generable entity member)
  have all : schema.generate .java = .ok (rows.map Prod.snd) := by
    rw [generate, unrepeated, ← entities]
    exact Outcome.mapM_map_ok fun row member => (made row member).1
  rw [all]
  rfl

namespace Codec

def figureJavaParts : List Schema.Variant :=
  [⟨.ofPascal "Empty", "Empty", .unit⟩, ⟨.ofPascal "Line", "Line", .tuple [.named "Double"]⟩,
    ⟨.ofPascal "Pair", "Pair", .tuple [.named "Long", .named "Long"]⟩,
    ⟨.ofPascal "Circle", "Circle", .object [⟨.ofSnake "radius", "radius", .named "Double"⟩]⟩]

/-- Figures of every shape have legal members. -/
theorem figure_javaLegal : LegalVariants (figureJavaParts.map Schema.Variant.names) where
  constants := ⟨by decide +kernel, by decide +kernel⟩
  pascals := by decide +kernel
  accessors := by decide +kernel
  fields := by
    have none : LegalFields [] := ⟨List.forall_mem_nil _, .nil⟩
    have radius : LegalFields [.ofSnake "radius"] := ⟨by decide +kernel, by decide +kernel⟩
    simp [figureJavaParts, Schema.Variant.names, none, radius]

theorem figure_javaCollected : ((Schema.ofTypes .java (figureModel figureVariants)
    [.declared figureRef]).run.run .empty).1.toOption = some (figureSchema figureJavaParts) := by
  rw [Schema.ofTypes_eq_paired (by decide +kernel)]
  decide +kernel

theorem generate_java_legal_figure :
    ∃ classes after,
      (generate .java (figureModel figureVariants) [.declared figureRef]).run.run .empty =
        (.ok classes, after) ∧
      ∃ schema : Schema, schema = figureSchema figureJavaParts ∧
        List.Forall₂ (fun entity generated => generated.name = entity.className ∧
          generated.code = Render.joinLines (outline entity).lines) schema.entities classes ∧
        ∀ entity ∈ schema.entities, (outline entity).Legal := by
  obtain ⟨classes, succeeds⟩ := exists_classes figure_javaCollected
    (Schema.generates_java (by decide) (by decide +kernel) (by decide +kernel))
  obtain ⟨schema, walk, found, valid, entities, texts, legal⟩ := generate_java_legal succeeds
  have collected := figure_javaCollected
  rw [found] at collected
  obtain rfl : schema = figureSchema figureJavaParts := Option.some.inj collected
  refine ⟨classes, _, succeeds, _, rfl, texts, fun entity member => ?_⟩
  obtain ⟨expansion, inside, made⟩ := List.mem_filterMap.mp (entities.mem_iff.mp member)
  have described := Collect.describe_javaLegal (valid expansion inside).1.entity
  refine (legal expansion inside entity made).mpr (described.mp fun other same => ?_)
  obtain rfl : other = entity := Option.some.inj (same.symm.trans made)
  obtain rfl := List.mem_singleton.mp member
  exact figure_javaLegal

end Codec

def ClassDecl.names (declared : ClassDecl) : List String :=
  declared.ref.name :: (declared.entries.getD []).map RecordEntry.name ++
    declared.members.map Member.name ++
    declared.variants.flatMap fun v => v.name :: match v.payload with
      | .object fields => fields.map Prod.fst
      | _ => []

namespace Collect

/-- A class with a field whose name is a keyword is generated. -/
theorem not_generate_java_legal :
    ¬ ∀ (model : Model) (roots : List HostType) (before after : Memory)
      (classes : List GeneratedClass)
      (schema : Schema),
      (∀ declared ∈ model.classes, ∀ name ∈ declared.names, Text.isIdentifier name = true) →
      (generate .java model roots).run.run before = (.ok classes, after) →
      ((Schema.ofTypes .java model roots).run.run before).1.toOption = some schema →
      ∀ entity ∈ schema.entities, (outline entity).Legal := by
  intro legal
  have collected : ((Schema.ofTypes .java (plainModel [(leafRef, [("new", .primitive .int)])])
      [.declared leafRef]).run.run .empty).1.toOption =
        some ⟨[⟨.ofPascal "E", "E", [⟨.ofSnake "new", "new", .named "Long"⟩]⟩], [], []⟩ := by
    rw [Schema.ofTypes_eq_paired (by decide +kernel)]
    decide +kernel
  obtain ⟨classes, succeeds⟩ := exists_classes collected
    (Schema.generates_java (by decide) (by decide +kernel) (by decide +kernel))
  have members := legal _ _ _ _ _ _ (by decide +kernel) succeeds collected _ (List.mem_cons_self ..)
  have field : isJavaName (Name.ofSnake "new").camel = true :=
    members.1.fields _ (List.mem_cons_self ..)
  exact absurd field (by decide +kernel)

end Collect

end WireModel
