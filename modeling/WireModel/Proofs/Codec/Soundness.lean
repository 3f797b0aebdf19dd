import WireModel.Proofs.Codec.Decoding
import WireModel.Proofs.Collection.Pairing

/-!
The decoder is sound: whatever the data, what is decoded as a type is a value of that type at every
depth, or nothing is decoded.
-/

namespace WireModel

namespace Codec

open Schema Text
open Render.Python (attributeName)

namespace Library

variable {library : Library}

/-- What is decoded from the data as a type, or as a payload of some types, is as expected. -/
structure SoundAt (library : Library) (json : Json) : Prop where
  value : ∀ {expected : Expected} {owner : Option String} {type : HostType} {value : Value},
    Denotes library expected type →
    library.decoder (.ofJson json) (.value owner type) = .ok value → Typed library expected value
  slots : ∀ {className key : String} {hints : List TypeExpr} {types : List HostType}
    {payload : Value}, List.Forall₂ (fun hint type => library.resolve hint = .ok type) hints types →
    library.decoder (.ofJson json) (.slots className key types) = .ok payload →
    ∃ items, payload = .tuple items ∧
      List.Forall₂ (fun hint item => Typed library (.hint hint) item) hints items

/-- The parts of data are decoded as expected. -/
structure SoundParts (library : Library) (json : Json) : Prop where
  items : ∀ item ∈ json.items, SoundAt library item
  keys : ∀ entry ∈ json.entries, SoundAt library (.string entry.1)
  values : ∀ entry ∈ json.entries, SoundAt library entry.2

theorem partAt?_sound {json : Json} (sound : SoundParts library json) {key : String}
    {part : Decoder × Decoder} (found : partAt? (library.entryDecodersOf json) key = some part) :
    ∃ entry ∈ json.entries, part.2 = library.decoder (.ofJson entry.2) ∧
      SoundAt library entry.2 := by
  obtain ⟨entry, there, rfl⟩ := Option.map_eq_some_iff.mp found
  obtain ⟨origin, member, rfl⟩ := List.mem_map.mp (List.mem_of_find?_eq_some there)
  exact ⟨origin, member, rfl, sound.values origin member⟩

/-- What is related through something in between is related. -/
private theorem forall₂_zip {α β γ : Type} {R : α → β → Prop} {S : α × β → γ → Prop}
    {P : α → γ → Prop} (through : ∀ x y z, R x y → S (x, y) z → P x z) {xs : List α} {ys : List β}
    {zs : List γ} (first : List.Forall₂ R xs ys) (second : List.Forall₂ S (xs.zip ys) zs) :
    List.Forall₂ P xs zs := by
  induction first generalizing zs with
  | nil =>
    cases second
    exact .nil
  | cons head _ ih =>
    rw [List.zip_cons_cons] at second
    cases second with
    | cons related rest => exact .cons (through _ _ _ head related) (ih rest)

theorem Loaded.decodeRecord_sound (loaded : library.Loaded) {json : Json}
    (sound : SoundParts library json) {path : ClassPath} {label : String} {fields : List Field}
    {value : Value}
    (decoded : library.decodeRecord path fields (library.entryDecodersOf json) = .ok value) :
    Typed library (.instanceOf (.record path label fields)) value := by
  obtain ⟨-, types, attributes, resolved, each, made⟩ := loaded.decodeRecord_ok.mp decoded
  obtain rfl := eq_of_makeRecord_ok made
  rw [List.forall₂_map_left_iff] at resolved
  have related : List.Forall₂ (fun (field : Field) (part : String × Value) =>
      part.1 = attributeName field ∧ Typed library (.hint field.type) part.2) fields
        attributes := by
    refine forall₂_zip (fun field type part resolves decodes => ?_) resolved each
    obtain ⟨-, named, decodes⟩ := decodes
    refine ⟨named, ?_⟩
    rcases found : partAt? (library.entryDecodersOf json) field.tag with _ | decoders
    · simp only [found] at decodes
      rw [decodes]
      exact .null
    · simp only [found] at decodes
      obtain ⟨entry, member, same, sound⟩ := partAt?_sound sound found
      rw [same] at decodes
      exact sound.value (.hint resolves) decodes
  have named : List.Forall₂ Eq (attributes.map Prod.fst) (fields.map attributeName) := by
    rw [List.forall₂_map_left_iff, List.forall₂_map_right_iff]
    exact (related.imp fun _ _ part => part.1).flip
  rw [List.forall₂_eq_eq_eq] at named
  exact .record named fun pair member => ((List.forall₂_iff_zip.mp related).2 member).2

theorem onData_ne_ok {shown : Except CodecError String} {cause : String → Mismatch}
    {value : Value} : onData shown cause ≠ .ok value := by
  intro found
  obtain ⟨_, -, rest⟩ := Outcome.bind_ok.mp found
  cases rest

theorem decodeInstance_sound {type : Class}
    (clear : ∀ entity, type = .dataEnum entity → Clear entity) {json : Json} {value : Value}
    (decoded : library.decodeInstance type (.ofJson json) = .ok value) :
    Typed library (.instanceOf type) value := by
  cases type with
  | record => cases decoded
  | enumeration constants =>
    rw [decodeInstance] at decoded
    rcases found : constants.ofValue? (Value.ofJson json).content with _ | constant
    · rw [found] at decoded
      exact absurd decoded onData_ne_ok
    · rw [found] at decoded
      cases decoded
      cases json with
      | string tag => exact .constant found
      | _ => cases found
  | dataEnum entity =>
    cases json with
    | string tag =>
      simp only [Value.ofJson, decodeInstance, decodeTag] at decoded
      split at decoded
      · rename_i v found
        obtain ⟨member, isUnit, -⟩ := mem_of_unitVariant? found
        split at decoded
        · cases decoded
        obtain ⟨chosen, discriminated, rest⟩ := Outcome.bind_ok.mp decoded
        obtain ⟨⟨⟩, -, rest⟩ := Outcome.bind_ok.mp rest
        obtain rfl := Outcome.pure_ok.mp rest
        rw [(clear entity rfl).discriminant member] at discriminated
        cases discriminated
        exact .unit member isUnit
      · cases decoded
    | _ => cases decoded

theorem decodeChoice_sound {entity : DataEnum}
    (clear : Clear entity) (distinct : library.MethodsDistinct)
    (known : .dataEnum entity ∈ library.classes) {json : Json}
    (sound : SoundParts library json) {value : Value}
    (decoded : library.decodeChoice entity (library.entryDecodersOf json) = .ok value) :
    Typed library (.instanceOf (.dataEnum entity)) value := by
  unfold decodeChoice at decoded
  split at decoded
  · rename_i v first decoder found
    obtain ⟨member, carries, there⟩ := mem_of_payloadVariant? found
    obtain ⟨entry, inside, rfl, soundPart⟩ := partAt?_sound sound there
    split at decoded
    · cases decoded
    obtain ⟨chosen, discriminated, rest⟩ := Outcome.bind_ok.mp decoded
    obtain ⟨payload, carried, rest⟩ := Outcome.bind_ok.mp rest
    obtain ⟨⟨⟩, -, rest⟩ := Outcome.bind_ok.mp rest
    obtain rfl := Outcome.pure_ok.mp rest
    rw [clear.discriminant member] at discriminated
    cases discriminated
    unfold decodePayload at carried
    split at carried
    · rename_i isUnit
      exact absurd isUnit carries
    · rename_i fields isObject
      split at carried
      · cases carried
      exact .object member isObject
        (soundPart.value (.instanceOf (holder_mem_classes known member isObject)) carried)
    · rename_i slots isTuple
      split at carried
      · cases carried
      obtain ⟨types, resolved, carried⟩ := Outcome.bind_ok.mp carried
      rw [distinct.slotTypes known member isTuple] at resolved
      obtain ⟨items, rfl, typed⟩ := soundPart.slots resolved carried
      obtain ⟨length, each⟩ := List.forall₂_iff_zip.mp typed
      exact .tuple member isTuple length.symm fun pair inside => each inside
  · cases decoded

theorem Loaded.decodeAsClass_sound (loaded : library.Loaded) (clear : library.AllClear)
    (distinct : library.MethodsDistinct)
    {type : Class} (known : type ∈ library.classes) {json : Json} (sound : SoundParts library json)
    {value : Value}
    (decoded : library.decodeAsClass type (.ofJson json) (library.entryDecodersOf json) =
      .ok value) : Typed library (.instanceOf type) value := by
  unfold decodeAsClass at decoded
  split at decoded
  · exact loaded.decodeRecord_sound sound decoded
  · exact decodeChoice_sound (clear.ofClass known) distinct known sound decoded
  · refine decodeInstance_sound (fun entity same => ?_) decoded
    subst same
    exact clear.ofClass known

theorem decodeInstance_ne_null {type : Class} {text : String} :
    library.decodeInstance type (.text text) ≠ .ok .null := by
  intro decoded
  cases type with
  | record => cases decoded
  | enumeration constants =>
    rw [decodeInstance] at decoded
    rcases found : constants.ofValue? (Value.text text).content with _ | constant
    · rw [found] at decoded
      exact onData_ne_ok decoded
    · rw [found] at decoded
      cases decoded
      obtain ⟨entry, -, same⟩ := Option.map_eq_some_iff.mp found
      cases same
  | dataEnum entity =>
    simp only [decodeInstance, decodeTag] at decoded
    split at decoded
    · split at decoded
      · cases decoded
      obtain ⟨_, -, rest⟩ := Outcome.bind_ok.mp decoded
      obtain ⟨_, -, rest⟩ := Outcome.bind_ok.mp rest
      cases rest
    · cases decoded

theorem Loaded.decodeText_ne_null (loaded : library.Loaded) {owner : Option String}
    {type : HostType} {text : String} :
    library.decoder (.ofJson (.string text)) (.value owner type) ≠ .ok .null := by
  intro decoded
  have decoded : library.decodeValue owner type (.text text) [] [] = .ok .null := decoded
  simp only [decodeValue] at decoded
  split at decoded
  · rename_i content _
    unfold decodeContent at decoded
    cases form : library.form content with
    | bool | integer | float =>
      rw [form] at decoded
      exact onData_ne_ok decoded
    | text | unsupported =>
      rw [form] at decoded
      cases decoded
    | list args =>
      rw [form] at decoded
      rcases args with _ | ⟨_, _ | _⟩ <;> cases decoded
    | map args =>
      rw [form] at decoded
      rcases args with _ | ⟨_, _ | ⟨_, _ | _⟩⟩ <;> cases decoded
    | instanceOf known =>
      rw [form] at decoded
      simp only [loaded.decodingClass] at decoded
      have decoded : library.decodeInstance known (.text text) = .ok .null := by
        cases known <;> exact decoded
      exact decodeInstance_ne_null decoded
  · cases decoded

/-- A key is decoded as expected, and is never absent. -/
theorem Loaded.decodeKey_sound (loaded : library.Loaded) {owner : Option String} {hint : TypeExpr}
    {type : HostType} (resolved : library.resolve hint = .ok type) {text : String}
    (sound : SoundAt library (.string text)) {value : Value}
    (decoded : library.decodeKey owner type (.text text)
      (library.decoder (.ofJson (.string text))) = .ok value) :
    value ≠ .null ∧ Typed library (.hint hint) value := by
  have invalid {value : Value} : (do
      let text ← library.shown (.text text)
      throw (onBehalf owner (.invalidKey text)) : Except CodecError Value) ≠ .ok value := by
    intro found
    obtain ⟨_, -, rest⟩ := Outcome.bind_ok.mp found
    cases rest
  unfold decodeKey at decoded
  split at decoded
  · obtain rfl := resolve_primitive resolved
    cases decoded
    exact ⟨by simp, .text _⟩
  · obtain rfl := resolve_primitive resolved
    cases decoded
    exact ⟨by simp, .bool _⟩
  · obtain rfl := resolve_primitive resolved
    obtain ⟨read, found, rest⟩ := Outcome.bind_ok.mp decoded
    cases found
    cases number : readInteger? text with
    | none =>
      rw [number] at rest
      exact absurd rest invalid
    | some number' =>
      rw [number] at rest
      cases rest
      exact ⟨by simp, .int _⟩
  · obtain rfl := resolve_primitive resolved
    obtain ⟨read, found, rest⟩ := Outcome.bind_ok.mp decoded
    cases found
    cases number : Double.read? text with
    | none =>
      rw [number] at rest
      exact absurd rest invalid
    | some number' =>
      rw [number] at rest
      cases rest
      exact ⟨by simp, .float _⟩
  · refine ⟨?_, sound.value (.hint resolved) decoded⟩
    rintro rfl
    exact loaded.decodeText_ne_null decoded

/-- The entries of a map are what is expected. -/
def TypedEntries (library : Library) (key value : TypeExpr) (entries : List (Value × Value)) :
    Prop :=
  ∀ entry ∈ entries, entry.1 ≠ .null ∧ Typed library (.hint key) entry.1 ∧
    Typed library (.hint value) entry.2

theorem TypedEntries.bindDecoded {key value : TypeExpr} {known bound : List (Value × Value)}
    (typed : TypedEntries library key value known) {entry : Value × Value}
    (added : entry.1 ≠ .null ∧ Typed library (.hint key) entry.1 ∧
      Typed library (.hint value) entry.2)
    (found : Library.bindDecoded known entry.1 entry.2 = .ok bound) :
    TypedEntries library key value bound := by
  have appended : TypedEntries library key value (known ++ [entry]) := by
    intro other member
    rcases List.mem_append.mp member with member | member
    · exact typed other member
    · rw [List.mem_singleton.mp member]
      exact added
  unfold Library.bindDecoded at found
  split at found
  · cases found
    exact appended
  split at found
  · cases found
    unfold Value.bindKey
    split
    · intro other member
      obtain ⟨origin, old, rfl⟩ := List.mem_map.mp member
      obtain ⟨present, keyTyped, valueTyped⟩ := typed origin old
      split
      · exact ⟨present, keyTyped, added.2.2⟩
      · exact ⟨present, keyTyped, valueTyped⟩
    · exact appended
  · cases found

/-- The entries of an object are bound one after the other; all that is bound is as expected. -/
theorem Loaded.decodeEntries_sound (loaded : library.Loaded) {owner : Option String}
    {key value : TypeExpr} {keyType valueType : HostType}
    (keyResolved : library.resolve key = .ok keyType)
    (valueResolved : library.resolve value = .ok valueType) {parts : List (String × Json)}
    (keys : ∀ entry ∈ parts, SoundAt library (.string entry.1))
    (values : ∀ entry ∈ parts, SoundAt library entry.2) {known entries : List (Value × Value)}
    (typed : TypedEntries library key value known)
    (folded : (parts.map fun entry => (Value.text entry.1,
      library.decoder (.ofJson (.string entry.1)), library.decoder (.ofJson entry.2))).foldlM
        (library.decodeEntry owner keyType valueType) known = .ok entries) :
    TypedEntries library key value entries := by
  induction parts generalizing known with
  | nil =>
    cases folded
    exact typed
  | cons part rest ih =>
    rw [List.map_cons, List.foldlM_cons, Outcome.bind_ok] at folded
    obtain ⟨next, entry, folded⟩ := folded
    obtain ⟨keyValue, keyDecoded, entry⟩ := Outcome.bind_ok.mp entry
    obtain ⟨partValue, decoded, bound⟩ := Outcome.bind_ok.mp entry
    obtain ⟨present, keyTyped⟩ :=
      loaded.decodeKey_sound keyResolved (keys part (List.mem_cons_self ..)) keyDecoded
    have valueTyped :=
      (values part (List.mem_cons_self ..)).value (.hint valueResolved) decoded
    have bound : bindDecoded known (keyValue, partValue).1 (keyValue, partValue).2 =
        .ok next := bound
    exact ih (fun entry member => keys entry (List.mem_cons_of_mem _ member))
      (fun entry member => values entry (List.mem_cons_of_mem _ member))
      (typed.bindDecoded ⟨present, keyTyped, valueTyped⟩ bound) folded

theorem Loaded.decodeContent_sound (loaded : library.Loaded) (clear : library.AllClear)
    (distinct : library.MethodsDistinct)
    {json : Json} (sound : SoundParts library json) {expected : Expected} {owner : Option String}
    {type : HostType} (denotes : Denotes library expected type) {value : Value}
    (decoded : library.decodeContent owner type (.ofJson json)
      (json.items.map fun item => library.decoder (.ofJson item)) (library.entryDecodersOf json) =
      .ok value) : Typed library expected value := by
  have ofClass {known : Class} (member : known ∈ library.classes)
      (decoded : library.decodeContent owner (library.typeOf known) (.ofJson json)
        (json.items.map fun item => library.decoder (.ofJson item))
        (library.entryDecodersOf json) = .ok value) :
      Typed library (.instanceOf known) value := by
    simp only [decodeContent, loaded.form_typeOf clear.nested member,
      loaded.decodingClass] at decoded
    exact loaded.decodeAsClass_sound clear distinct member sound decoded
  cases denotes with
  | instanceOf member => exact ofClass member decoded
  | @hint hint _ resolved =>
    cases hint with
    | named name =>
      rcases typeNamed_ok resolved with ⟨known, found, rfl⟩ | ⟨-, ⟨rfl, rfl⟩ | ⟨rfl, rfl⟩ |
        ⟨rfl, rfl⟩ | ⟨rfl, rfl⟩ | ⟨rfl, rfl⟩ | ⟨rfl, rfl⟩⟩
      · exact .named found (ofClass (mem_of_at? found).1 decoded)
      · cases json with
        | bool => cases decoded; exact .bool _
        | _ => exact absurd decoded onData_ne_ok
      · cases json with
        | int => cases decoded; exact .int _
        | _ => exact absurd decoded onData_ne_ok
      · cases json with
        | int number =>
          have decoded : widen number = .ok value := decoded
          unfold widen at decoded
          split at decoded
          · cases decoded
          · cases decoded
            exact .float _
        | float => cases decoded; exact .float _
        | _ => exact absurd decoded onData_ne_ok
      · cases json with
        | string => cases decoded; exact .text _
        | _ => exact absurd decoded onData_ne_ok
      · cases json <;> cases decoded
      · cases json <;> cases decoded
    | list item =>
      obtain ⟨itemType, itemResolved, rfl⟩ := resolve_list resolved
      cases json with
      | array parts =>
        obtain ⟨items, each, rest⟩ := Outcome.bind_ok.mp decoded
        obtain rfl := Outcome.pure_ok.mp rest
        rw [Outcome.mapM_ok, List.forall₂_map_left_iff] at each
        refine .list fun value member => ?_
        obtain ⟨part, inside, decoded⟩ := Outcome.exists_related each.flip member
        exact (sound.items part inside).value (.hint itemResolved) decoded
      | _ => cases decoded
    | map key value =>
      obtain ⟨keyType, valueType, keyResolved, valueResolved, rfl⟩ := resolve_map resolved
      cases json with
      | object parts =>
        obtain ⟨entries, folded, rest⟩ := Outcome.bind_ok.mp decoded
        obtain rfl := Outcome.pure_ok.mp rest
        have start : TypedEntries library key value [] := by simp [TypedEntries]
        have typed := loaded.decodeEntries_sound keyResolved valueResolved sound.keys sound.values
          start folded
        exact .map (fun entry member => (typed entry member).1)
          (fun entry member => (typed entry member).2.1)
          (fun entry member => (typed entry member).2.2)
      | _ => cases decoded

theorem Loaded.decodeValue_sound (loaded : library.Loaded) (clear : library.AllClear)
    (distinct : library.MethodsDistinct)
    {json : Json} (sound : SoundParts library json) {expected : Expected} {owner : Option String}
    {type : HostType} (denotes : Denotes library expected type) {value : Value}
    (decoded : library.decodeValue owner type (.ofJson json)
      (json.items.map fun item => library.decoder (.ofJson item)) (library.entryDecodersOf json) =
      .ok value) : Typed library expected value := by
  unfold decodeValue at decoded
  split at decoded
  · cases decoded
    exact .null
  split at decoded
  · rename_i content found
    rw [denotes.content?] at found
    cases found
    exact loaded.decodeContent_sound clear distinct sound denotes decoded
  · cases decoded

/-- Each slot is decoded from the item at its place. -/
theorem slots_sound {owner : Option String} {hints : List TypeExpr} {types : List HostType}
    (resolved : List.Forall₂ (fun hint type => library.resolve hint = .ok type) hints types)
    {parts : List Json} (sound : ∀ part ∈ parts, SoundAt library part)
    (length : parts.length = types.length) {items : List Value}
    (each : List.Forall₂ (fun (pair : Decoder × HostType) item =>
      pair.1 (.value owner pair.2) = .ok item)
      ((parts.map fun part => library.decoder (.ofJson part)).zip types) items) :
    List.Forall₂ (fun hint item => Typed library (.hint hint) item) hints items := by
  induction resolved generalizing parts items with
  | nil =>
    rw [List.zip_nil_right] at each
    cases each
    exact .nil
  | cons head _ ih =>
    cases parts with
    | nil => cases length
    | cons part rest =>
      cases each with
      | cons decoded others =>
        refine .cons ((sound part (List.mem_cons_self ..)).value (.hint head) decoded) ?_
        exact ih (fun part member => sound part (List.mem_cons_of_mem _ member))
          (Nat.succ.inj length) others

theorem Loaded.soundAt_of_parts (loaded : library.Loaded) (clear : library.AllClear)
    (distinct : library.MethodsDistinct) {json : Json} (sound : SoundParts library json) :
    SoundAt library json := by
  constructor
  · intro expected owner type value denotes decoded
    rw [decoder_ofJson] at decoded
    exact loaded.decodeValue_sound clear distinct sound denotes decoded
  · intro className key hints types payload resolved decoded
    rw [decoder_ofJson] at decoded
    have decoded : library.decodeSlots className key types (.ofJson json)
      (json.items.map fun item => library.decoder (.ofJson item)) (library.entryDecodersOf json) =
      .ok payload := decoded
    unfold decodeSlots at decoded
    split at decoded
    · obtain ⟨value, found, rest⟩ := Outcome.bind_ok.mp decoded
      obtain rfl := Outcome.pure_ok.mp rest
      cases resolved with
      | cons first none =>
        cases none
        refine ⟨[value], rfl, .cons ?_ .nil⟩
        exact loaded.decodeValue_sound clear distinct sound (.hint first) found
    · split at decoded
      · rename_i length
        obtain ⟨items, each, rest⟩ := Outcome.bind_ok.mp decoded
        obtain rfl := Outcome.pure_ok.mp rest
        rw [List.length_map] at length
        exact ⟨items, rfl, slots_sound resolved sound.items length (Outcome.mapM_ok.mp each)⟩
      · cases decoded
    · cases decoded

/-- Whatever the data, it is decoded as expected. -/
theorem Loaded.soundAt (loaded : library.Loaded) (clear : library.AllClear)
    (distinct : library.MethodsDistinct) (json : Json) : SoundAt library json := by
  induction json using Json.byParts with
  | step json items values =>
    -- Keys are no parts of the data, but texts have no parts of their own.
    refine loaded.soundAt_of_parts clear distinct ⟨items, fun entry _ => ?_, values⟩
    exact loaded.soundAt_of_parts clear distinct
      ⟨by simp [Json.items], by simp [Json.entries], by simp [Json.entries]⟩

/-- Decoding is sound: in a package whose names do not clash, what is decoded as a type is a value
of that type at every depth, whatever the data. -/
theorem decode_sound {package : String} {model : Model} {types : List HostType}
    {before after : Memory}
    (loads : (Library.ofTypes package model types).run.run before = (.ok library, after))
    (clear : library.AllClear) (distinct : library.MethodsDistinct) {expected : Expected}
    {type : HostType}
    (denotes : Denotes library expected type) {json : Json} {owner : Option String} {value : Value}
    (decoded : library.decode json type owner = .ok value) : Typed library expected value :=
  ((Library.ofTypes_ok loads).1.soundAt clear distinct json).value denotes decoded

def sampleRef (serial : Nat) (name : String) (category : Category) : ClassRef where
  serial := serial
  module := "models"
  qualifiedName := name
  name := name
  category := category
  parameters := []
  brackets := .none

/-- A declaration in that module. -/
def sampleClass (ref : ClassRef) (fields : List (String × HostType)) (members : List Member)
    (variants : List WireModel.Variant) : ClassDecl where
  ref := ref
  bases := []
  parents := [.language "object"]
  ancestry := [.declared ref, .language "object"]
  annotations := some fields
  entries :=
    if ref.category = .record then some (fields.map fun field => ⟨field.1, .field, field.2, none⟩)
    else none
  memberNames := members
  members := members
  variants := variants

def colorRef : ClassRef :=
  sampleRef 0 "Color" (.enumeration .plain)

def shapeRef : ClassRef :=
  sampleRef 1 "Shape" .dataEnum

def drawingRef : ClassRef :=
  sampleRef 2 "Drawing" .record

/-- Drawings are made of shapes, which may hold other shapes. -/
def drawingModel : Model where
  classes := [
    sampleClass colorRef [] [⟨"RED", .string "red"⟩, ⟨"BLUE", .int 2⟩] [],
    sampleClass shapeRef [] [] [
      ⟨"Empty", .unit, none⟩,
      ⟨"Circle", .tuple [.primitive .float], none⟩,
      ⟨"Pair", .tuple [.primitive .int, .declared shapeRef], some "pair"⟩,
      ⟨"Framed", .object [("inner", .declared shapeRef), ("color", .declared colorRef)], none⟩],
    sampleClass drawingRef [
      ("shapes", .applied (.list .native) [.declared shapeRef]),
      ("counts", .applied (.map .native) [.declared colorRef, .primitive .int])] [] []]
  bindings := [⟨"models", "Color", colorRef⟩, ⟨"models", "Shape", shapeRef⟩,
    ⟨"models", "Drawing", drawingRef⟩]
  typeVariables := []

def colorEnum : Schema.Enumeration :=
  ⟨.ofPascal "Color", "Color", [⟨.ofUpperSnake "RED", "red"⟩, ⟨.ofUpperSnake "BLUE", "BLUE"⟩]⟩

def framedFields : List Field :=
  [⟨.ofSnake "inner", "inner", .named "Shape"⟩, ⟨.ofSnake "color", "color", .named "Color"⟩]

def shapeEnum : DataEnum :=
  ⟨.ofPascal "Shape", "Shape", .external, [
    ⟨.ofPascal "Empty", "Empty", .unit⟩,
    ⟨.ofPascal "Circle", "Circle", .tuple [.named "float"]⟩,
    ⟨.ofPascal "Pair", "pair", .tuple [.named "int", .named "Shape"]⟩,
    ⟨.ofPascal "Framed", "Framed", .object framedFields⟩]⟩

def drawingFields : List Field :=
  [⟨.ofSnake "shapes", "shapes", .list (.named "Shape")⟩,
    ⟨.ofSnake "counts", "counts", .map (.named "Color") (.named "int")⟩]

def drawingClass : Class :=
  .record (.top "Drawing") "Drawing" drawingFields

def drawingLibrary : Library where
  package := "sample"
  entities := [.record ⟨.ofPascal "Drawing", "Drawing", drawingFields⟩, .enumeration colorEnum,
    .dataEnum shapeEnum]

def drawingRun : Except Failure Library × Memory :=
  (Library.ofTypes "sample" drawingModel [.declared drawingRef]).run.run .empty

theorem drawingRun_succeeds : drawingRun = (.ok drawingLibrary, drawingRun.2) := by
  refine made_of_parts rfl ?_
  rw [drawingRun, Library.ofTypes, Schema.ofTypes_eq_paired (by decide +kernel)]
  decide +kernel

theorem drawingLibrary_clear : drawingLibrary.AllClear := by
  intro entity member
  obtain rfl : entity = shapeEnum := by simpa [drawingLibrary] using member
  constructor <;> decide +kernel

theorem drawingLibrary_methods : drawingLibrary.MethodsDistinct := by
  intro entity member
  obtain rfl : entity = shapeEnum := by simpa [drawingLibrary] using member
  decide +kernel

def drawingJson : Json :=
  .object [
    ("shapes", .array [.string "Empty", .null, .object [("pair", .array [.int 1,
      .object [("Framed", .object [("inner", .string "Empty"), ("color", .string "red")])]])]]),
    ("counts", .object [("BLUE", .int 2)])]

def shape (name tag : String) (payload : Value) : Value :=
  .choice "Shape" (.constant (.nested "Shape" "Variant") name tag) payload

def framedShape : Value :=
  shape "FRAMED" "Framed" (.record (.nested "Shape" "Framed")
    [("inner", shape "EMPTY" "Empty" .null), ("color", .constant (.top "Color") "RED" "red")])

def drawing : Value :=
  .record (.top "Drawing") [
    ("shapes", .list [shape "EMPTY" "Empty" .null, .null,
      shape "PAIR" "Pair" (.tuple [.int 1, framedShape])]),
    ("counts", .map [(.constant (.top "Color") "BLUE" "BLUE", .int 2)])]

theorem drawing_decoded :
    drawingLibrary.decode drawingJson (drawingLibrary.typeOf drawingClass) none = .ok drawing := by
  rfl

theorem decode_sound_drawing :
    drawingLibrary.decode drawingJson (drawingLibrary.typeOf drawingClass) none = .ok drawing ∧
      Typed drawingLibrary (.hint (.named "Drawing")) drawing := by
  have denotes : Denotes drawingLibrary (.hint (.named "Drawing"))
      (drawingLibrary.typeOf drawingClass) := .hint rfl
  exact ⟨drawing_decoded,
    decode_sound drawingRun_succeeds drawingLibrary_clear drawingLibrary_methods denotes
      drawing_decoded⟩

end Library

end Codec

end WireModel
