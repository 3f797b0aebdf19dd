import WireModel.Proofs.Codec.Typing

/-!
Decoding data from its parts: a record from the entries of an object, a data enum from the tag that
it shows, and slots from the items of an array.
-/

namespace WireModel

namespace Json

def items : Json → List Json
  | .array items => items
  | _ => []

def entries : Json → List (String × Json)
  | .object entries => entries
  | _ => []

theorem sizeOf_lt_of_mem_items {json item : Json} (member : item ∈ json.items) :
    sizeOf item < sizeOf json := by
  cases json with
  | array parts =>
    have smaller : sizeOf item < sizeOf parts := List.sizeOf_lt_of_mem member
    rw [array.sizeOf_spec]
    omega
  | _ => cases member

theorem sizeOf_lt_of_mem_entries {json : Json} {entry : String × Json}
    (member : entry ∈ json.entries) : sizeOf entry.2 < sizeOf json := by
  obtain ⟨key, value⟩ := entry
  cases json with
  | object parts =>
    have smaller : sizeOf (key, value) < sizeOf parts := List.sizeOf_lt_of_mem member
    rw [Prod.mk.sizeOf_spec] at smaller
    rw [object.sizeOf_spec]
    show sizeOf value < _
    omega
  | _ => cases member

/-- What holds of a value if it holds of its parts holds of all values. -/
theorem byParts {motive : Json → Prop}
    (step : ∀ json : Json, (∀ item ∈ json.items, motive item) →
      (∀ entry ∈ json.entries, motive entry.2) → motive json) (json : Json) : motive json :=
  step json (fun item _ => byParts step item) (fun entry _ => byParts step entry.2)
termination_by sizeOf json
decreasing_by
  · exact sizeOf_lt_of_mem_items ‹_›
  · exact sizeOf_lt_of_mem_entries ‹_›

end Json

namespace Codec

open Schema Text
open Render.Python (attributeName)

namespace Library

variable {library : Library}

private theorem itemDecoders_eq (items : List Json) :
    library.itemDecoders (Value.ofItems items) =
      items.map fun item => library.decoder (.ofJson item) := by
  induction items with
  | nil => rfl
  | cons item rest ih => rw [Value.ofItems, itemDecoders, ih, List.map_cons]

private theorem entryDecoders_eq (entries : List (String × Json)) :
    library.entryDecoders (Value.ofEntries entries) = entries.map fun entry =>
      (.text entry.1, library.decoder (.ofJson (.string entry.1)),
        library.decoder (.ofJson entry.2)) := by
  induction entries with
  | nil => rfl
  | cons entry rest ih =>
    obtain ⟨key, value⟩ := entry
    rw [Value.ofEntries, entryDecoders, ih, List.map_cons]
    rfl

/-- Data is decoded from the decoders of its parts. -/
theorem decoder_ofJson (json : Json) : library.decoder (.ofJson json) =
    library.decodeWith (.ofJson json)
      (json.items.map fun item => library.decoder (.ofJson item))
      (json.entries.map fun entry => (.text entry.1, library.decoder (.ofJson (.string entry.1)),
        library.decoder (.ofJson entry.2))) := by
  cases json with
  | array items => rw [Value.ofJson, decoder, itemDecoders_eq]; rfl
  | object entries => rw [Value.ofJson, decoder, entryDecoders_eq]; rfl
  | _ => rfl

def entryDecodersOf (library : Library) (json : Json) : List (Value × Decoder × Decoder) :=
  json.entries.map fun entry => (.text entry.1, library.decoder (.ofJson (.string entry.1)),
    library.decoder (.ofJson entry.2))

/-- Data for a class is decoded as that class does it, unless it is absent. -/
theorem Loaded.decoder_of_at? (loaded : library.Loaded) {path : ClassPath} {type : Class}
    (found : library.at? path = some type) (json : Json) (present : json ≠ .null)
    (owner : Option String) : library.decoder (.ofJson json) (.value owner (library.typeOf type)) =
      library.decodeAsClass type (.ofJson json) (library.entryDecodersOf json) := by
  have content : library.decodeContent owner (library.typeOf type) (.ofJson json)
      (json.items.map fun item => library.decoder (.ofJson item)) (library.entryDecodersOf json) =
      library.decodeAsClass type (.ofJson json) (library.entryDecodersOf json) := by
    simp only [decodeContent, loaded.form_of_at? found, loaded.decodingClass]
    rfl
  rw [decoder_ofJson, ← content]
  cases json with
  | null => exact absurd rfl present
  | _ => rfl

theorem Loaded.decoder_typeOf (loaded : library.Loaded) (nested : library.NestedDistinct)
    {type : Class} (known : type ∈ library.classes) (json : Json) (present : json ≠ .null)
    (owner : Option String) : library.decoder (.ofJson json) (.value owner (library.typeOf type)) =
      library.decodeAsClass type (.ofJson json) (library.entryDecodersOf json) :=
  loaded.decoder_of_at? (loaded.at?_path nested known) json present owner

/-- The entries of an object are at their keys. -/
theorem partAt?_entryDecodersOf {entries : List (String × Json)}
    (distinct : (entries.map Prod.fst).Nodup) {entry : String × Json} (member : entry ∈ entries) :
    partAt? (library.entryDecodersOf (.object entries)) entry.1 =
      some (library.decoder (.ofJson (.string entry.1)), library.decoder (.ofJson entry.2)) := by
  have inside : (Value.text entry.1, library.decoder (.ofJson (.string entry.1)),
      library.decoder (.ofJson entry.2)) ∈ library.entryDecodersOf (.object entries) :=
    List.mem_map.mpr ⟨entry, member, rfl⟩
  refine congrArg (Option.map Prod.snd) (Search.find?_unique inside ?_ ?_)
  · exact beq_self_eq_true entry.1
  intro part there same
  obtain ⟨other, known, rfl⟩ := List.mem_map.mp there
  rw [Search.eq_of_key distinct member known (beq_iff_eq.mp same)]

/-- Attributes whose names do not begin with two underscores can all be set. -/
theorem makeRecord_of_shown {path : ClassPath} {attributes : List (String × Value)}
    (shows : ∀ part ∈ attributes, isHidden part.1 = false) :
    makeRecord path attributes = .ok (.record path attributes) := by
  have checked : attributes.forM (fun part => checkAttribute part.1 part.2) = .ok () := by
    induction attributes with
    | nil => rfl
    | cons part rest ih =>
      have differs (name : String) (hidden : isHidden name = true) : part.1 ≠ name := by
        rintro rfl
        have shown := shows part (List.mem_cons_self ..)
        rw [hidden] at shown
        cases shown
      have first : checkAttribute part.1 part.2 = .ok () := by
        unfold checkAttribute
        split
        · rfl
        · rename_i same _
          exact absurd same (differs _ rfl)
        · rename_i same
          exact absurd same (differs _ rfl)
        · rename_i same
          exact absurd same (differs _ rfl)
        · rfl
      rw [List.forM_eq_forM, List.forM_cons, first, Outcome.ok_bind]
      exact ih fun part member => shows part (List.mem_cons_of_mem _ member)
  have unfolded : makeRecord path attributes = (do
      attributes.forM fun part => checkAttribute part.1 part.2
      return .record path attributes) := rfl
  rw [unfolded, checked]
  rfl

theorem makeRecord_of_plain {path : ClassPath} {attributes : List (String × Value)}
    (plain : ∀ part ∈ attributes, part.1.toList.head? ≠ some '_') :
    makeRecord path attributes = .ok (.record path attributes) :=
  makeRecord_of_shown fun part member => isHidden_of_plain (plain part member)

/-- A field is decoded from the part at its tag; without one it is absent. -/
def DecodesField (path : ClassPath) (entries : List (Value × Decoder × Decoder))
    (field : Field × HostType) (decoded : String × Value) : Prop :=
  Render.Python.keptName path.name (attributeName field.1) = attributeName field.1 ∧
    decoded.1 = attributeName field.1 ∧
    match partAt? entries field.1.tag with
    | some part => part.2 (.value (some path.name) field.2) = .ok decoded.2
    | none => decoded.2 = .null

theorem decodeField_ok {path : ClassPath} {entries : List (Value × Decoder × Decoder)}
    {field : Field × HostType} {decoded : String × Value} :
    decodeField path entries field = .ok decoded ↔ DecodesField path entries field decoded := by
  obtain ⟨name, part⟩ := decoded
  simp only [decodeField, DecodesField]
  by_cases kept : Render.Python.keptName path.name (attributeName field.1) = attributeName field.1
  · rw [if_neg (not_not.mpr kept)]
    rcases partAt? entries field.1.tag with _ | ⟨first, decoder⟩
    · simp only [Outcome.pure_ok, Prod.mk.injEq, kept, true_and]
    · simp only [Outcome.bind_ok, Outcome.pure_ok, Prod.mk.injEq, kept, true_and]
      constructor
      · rintro ⟨found, decoded, rfl, rfl⟩
        exact ⟨rfl, decoded⟩
      · rintro ⟨rfl, decoded⟩
        exact ⟨part, decoded, rfl, rfl⟩
  · rw [if_pos kept]
    simp only [kept, false_and, iff_false]
    exact Outcome.not_throw_bind_ok

theorem Loaded.decodeRecord_ok (loaded : library.Loaded) {path : ClassPath} {fields : List Field}
    {entries : List (Value × Decoder × Decoder)} {value : Value} :
    library.decodeRecord path fields entries = .ok value ↔
      path.hides codecName = false ∧ ∃ types attributes,
        List.Forall₂ (fun hint type => library.resolve hint = .ok type)
          (fields.map fun field => field.type) types ∧
        List.Forall₂ (DecodesField path entries) (fields.zip types) attributes ∧
        makeRecord path attributes = .ok value := by
  simp only [decodeRecord, loaded.unchanged, List.lookup_nil, Option.isSome_none,
    Bool.false_eq_true, if_false]
  cases hidden : path.hides codecName with
  | true =>
    rw [if_pos rfl]
    simp only [Bool.true_eq_false, false_and, iff_false]
    exact Outcome.not_throw_bind_ok
  | false =>
    simp only [Bool.false_eq_true, if_false, Outcome.bind_ok, resolveAll_ok, Outcome.mapM_ok,
      decodeField_ok, true_and]
    constructor
    · rintro ⟨types, resolved, attributes, decoded, made⟩
      exact ⟨types, attributes, resolved, decoded, made⟩
    · rintro ⟨types, attributes, resolved, decoded, made⟩
      exact ⟨types, resolved, attributes, decoded, made⟩

theorem eq_of_makeRecord_ok {path : ClassPath} {attributes : List (String × Value)} {value : Value}
    (made : makeRecord path attributes = .ok value) : value = .record path attributes := by
  obtain ⟨⟨⟩, -, rest⟩ := Outcome.bind_ok.mp made
  exact Outcome.pure_ok.mp rest

theorem mem_of_unitVariant? {tag : String} {variants : List Schema.Variant} {v : Schema.Variant}
    (found : unitVariant? tag variants = some v) :
    v ∈ variants ∧ v.payload = .unit ∧ v.tag = tag := by
  have holds := List.find?_some
    (p := fun v : Schema.Variant => v.payload == .unit && v.tag == tag) found
  simp only [Bool.and_eq_true, beq_iff_eq] at holds
  exact ⟨List.mem_of_find?_eq_some found, holds⟩

theorem mem_of_payloadVariant? {α : Type} {entries : List (Value × α)}
    {variants : List Schema.Variant} {v : Schema.Variant} {part : α}
    (found : payloadVariant? entries variants = some (v, part)) :
    v ∈ variants ∧ v.payload ≠ .unit ∧ partAt? entries v.tag = some part := by
  induction variants with
  | nil => cases found
  | cons w rest ih =>
    rw [payloadVariant?] at found
    split at found
    · obtain ⟨member, here⟩ := ih found
      exact ⟨List.mem_cons_of_mem _ member, here⟩
    · rename_i there carries
      cases found
      exact ⟨List.mem_cons_self .., carries, there⟩
    · obtain ⟨member, here⟩ := ih found
      exact ⟨List.mem_cons_of_mem _ member, here⟩

theorem partAt?_of_payloadVariant?_none {α : Type} {entries : List (Value × α)}
    {variants : List Schema.Variant} (absent : payloadVariant? entries variants = none)
    {v : Schema.Variant} (member : v ∈ variants) (carries : v.payload ≠ .unit) :
    partAt? entries v.tag = none := by
  induction variants with
  | nil => cases member
  | cons w rest ih =>
    rw [payloadVariant?] at absent
    split at absent
    · rename_i unit
      refine ih absent ((List.mem_cons.mp member).resolve_left ?_)
      rintro rfl
      exact carries unit
    · cases absent
    · rename_i missing _
      rcases List.mem_cons.mp member with rfl | later
      · exact missing
      · exact ih absent later

theorem method?_factory {entity : DataEnum} (distinct : ((methods entity).map Prod.fst).Nodup)
    {v : Schema.Variant} (member : v ∈ entity.variants) :
    Codec.method? entity (factoryName v) = some (.factory v) := by
  apply Search.lookup_reverse_of_mem distinct
  exact List.mem_flatMap.mpr ⟨v, member, List.mem_cons_self ..⟩

/-- Where the methods of a data enum are apart, the types of the slots of a variant are its own. -/
theorem slotTypes_ok {entity : DataEnum} (distinct : ((methods entity).map Prod.fst).Nodup)
    {v : Schema.Variant} {slots : List TypeExpr} (member : v ∈ entity.variants)
    (carries : v.payload = .tuple slots) {types : List HostType} :
    library.slotTypes entity v = .ok types ↔
      List.Forall₂ (fun hint type => library.resolve hint = .ok type) slots types := by
  simp only [Library.slotTypes, method?_factory distinct member, Method.parameterTypes, carries,
    resolveAll_ok]

theorem MethodsDistinct.slotTypes (distinct : library.MethodsDistinct) {entity : DataEnum}
    (known : .dataEnum entity ∈ library.classes) {v : Schema.Variant} {slots : List TypeExpr}
    (member : v ∈ entity.variants) (carries : v.payload = .tuple slots)
    {types : List HostType} : library.slotTypes entity v = .ok types ↔
      List.Forall₂ (fun hint type => library.resolve hint = .ok type) slots types :=
  slotTypes_ok (distinct entity (dataEnum_mem_classes.mp known).1) member carries

/-- More slots than one, or none, are decoded from an array with an item for each. -/
theorem decodeSlots_array {className key : String} {types : List HostType}
    (notOne : ∀ type, types ≠ [type]) {parts : List Json} {decoders : List Decoder}
    (length : decoders.length = types.length) {entries : List (Value × Decoder × Decoder)} :
    library.decodeSlots className key types (.ofJson (.array parts)) decoders entries = (do
      return .tuple (← (decoders.zip types).mapM fun pair =>
        pair.1 (.value (some className) pair.2))) := by
  unfold decodeSlots
  split
  · exact absurd rfl (notOne _)
  · rw [if_pos length]
  · rename_i _ notArray
    exact absurd rfl (notArray _)

end Library

end Codec

end WireModel
