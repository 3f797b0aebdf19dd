import WireModel.Proofs.Codec.RoundTrip

/-!
What decodes as a variant of a data enum: a text as the first unit variant of that tag, and an
object as the first variant with a payload whose tag is a key. Nothing else in the object matters.
-/

namespace WireModel.Codec

open Schema Text

/-- The first variant with a payload whose tag is a key of an object, and what stands at the key. -/
def shownVariant? (entries : List (String × Json)) (variants : List Schema.Variant) :
    Option (Schema.Variant × Json) :=
  variants.findSome? fun v =>
    if isUnit v then none else (entries.lookup v.tag).map fun part => (v, part)

/-- Data enums of these names hide what their own decoders use. -/
def hidingNames : List String :=
  [codecName, "str", "dict", "isinstance"]

theorem shownVariant?_cons {entries : List (String × Json)} {v : Schema.Variant}
    {rest : List Schema.Variant} : shownVariant? entries (v :: rest) =
      if isUnit v then shownVariant? entries rest
      else match entries.lookup v.tag with
        | some part => some (v, part)
        | none => shownVariant? entries rest := by
  rw [shownVariant?, List.findSome?_cons]
  by_cases unit : isUnit v
  · simp [unit, shownVariant?]
  · cases entries.lookup v.tag <;> simp [unit, shownVariant?]

theorem mem_of_shownVariant? {entries : List (String × Json)} {variants : List Schema.Variant}
    {v : Schema.Variant} {part : Json} (found : shownVariant? entries variants = some (v, part)) :
    v ∈ variants ∧ v.payload ≠ .unit ∧ entries.lookup v.tag = some part := by
  obtain ⟨w, member, here⟩ := List.exists_of_findSome?_eq_some found
  split at here
  · cases here
  · rename_i carries
    obtain ⟨other, there, same⟩ := Option.map_eq_some_iff.mp here
    cases same
    exact ⟨member, by simpa [isUnit] using carries, there⟩

/-- A variant that is chosen for an object is chosen for what stands at its tag alone. -/
theorem shownVariant?_alone {entries : List (String × Json)} {variants : List Schema.Variant}
    {v : Schema.Variant} {part : Json} (found : shownVariant? entries variants = some (v, part)) :
    shownVariant? [(v.tag, part)] variants = some (v, part) := by
  have there := (mem_of_shownVariant? found).2.2
  induction variants with
  | nil => cases found
  | cons w rest ih =>
    rw [shownVariant?_cons] at found ⊢
    by_cases unit : isUnit w
    · rw [if_pos unit] at found ⊢
      exact ih found
    rw [if_neg unit] at found ⊢
    cases shown : entries.lookup w.tag with
    | some other =>
      rw [shown] at found
      cases found
      rw [List.lookup_cons_self]
    | none =>
      rw [shown] at found
      have differ : (w.tag == v.tag) = false := by
        rw [beq_eq_false_iff_ne]
        intro same
        rw [same, there] at shown
        cases shown
      rw [List.lookup_cons, differ]
      exact ih found

namespace Library

variable {library : Library}

/-- The part of the data is decoded as the payload of a variant: as its holder, as its only slot, or
item by item as its slots. -/
inductive DecodesPayload (library : Library) (entity : DataEnum) (v : Schema.Variant) :
    Json → Value → Prop
  | object {fields : List Field} {part : Json} {payload : Value} :
      v.payload = .object fields →
      library.decode part
        (library.typeOf (.record (Class.holderPath entity v) v.name.pascal fields))
        (some entity.className) = .ok payload →
      DecodesPayload library entity v part payload
  | slot {hint : TypeExpr} {type : HostType} {part : Json} {value : Value} :
      v.payload = .tuple [hint] → library.resolve hint = .ok type →
      library.decode part type (some entity.className) = .ok value →
      DecodesPayload library entity v part (.tuple [value])
  | slots {hints : List TypeExpr} {types : List HostType} {items : List Json}
      {values : List Value} :
      v.payload = .tuple hints → hints.length ≠ 1 →
      List.Forall₂ (fun hint type => library.resolve hint = .ok type) hints types →
      items.length = hints.length →
      List.Forall₂ (fun pair value =>
        library.decode pair.1 pair.2 (some entity.className) = .ok value) (items.zip types) values →
      DecodesPayload library entity v (.array items) (.tuple values)

/-- Data is decoded as a data enum by the order of its variants and by nothing else. -/
structure Selects (library : Library) (entity : DataEnum)
    (decode : Json → Except CodecError Value) : Prop where
  /-- A text chooses the first unit variant of that tag. -/
  text : ∀ tag, decode (.string tag) =
    match entity.variants.find? fun v => isUnit v && v.tag == tag with
    | some v => .ok (.choice entity.className (declaredDiscriminant entity v) .null)
    | none => .error (.mismatch (.unrecognized entity.className))
  /-- An object is decoded as what stands at the tag of the first variant that it shows. -/
  object : ∀ entries, decode (.object entries) =
    match shownVariant? entries entity.variants with
    | some (v, part) => decode (.object [(v.tag, part)])
    | none => .error (.mismatch (.unrecognized entity.className))
  /-- It is an instance of that variant exactly if the part is decoded as its payload. -/
  payload : ∀ entries v part, shownVariant? entries entity.variants = some (v, part) →
    ∀ value, decode (.object entries) = .ok value ↔ ∃ payload,
      DecodesPayload library entity v part payload ∧
        value = .choice entity.className (declaredDiscriminant entity v) payload
  /-- Nothing but texts and objects is decoded, apart from the absent value. -/
  other : ∀ json : Json, json ≠ .null → (∀ tag, json ≠ .string tag) →
    (∀ entries, json ≠ .object entries) →
    decode json = .error (.mismatch (.unrecognized entity.className))

theorem partAt?_object {entries : List (String × Json)} {key : String} :
    partAt? (library.entryDecodersOf (.object entries)) key =
      (entries.lookup key).map fun part =>
        (library.decoder (.ofJson (.string key)), library.decoder (.ofJson part)) := by
  induction entries with
  | nil => rfl
  | cons entry rest ih =>
    obtain ⟨name, part⟩ := entry
    have parts : library.entryDecodersOf (.object ((name, part) :: rest)) =
        (.text name, library.decoder (.ofJson (.string name)), library.decoder (.ofJson part)) ::
          library.entryDecodersOf (.object rest) := rfl
    rw [parts, partAt?, List.find?_cons, List.lookup_cons]
    by_cases same : name = key
    · simp [same]
    · have differ : (key == name) = false := beq_eq_false_iff_ne.mpr (Ne.symm same)
      simp only [beq_eq_false_iff_ne.mpr same, differ, ← ih]
      rfl

theorem payloadVariant?_object {entries : List (String × Json)} {variants : List Schema.Variant} :
    payloadVariant? (library.entryDecodersOf (.object entries)) variants =
      (shownVariant? entries variants).map fun chosen => (chosen.1,
        library.decoder (.ofJson (.string chosen.1.tag)), library.decoder (.ofJson chosen.2)) := by
  induction variants with
  | nil => rfl
  | cons v rest ih =>
    rw [payloadVariant?, shownVariant?_cons, partAt?_object, ih]
    cases carries : v.payload with
    | unit => simp [isUnit, carries]
    | tuple slots => cases entries.lookup v.tag <;> simp [isUnit, carries]
    | object fields => cases entries.lookup v.tag <;> simp [isUnit, carries]

/-- The only slot takes the part as it is. -/
theorem decoder_slot {className key : String} {type : HostType} {part : Json} {payload : Value} :
    library.decoder (.ofJson part) (.slots className key [type]) = .ok payload ↔
      ∃ value, library.decode part type (some className) = .ok value ∧
        payload = .tuple [value] := by
  have single : library.decoder (.ofJson part) (.slots className key [type]) = (do
      return .tuple [← library.decode part type (some className)]) := by
    rw [decode, decodeData, decoder_ofJson]
    rfl
  rw [single, Outcome.bind_ok]
  simp only [Outcome.pure_ok]

/-- More slots than one, or none, take the items of an array that has as many. -/
theorem decoder_slots {className key : String} {types : List HostType} (notOne : types.length ≠ 1)
    {part : Json} {payload : Value} :
    library.decoder (.ofJson part) (.slots className key types) = .ok payload ↔
      ∃ items values, part = .array items ∧ items.length = types.length ∧
        List.Forall₂ (fun pair value =>
          library.decode pair.1 pair.2 (some className) = .ok value) (items.zip types) values ∧
        payload = .tuple values := by
  have notSingle : ∀ type, types ≠ [type] := by
    rintro type rfl
    exact notOne rfl
  rw [decoder_ofJson]
  show library.decodeSlots className key types (.ofJson part)
    (part.items.map fun item => library.decoder (.ofJson item)) (library.entryDecodersOf part) =
    .ok payload ↔ _
  cases part with
  | array items =>
    by_cases length : items.length = types.length
    · have same : ((Json.array items).items.map fun item =>
          library.decoder (.ofJson item)).length = types.length := by
        rw [List.length_map]
        exact length
      rw [decodeSlots_array notSingle same, Outcome.bind_ok]
      simp only [Outcome.pure_ok, Json.items, List.zip_map_left, Outcome.mapM_ok,
        List.forall₂_map_left_iff]
      constructor
      · rintro ⟨values, each, rfl⟩
        exact ⟨items, values, rfl, length, each, rfl⟩
      · rintro ⟨others, values, same, -, each, rfl⟩
        cases same
        exact ⟨values, each, rfl⟩
    · have refused : library.decodeSlots className key types (.ofJson (.array items))
          ((Json.array items).items.map fun item => library.decoder (.ofJson item))
          (library.entryDecodersOf (.array items)) =
          .error (.mismatch (.slotCount className key types.length)) := by
        unfold decodeSlots
        split
        · exact absurd rfl (notSingle _)
        · rw [List.length_map]
          exact if_neg length
        · rfl
      rw [refused]
      constructor
      · intro failed
        cases failed
      · rintro ⟨others, values, same, fits, -⟩
        cases same
        exact absurd fits length
  | _ =>
    constructor
    · intro decoded
      unfold decodeSlots at decoded
      split at decoded
      · exact absurd rfl (notSingle _)
      · rename_i same
        cases same
      · cases decoded
    · rintro ⟨items, values, same, -⟩
      cases same

theorem Loaded.decodePayload_ok (loaded : library.Loaded) {entity : DataEnum}
    (distinct : ((methods entity).map Prod.fst).Nodup) (visible : entity.className ≠ codecName)
    {v : Schema.Variant} (member : v ∈ entity.variants) (carries : v.payload ≠ .unit) {part : Json}
    {payload : Value} :
    library.decodePayload entity v (library.decoder (.ofJson part)) = .ok payload ↔
      DecodesPayload library entity v part payload := by
  unfold decodePayload
  split
  · rename_i isUnit
    exact absurd isUnit carries
  · rename_i fields isObject
    rw [if_neg visible, loaded.nameOf]
    constructor
    · exact .object isObject
    · intro decodes
      cases decodes with
      | object same decoded =>
        cases isObject.symm.trans same
        exact decoded
      | slot same => cases isObject.symm.trans same
      | slots same => cases isObject.symm.trans same
  · rename_i hints isTuple
    rw [if_neg visible, Outcome.bind_ok, loaded.nameOf]
    simp only [slotTypes_ok distinct member isTuple]
    constructor
    · rintro ⟨types, resolved, decoded⟩
      by_cases one : types.length = 1
      · obtain ⟨type, rfl⟩ := List.length_eq_one_iff.mp one
        obtain ⟨value, found, rfl⟩ := decoder_slot.mp decoded
        cases resolved with
        | cons first none =>
          cases none
          exact .slot isTuple first found
      · obtain ⟨items, values, rfl, length, each, rfl⟩ := (decoder_slots one).mp decoded
        rw [← resolved.length_eq] at one length
        exact .slots isTuple one resolved length each
    · intro decodes
      cases decodes with
      | object same => cases isTuple.symm.trans same
      | slot same resolves decoded =>
        cases isTuple.symm.trans same
        exact ⟨_, .cons resolves .nil, decoder_slot.mpr ⟨_, decoded, rfl⟩⟩
      | slots same notOne resolved length each =>
        cases isTuple.symm.trans same
        rw [resolved.length_eq] at notOne length
        exact ⟨_, resolved, (decoder_slots notOne).mpr ⟨_, _, rfl, length, each, rfl⟩⟩

/-- Decoding as a data enum that hides nothing is choosing a variant and decoding its payload. -/
theorem Loaded.selects (loaded : library.Loaded) {entity : DataEnum}
    (known : .dataEnum entity ∈ library.classes) (apart : VariantsApart entity)
    (distinct : ((methods entity).map Prod.fst).Nodup) (visible : entity.className ∉ hidingNames)
    (owner : Option String) : Selects library entity fun json =>
      library.decode json (library.typeOf (.dataEnum entity)) owner := by
  simp only [hidingNames, List.mem_cons, List.not_mem_nil, or_false, not_or] at visible
  obtain ⟨notCodec, notText, notMap, notTest⟩ := visible
  have opened (json : Json) (present : json ≠ .null) :
      library.decode json (library.typeOf (.dataEnum entity)) owner =
        library.decodeAsClass (.dataEnum entity) (.ofJson json) (library.entryDecodersOf json) :=
    loaded.decoder_of_at? (loaded.at?_top known rfl) json present owner
  have refusal : unrecognized entity = .mismatch (.unrecognized entity.className) :=
    if_neg notCodec
  have ofObject (entries : List (String × Json)) :
      library.decode (.object entries) (library.typeOf (.dataEnum entity)) owner =
        match shownVariant? entries entity.variants with
        | some (v, part) => do
          let payload ← library.decodePayload entity v (library.decoder (.ofJson part))
          return .choice entity.className (declaredDiscriminant entity v) payload
        | none => .error (.mismatch (.unrecognized entity.className)) := by
    rw [opened (.object entries) (by simp)]
    show library.decodeChoice entity (library.entryDecodersOf (.object entries)) = _
    rw [decodeChoice, payloadVariant?_object]
    rcases found : shownVariant? entries entity.variants with _ | ⟨v, part⟩
    · rw [Option.map_none, ← refusal]
    · simp only [Option.map_some, notMap, notTest, or_self, if_false,
        apart.discriminant (mem_of_shownVariant? found).1, Outcome.ok_bind, loaded.provider]
      rfl
  constructor
  case text =>
    intro tag
    rw [opened (.string tag) (by simp)]
    show library.decodeTag entity tag = _
    have same : unitVariant? tag entity.variants =
        entity.variants.find? fun v => isUnit v && v.tag == tag := rfl
    rw [decodeTag, same]
    rcases found : entity.variants.find? fun v => isUnit v && v.tag == tag with _ | v
    · simp only [refusal]
    · have member := List.mem_of_find?_eq_some found
      simp only [notText, if_false, apart.discriminant member, loaded.provider, Outcome.ok_bind]
      rfl
  case object =>
    intro entries
    rcases found : shownVariant? entries entity.variants with _ | ⟨v, part⟩
    · simp only [ofObject, found]
    · simp only [ofObject, found, shownVariant?_alone found]
  case payload =>
    intro entries v part found value
    obtain ⟨member, carries, -⟩ := mem_of_shownVariant? found
    simp only [ofObject, found, Outcome.bind_ok, Outcome.pure_ok,
      loaded.decodePayload_ok distinct notCodec member carries]
  case other =>
    intro json present notTag notObject
    rw [opened _ present, ← refusal]
    cases json with
    | null => exact absurd rfl present
    | string tag => exact absurd rfl (notTag tag)
    | object entries => exact absurd rfl (notObject entries)
    | _ => rfl

/-- Data is decoded as a data enum of a package by the order of its variants and by nothing else, if
its discriminants and its methods are apart and its name hides nothing. -/
theorem decode_selects {package : String} {model : Model} {types : List HostType}
    {before after : Memory}
    (loads : (Library.ofTypes package model types).run.run before = (.ok library, after))
    {entity : DataEnum} (known : .dataEnum entity ∈ library.classes) (apart : VariantsApart entity)
    (distinct : ((methods entity).map Prod.fst).Nodup) (visible : entity.className ∉ hidingNames)
    (owner : Option String) : Selects library entity fun json =>
      library.decode json (library.typeOf (.dataEnum entity)) owner :=
  (Library.ofTypes_ok loads).1.selects known apart distinct visible owner

theorem decode_selects_drawing :
    VariantsApart shapeEnum ∧ ((methods shapeEnum).map Prod.fst).Nodup ∧
      shapeEnum.className ∉ hidingNames ∧
      Selects drawingLibrary shapeEnum fun json =>
        drawingLibrary.decode json (drawingLibrary.typeOf (.dataEnum shapeEnum)) none := by
  have inside : Entity.dataEnum shapeEnum ∈ drawingLibrary.entities := by
    simp [drawingLibrary]
  have known : .dataEnum shapeEnum ∈ drawingLibrary.classes := by
    simp [drawingLibrary_classes]
  have apart := (drawingLibrary_clear shapeEnum inside).apart
  have distinct := drawingLibrary_methods shapeEnum inside
  have visible : shapeEnum.className ∉ hidingNames := by decide
  exact ⟨apart, distinct, visible,
    decode_selects drawingRun_succeeds known apart distinct visible none⟩

/-- A circle is decoded although the key of a pair stands in front of its own. -/
example : drawingLibrary.decode (.object [("pair", .null), ("Circle", .float (.zero false))])
    (drawingLibrary.typeOf (.dataEnum shapeEnum)) none =
    .ok (shape "CIRCLE" "Circle" (.tuple [.float (.zero false)])) :=
  rfl

def textRef : ClassRef :=
  sampleRef 0 "str" .dataEnum

/-- A data enum of one unit variant, which is called like the type of texts. -/
def textModel : Model where
  classes := [sampleClass textRef [] [] [⟨"A", .unit, none⟩]]
  bindings := [⟨"models", "str", textRef⟩]
  typeVariables := []

def textEnum : DataEnum :=
  ⟨.ofPascal "str", "str", .external, [⟨.ofPascal "A", "A", .unit⟩]⟩

def textLibrary : Library where
  package := "sample"
  entities := [.dataEnum textEnum]

def textRun : Except Failure Library × Memory :=
  (Library.ofTypes "sample" textModel [.declared textRef]).run.run .empty

theorem textRun_succeeds : textRun = (.ok textLibrary, textRun.2) := by
  refine made_of_parts rfl ?_
  rw [textRun, Library.ofTypes, Schema.ofTypes_eq_paired (by decide +kernel)]
  decide +kernel

/-- Distinct names within a data enum are not enough: its own name may hide the type of texts, and
then no text is decoded as one of its unit variants. -/
theorem not_selects_hidden_text :
    ¬ ∀ (package : String) (model : Model) (types : List HostType) (before after : Memory)
      (library : Library),
      (Library.ofTypes package model types).run.run before = (.ok library, after) →
      ∀ entity, .dataEnum entity ∈ library.classes → Clear entity →
        ((methods entity).map Prod.fst).Nodup → ∀ owner,
        Selects library entity fun json =>
          library.decode json (library.typeOf (.dataEnum entity)) owner := by
  intro claimed
  have known : .dataEnum textEnum ∈ textLibrary.classes := List.mem_cons_self ..
  have clear : Clear textEnum := by constructor <;> decide
  have distinct : ((methods textEnum).map Prod.fst).Nodup := by decide
  have selects := claimed _ _ _ _ _ _ textRun_succeeds textEnum known clear distinct none
  have refused : textLibrary.decode (.string "A") (textLibrary.typeOf (.dataEnum textEnum)) none =
      .error (.mismatch (.unrecognized "str")) := rfl
  have chosen := selects.text "A"
  rw [refused] at chosen
  cases chosen

end Library
end WireModel.Codec
