import WireModel.Proofs.Codec.Typing

/-!
Encoding instances of generated classes: a record gives an object with an entry for each field, and
an instance of a data enum what its variant says. For this the names of a package must not get in
the way of each other.
-/

namespace WireModel.Codec

open Schema Text
open Render.Python (attributeName keptName)

/-- The names that generated classes use for something else: the codec and the classes and functions
of the language. -/
def reservedClassNames : List String :=
  [codecName, "bool", "int", "float", "str", "list", "dict", "isinstance"]

/-- The name of an attribute is kept as it is, and hides nothing that all instances have. -/
def isPlainAttribute (name : String) : Bool :=
  normalized name == name && name.toList.head? != some '_' && name != encoderName

/-- A variant carries nothing. -/
def isUnit (v : Schema.Variant) : Bool :=
  v.payload == .unit

namespace Library

/-- The names of a package do not clash: not those within a data enum, not the tags of the fields of
a record or of the variants of a data enum, and none of a class or an attribute with what generated
classes use otherwise. -/
structure Unambiguous (library : Library) : Prop where
  clear : library.AllClear
  fieldTags : ∀ path label fields, .record path label fields ∈ library.classes →
    (fields.map Field.tag).Nodup
  attributes : ∀ path label fields, .record path label fields ∈ library.classes →
    ∀ field ∈ fields, isPlainAttribute (attributeName field) = true
  unitTags : ∀ entity, .dataEnum entity ∈ library.classes →
    ((entity.variants.filter isUnit).map Schema.Variant.tag).Nodup
  payloadTags : ∀ entity, .dataEnum entity ∈ library.classes →
    ((entity.variants.filter fun v => !isUnit v).map Schema.Variant.tag).Nodup
  classNames : ∀ type ∈ library.classes, type.path.outermost ∉ reservedClassNames
  reaching : ∀ entity, .dataEnum entity ∈ library.classes → reachesItself entity.className = true

variable {library : Library}

/-- A class of the package has none of the reserved names. -/
theorem Unambiguous.className_ne (unambiguous : library.Unambiguous) {type : Class}
    (known : type ∈ library.classes) (name : String) (reserved : name ∈ reservedClassNames) :
    type.path.outermost ≠ name := by
  rintro rfl
  exact unambiguous.classNames type known reserved

theorem Unambiguous.hides (unambiguous : library.Unambiguous) {type : Class}
    (known : type ∈ library.classes) : type.path.hides codecName = false :=
  beq_eq_false_iff_ne.mpr (unambiguous.className_ne known _ (List.mem_cons_self ..))

/-- In a package of records only the fields and the names of the classes could clash. -/
theorem unambiguous_of_records (only : ∀ entity ∈ library.entities, ∃ made, entity = .record made)
    (apart : ∀ made, .record made ∈ library.entities → (made.fields.map Field.tag).Nodup ∧
      (∀ field ∈ made.fields, isPlainAttribute (attributeName field) = true) ∧
      made.className ∉ reservedClassNames) : library.Unambiguous := by
  have records {type : Class} (known : type ∈ library.classes) : ∃ made,
      .record made ∈ library.entities ∧
        type = .record (.top made.className) made.className made.fields := by
    obtain ⟨entity, member, -, inside⟩ := mem_classes.mp known
    obtain ⟨made, rfl⟩ := only entity member
    exact ⟨made, member, List.mem_singleton.mp inside⟩
  have noChoice {entity : DataEnum} : .dataEnum entity ∉ library.classes := by
    intro known
    obtain ⟨made, -, same⟩ := records known
    cases same
  constructor
  case clear =>
    intro entity member
    obtain ⟨made, same⟩ := only _ member
    cases same
  case fieldTags =>
    intro path label fields known
    obtain ⟨made, member, same⟩ := records known
    cases same
    exact (apart made member).1
  case attributes =>
    intro path label fields known
    obtain ⟨made, member, same⟩ := records known
    cases same
    exact (apart made member).2.1
  case unitTags => exact fun entity known => absurd known noChoice
  case payloadTags => exact fun entity known => absurd known noChoice
  case classNames =>
    intro type known
    obtain ⟨made, member, rfl⟩ := records known
    exact (apart made member).2.2
  case reaching => exact fun entity known => absurd known noChoice

theorem nodup_of_areParameters {className : String} {names : List String}
    (readable : Render.Python.areParameters className names = true) : names.Nodup := by
  simp only [Render.Python.areParameters, Bool.and_eq_true, Option.isNone_iff_eq_none] at readable
  exact (firstRepeated?_eq_none.mp readable.2).1.of_map _

/-- The attributes of a record are apart. -/
theorem Loaded.attributes_distinct (loaded : library.Loaded) {path : ClassPath} {label : String}
    {fields : List Field} (known : .record path label fields ∈ library.classes) :
    (fields.map attributeName).Nodup := by
  obtain ⟨entity, inside, -, made⟩ := mem_classes.mp known
  have readable := loaded.readable entity inside
  cases entity with
  | record entity =>
    cases List.mem_singleton.mp made
    simp only [Render.Python.isReadable, Render.Python.isReadableRecord, Bool.and_eq_true]
      at readable
    exact (List.nodup_cons.mp (nodup_of_areParameters readable.2)).2
  | enumeration => cases List.mem_singleton.mp made
  | dataEnum entity =>
    rcases List.mem_cons.mp made with same | nested
    · cases same
    rcases List.mem_cons.mp nested with same | holder
    · cases same
    obtain ⟨v, member, found⟩ := List.mem_filterMap.mp holder
    unfold Class.holder? at found
    split at found
    · rename_i carries
      cases found
      simp only [Render.Python.isReadable, Bool.and_eq_true, List.all_eq_true] at readable
      have ofVariant := readable.2 v (List.mem_reverse.mp member)
      simp only [Render.Python.isReadableVariant, carries, Render.Python.isReadableRecord,
        Bool.and_eq_true] at ofVariant
      exact (List.nodup_cons.mp (nodup_of_areParameters ofVariant.2.1.2)).2
    · cases found

theorem Loaded.fields? (loaded : library.Loaded) (nested : library.NestedDistinct)
    {path : ClassPath} {label : String} {fields : List Field}
    (known : .record path label fields ∈ library.classes) :
    library.fields? path = some fields := by
  have found := loaded.at?_path nested known
  simp only [Class.path] at found
  simp only [Library.fields?, found]

theorem encodeParts_eq (attributes : List (String × Value)) :
    library.encodeParts attributes = attributes.map fun part => (part.1,
      ⟨part.2, library.encode part.2, fun owner => library.encodeFirst owner part.2⟩) := by
  induction attributes with
  | nil => rfl
  | cons part rest ih => rw [encodeParts, ih, List.map_cons]

theorem partNamed_encodeParts {attributes : List (String × Value)}
    (distinct : (attributes.map Prod.fst).Nodup) {part : String × Value}
    (member : part ∈ attributes) :
    encodedPart (library.encodeParts attributes) part.1 = library.encode part.2 := by
  have found : (library.encodeParts attributes).lookup part.1 = some
      ⟨part.2, library.encode part.2, fun owner => library.encodeFirst owner part.2⟩ := by
    rw [encodeParts_eq]
    apply Search.lookup_of_mem
    · simpa only [List.map_map, Function.comp_def] using distinct
    · exact List.mem_map.mpr ⟨part, member, rfl⟩
  simp only [encodedPart, partNamed, found]
  rfl

private theorem fields_encoded {attributes : List (String × Value)}
    (distinct : (attributes.map Prod.fst).Nodup) {fields : List Field}
    {own : List (String × Value)} (inside : ∀ part ∈ own, part ∈ attributes)
    (named : List.Forall₂ (fun field part => Prod.fst part = attributeName field) fields own)
    {entries : List Json}
    (encoded : List.Forall₂ (fun (part : String × Value) json => library.encode part.2 = .ok json)
      own entries) :
    List.Forall₂ (fun field entry => (do
      return (field.tag,
        ← encodedPart (library.encodeParts attributes) (attributeName field))) =
      (.ok entry : Except CodecError (String × Json)))
      fields ((fields.map Field.tag).zip entries) := by
  induction named generalizing entries with
  | nil => exact .nil
  | cons same _ ih =>
    cases encoded with
    | cons head rest =>
      refine .cons ?_ (ih (fun part member => inside part (List.mem_cons_of_mem _ member)) rest)
      rw [← same, partNamed_encodeParts distinct (inside _ (List.mem_cons_self ..)), head]
      rfl

/-- An instance that hides no encoder is encoded as its class does it. -/
theorem Loaded.encodeInstance (loaded : library.Loaded) {path : ClassPath}
    {parts : List (String × EncodedPart)} (hides : parts.lookup encoderName = none) :
    library.encodeInstance path parts = library.encodeAs path path parts := by
  rw [Library.encodeInstance, hides, loaded.provider]
  rfl

/-- A record is an object with an entry for each field, by its tag. -/
theorem Loaded.encode_record (loaded : library.Loaded) (unambiguous : library.Unambiguous)
    {path : ClassPath} {label : String} {fields : List Field}
    (known : .record path label fields ∈ library.classes) {attributes : List (String × Value)}
    (named : attributes.map Prod.fst = fields.map attributeName) {entries : List Json}
    (encoded : List.Forall₂ (fun (part : String × Value) json => library.encode part.2 = .ok json)
      attributes entries) :
    library.encode (.record path attributes) =
      .ok (.object ((fields.map Field.tag).zip entries)) := by
  have nested := unambiguous.clear.nested
  have hides : (library.encodeParts attributes).lookup encoderName = none := by
    rw [List.lookup_eq_none_iff, encodeParts_eq]
    intro part member
    obtain ⟨origin, inside, rfl⟩ := List.mem_map.mp member
    have isName : origin.1 ∈ fields.map attributeName :=
      named ▸ List.mem_map_of_mem inside
    obtain ⟨field, owned, same⟩ := List.mem_map.mp isName
    have plain := unambiguous.attributes _ _ _ known field owned
    simp only [isPlainAttribute, Bool.and_eq_true, bne_iff_ne] at plain
    rw [bne_iff_ne, ← same]
    exact plain.2.symm
  have visible := unambiguous.hides known
  simp only [Class.path] at visible
  have listed : List.Forall₂ (fun field part => Prod.fst part = attributeName field)
      fields attributes := by
    have same : List.Forall₂ Eq (attributes.map Prod.fst) (fields.map attributeName) := by
      rw [List.forall₂_eq_eq_eq]
      exact named
    rw [List.forall₂_map_left_iff, List.forall₂_map_right_iff] at same
    exact same.flip
  have distinct : (attributes.map Prod.fst).Nodup := named ▸ loaded.attributes_distinct known
  have fieldsEncoded := Outcome.mapM_ok.mpr
    (fields_encoded distinct (fun _ member => member) listed encoded)
  have found := loaded.at?_path nested known
  simp only [Class.path] at found
  have same : (fields.map Field.tag).length = entries.length := by
    rw [List.length_map, listed.length_eq, encoded.length_eq]
  have distinct : (((fields.map Field.tag).zip entries).map Prod.fst).Nodup := by
    rw [List.map_fst_zip (by omega)]
    exact unambiguous.fieldTags _ _ _ known
  have bound := Search.foldl_bindEntry distinct
  rw [encode, loaded.encodeInstance hides, encodeAs, found]
  simp only [visible, Bool.false_eq_true, if_false, encodeFields, loaded.changed?,
    loaded.fields? nested known, fieldsEncoded, Outcome.ok_bind, bound]
  rfl

theorem Loaded.dataEnum? (loaded : library.Loaded) (nested : library.NestedDistinct)
    {entity : DataEnum} (known : .dataEnum entity ∈ library.classes) :
    library.dataEnum? entity.className = some entity := by
  have found := loaded.at?_path nested known
  simp only [Class.path] at found
  simp only [Library.dataEnum?, found]

/-- A discriminant leads to the variant that declares it. -/
theorem Clear.variantOf? {entity : DataEnum} (clear : Clear entity)
    (reaching : reachesItself entity.className = true) {v : Schema.Variant}
    {variants : List Schema.Variant} (inside : ∀ w ∈ variants, w ∈ entity.variants)
    (member : v ∈ variants) :
    Codec.variantOf? entity (declaredDiscriminant entity v) variants = .ok (some v) := by
  induction variants with
  | nil => cases member
  | cons w rest ih =>
    have own : ownDiscriminant entity w = .ok (declaredDiscriminant entity w) := by
      rw [ownDiscriminant, if_pos reaching, clear.discriminant (inside w (List.mem_cons_self ..))]
    rw [Codec.variantOf?, own, Outcome.ok_bind]
    by_cases same : v = w
    · subst same
      have identical : (declaredDiscriminant entity v).isIdentical (declaredDiscriminant entity v) =
          true := by
        simp [declaredDiscriminant, discriminantOf, Value.isIdentical, Value.constant?]
      rw [if_pos identical]
      rfl
    · have later : v ∈ rest := (List.mem_cons.mp member).resolve_left same
      have differ : (declaredDiscriminant entity v).isIdentical (declaredDiscriminant entity w) =
          false := by
        simp only [declaredDiscriminant, discriminantOf, Value.isIdentical, Value.constant?,
          beq_eq_false_iff_ne, ne_eq, Prod.mk.injEq, true_and]
        intro named
        exact same (Search.eq_of_key clear.constants (inside w (List.mem_cons_self ..))
          (inside v member) named)
      rw [differ]
      exact ih (fun w member => inside w (List.mem_cons_of_mem _ member)) later

/-- The payload of an instance of a data enum, with what it is encoded as. -/
def encodedPayload (library : Library) (payload : Value) : EncodedPart :=
  ⟨payload, library.encode payload, fun known => library.encodeFirst known payload⟩

/-- An instance of a data enum is encoded as its variant says. -/
theorem Loaded.encode_choice (loaded : library.Loaded) (unambiguous : library.Unambiguous)
    {entity : DataEnum} (known : .dataEnum entity ∈ library.classes) {v : Schema.Variant}
    (member : v ∈ entity.variants) {payload : Value} :
    library.encode (.choice entity.className (declaredDiscriminant entity v) payload) =
      encodeVariant entity.className v (.ok (library.encodedPayload payload)) := by
  have nested := unambiguous.clear.nested
  have found := loaded.at?_path nested known
  simp only [Class.path] at found
  have chosen := (unambiguous.clear.ofClass known).variantOf?
    (unambiguous.reaching entity known) (fun _ inside => inside) member
  rw [encode, loaded.encodeInstance (by rfl), encodeAs, found]
  have first {α : Type} (one two : α) :
      partNamed [("_variant", one), ("_value", two)] "_variant" = .ok one := rfl
  have second {α : Type} (one two : α) :
      partNamed [("_variant", one), ("_value", two)] "_value" = .ok two := rfl
  have isSet : (declaredDiscriminant entity v).isSet = true := rfl
  simp only [encodeChoice, loaded.dataEnum? nested known, first, second, Outcome.ok_bind, isSet,
    Bool.not_true, Bool.false_eq_true, if_false, chosen]
  rfl

/-- The owner of a payload does not change what it is encoded as. -/
theorem Unambiguous.encodedByOwner (unambiguous : library.Unambiguous) {entity : DataEnum}
    (known : .dataEnum entity ∈ library.classes) (value : Value)
    (encoded : Except CodecError Json) :
    Codec.encodedByOwner entity.className value encoded = encoded := by
  have other := unambiguous.className_ne known codecName (List.mem_cons_self ..)
  exact if_pos other

theorem Loaded.encode_unit (loaded : library.Loaded) (unambiguous : library.Unambiguous)
    {entity : DataEnum} (known : .dataEnum entity ∈ library.classes) {v : Schema.Variant}
    (member : v ∈ entity.variants) (carries : v.payload = .unit) {payload : Value} :
    library.encode (.choice entity.className (declaredDiscriminant entity v) payload) =
      .ok (.string v.tag) := by
  rw [loaded.encode_choice unambiguous known member, encodeVariant, carries]

/-- The only slot stands at the tag by itself. -/
theorem Loaded.encode_slot (loaded : library.Loaded) (unambiguous : library.Unambiguous)
    {entity : DataEnum} (known : .dataEnum entity ∈ library.classes) {v : Schema.Variant}
    (member : v ∈ entity.variants) {slot : TypeExpr} (carries : v.payload = .tuple [slot])
    {item : Value} {json : Json} (encoded : library.encode item = .ok json) :
    library.encode (.choice entity.className (declaredDiscriminant entity v) (.tuple [item])) =
      .ok (.object [(v.tag, json)]) := by
  rw [loaded.encode_choice unambiguous known member, encodeVariant, carries]
  simp only [Outcome.ok_bind, encodedPayload, encodeFirst,
    unambiguous.encodedByOwner known, encoded]
  rfl

/-- Any other payload stands at the tag as a whole. -/
theorem Loaded.encode_payload (loaded : library.Loaded) (unambiguous : library.Unambiguous)
    {entity : DataEnum} (known : .dataEnum entity ∈ library.classes) {v : Schema.Variant}
    (member : v ∈ entity.variants) (carries : v.payload ≠ .unit)
    (notOne : ∀ slot, v.payload ≠ .tuple [slot]) {payload : Value} {json : Json}
    (encoded : library.encode payload = .ok json) :
    library.encode (.choice entity.className (declaredDiscriminant entity v) payload) =
      .ok (.object [(v.tag, json)]) := by
  rw [loaded.encode_choice unambiguous known member]
  unfold encodeVariant
  split
  · rename_i same
    exact absurd same carries
  · rename_i same
    exact absurd same (notOne _)
  · simp only [Outcome.ok_bind, encodedPayload, unambiguous.encodedByOwner known, encoded]
    rfl

theorem encodeItems_eq (items : List Value) :
    library.encodeItems items = items.mapM library.encode := by
  induction items with
  | nil => rfl
  | cons item rest ih =>
    rw [encodeItems, List.mapM_cons, ih]

theorem encodeEntries_eq (entries : List (Value × Value)) :
    library.encodeEntries entries = entries.mapM fun entry => do
      let key ← library.keyText entry.1
      return (key, ← library.encode entry.2) := by
  induction entries with
  | nil => rfl
  | cons entry rest ih =>
    obtain ⟨key, value⟩ := entry
    rw [encodeEntries, List.mapM_cons, ih]
    rcases library.keyText key with _ | text
    · rfl
    · rcases library.encode value with _ | json <;> rfl

end Library

end WireModel.Codec
