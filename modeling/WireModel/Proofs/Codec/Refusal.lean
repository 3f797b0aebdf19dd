import WireModel.Proofs.Codec.RoundTrip

/-!
What decoding fails with. Data that does not fit is refused by a mismatch. Besides, an integer may
be beyond all doubles, and what an object has for a key may be decoded as an instance of a data
enum, which has no hash.
-/

namespace WireModel

/-- The value is the data or stands inside it, at any depth. -/
inductive Json.Within (part : Json) : Json → Prop
  | refl : Within part part
  | item {json item : Json} : item ∈ json.items → Within part item → Within part json
  | entry {json : Json} {entry : String × Json} :
      entry ∈ json.entries → Within part entry.2 → Within part json

def TypeExpr.mapKeys : TypeExpr → List TypeExpr
  | .named _ => []
  | .list item => item.mapKeys
  | .map key value => key :: (key.mapKeys ++ value.mapKeys)

namespace Codec

open Schema Text
open Outcome (FailsOnly failsOnly_ok failsOnly_error)
open Render.Python (attributeName keptName)

namespace Library

variable {library : Library}

def mapKeys (library : Library) : List TypeExpr :=
  library.classes.flatMap fun type => type.hints.flatMap TypeExpr.mapKeys

/-- Some map of the package has instances of the data enum for its keys. -/
def KeysMaps (library : Library) (entity : DataEnum) : Prop :=
  .dataEnum entity ∈ library.classes ∧
    ∃ key ∈ library.mapKeys, library.resolve key = .ok (library.typeOf (.dataEnum entity))

/-- How the data can be refused. -/
inductive Refusal (library : Library) (json : Json) : CodecError → Prop
  | mismatch (cause : Mismatch) : Refusal library json (.mismatch cause)
  /-- An integer in the data is beyond all doubles. -/
  | overflow {number : Int} {negative : Bool} :
      Json.Within (.int number) json → Double.ofInt number = .infinite negative →
      Refusal library json (.fault .overflow)
  /-- A key of an object in the data is the tag of a variant of a data enum which a map has for
  keys. -/
  | unhashable {part : Json} {entry : String × Json} {entity : DataEnum} {v : Schema.Variant} :
      Json.Within part json → entry ∈ part.entries → library.KeysMaps entity →
      unitVariant? entry.1 entity.variants = some v → Refusal library json (.fault .wrongType)

/-- What refuses a part of the data refuses the data. -/
theorem Refusal.within {part json : Json} {error : CodecError}
    (inside : ∀ other, Json.Within other part → Json.Within other json)
    (refusal : Refusal library part error) : Refusal library json error := by
  cases refusal with
  | mismatch cause => exact .mismatch cause
  | overflow there beyond => exact .overflow (inside _ there) beyond
  | unhashable there member keys found => exact .unhashable (inside _ there) member keys found

theorem Refusal.ofItem {json item : Json} {error : CodecError} (member : item ∈ json.items)
    (refusal : Refusal library item error) : Refusal library json error :=
  refusal.within fun _ => .item member

theorem Refusal.ofEntry {json : Json} {entry : String × Json} {error : CodecError}
    (member : entry ∈ json.entries) (refusal : Refusal library entry.2 error) :
    Refusal library json error :=
  refusal.within fun _ => .entry member

/-- A text has no parts that could refuse more than the text itself. -/
theorem Refusal.ofText {text : String} {json : Json} {error : CodecError}
    (refusal : Refusal library (.string text) error) : Refusal library json error := by
  have alone {part : Json} (there : Json.Within part (.string text)) : part = .string text := by
    cases there with
    | refl => rfl
    | item member => cases member
    | entry member => cases member
  cases refusal with
  | mismatch cause => exact .mismatch cause
  | overflow there =>
    cases alone there
  | unhashable there member =>
    rw [alone there] at member
    cases member

/-- The names of a package are found where its classes look for them: an attribute is kept under its
own name, a constant of a data enum is not hidden, and no class hides the codec. -/
structure NamesReached (library : Library) : Prop where
  attributes : ∀ path label fields, .record path label fields ∈ library.classes →
    ∀ field ∈ fields, normalized (attributeName field) = attributeName field ∧
      isHidden (attributeName field) = false
  constants : ∀ entity, .dataEnum entity ∈ library.classes →
    ∀ v ∈ entity.variants, isHidden (normalized v.name.upperSnake) = false
  classNames : ∀ type ∈ library.classes, type.path.outermost ≠ codecName

/-- A class of the package is decoded as a class of the package. -/
theorem Loaded.form_of_mem (loaded : library.Loaded) {type : Class}
    (member : type ∈ library.classes) :
    ∃ found ∈ library.classes, library.form (library.typeOf type) = .instanceOf found := by
  rcases search : library.at? type.path with _ | found
  · exact absurd (beq_self_eq_true _) (List.find?_eq_none.mp search type member)
  · refine ⟨found, (mem_of_at? search).1, ?_⟩
    simp only [typeOf, form, ref, loaded.class?_eq_at? member, search]

/-- Data can always be shown. -/
theorem shown_ofJson (json : Json) : ∃ text, library.shown (.ofJson json) = .ok text := by
  induction json using Json.byParts with
  | step json items entries =>
    cases json with
    | array parts =>
      have each : ∃ texts, library.shownItems (Value.ofItems parts) = .ok texts := by
        induction parts with
        | nil => exact ⟨[], rfl⟩
        | cons part rest ih =>
          obtain ⟨text, first⟩ := items part (List.mem_cons_self ..)
          obtain ⟨texts, others⟩ :=
            ih (fun item member => items item (List.mem_cons_of_mem _ member))
            (by simp [Json.entries])
          exact ⟨text :: texts, by rw [Value.ofItems, shownItems, first, others]; rfl⟩
      obtain ⟨texts, each⟩ := each
      exact ⟨_, by rw [Value.ofJson, shown, each]; rfl⟩
    | object parts =>
      have each : ∃ texts, library.shownEntries (Value.ofEntries parts) = .ok texts := by
        induction parts with
        | nil => exact ⟨[], rfl⟩
        | cons part rest ih =>
          obtain ⟨key, value⟩ := part
          obtain ⟨text, first⟩ := entries (key, value) (List.mem_cons_self ..)
          obtain ⟨texts, others⟩ := ih (by simp [Json.items])
            (fun entry member => entries entry (List.mem_cons_of_mem _ member))
          refine ⟨(quoted key ++ ": " ++ text) :: texts, ?_⟩
          rw [Value.ofEntries, shownEntries, shown, first, others]
          rfl
      obtain ⟨texts, each⟩ := each
      exact ⟨_, by rw [Value.ofJson, shown, each]; rfl⟩
    | _ => exact ⟨_, rfl⟩

theorem failsOnly_onData {json : Json} {cause : String → Mismatch} :
    FailsOnly (Refusal library json) (onData (library.shown (.ofJson json)) cause) := by
  obtain ⟨text, told⟩ : ∃ text, library.shown (.ofJson json) = .ok text := shown_ofJson json
  rw [told]
  exact failsOnly_error (.mismatch _)

theorem failsOnly_widen (number : Int) :
    FailsOnly (Refusal library (.int number)) (widen number) := by
  unfold widen
  split
  · rename_i beyond
    exact failsOnly_error (.overflow .refl beyond)
  · exact failsOnly_ok

theorem failsOnly_resolveAll {className : String} {hints : List TypeExpr} {json : Json} :
    FailsOnly (Refusal library json) (library.resolveAll className hints) := by
  unfold resolveAll
  split
  · exact failsOnly_ok
  · exact failsOnly_error (.mismatch _)

theorem NamesReached.unrecognized (reached : library.NamesReached) {entity : DataEnum}
    (known : .dataEnum entity ∈ library.classes) :
    Library.unrecognized entity = .mismatch (.unrecognized entity.className) :=
  if_neg (reached.classNames _ known)

/-- Every variant has a discriminant, although it may not be the one that it declares. -/
theorem NamesReached.discriminant (reached : library.NamesReached) {entity : DataEnum}
    (known : .dataEnum entity ∈ library.classes) {v : Schema.Variant}
    (member : v ∈ entity.variants) : ∃ value, Library.discriminant entity v = .ok value := by
  have kept (className : String) {other : Schema.Variant} (inside : other ∈ entity.variants) :
      keptName className other.name.upperSnake = normalized other.name.upperSnake :=
    mangled_of_shown (reached.constants _ known other inside)
  have entry : (normalized v.name.upperSnake, v.name.pascal) ∈
      (Constants.ofVariants entity).entries := by
    rw [← kept Constants.discriminantClass member]
    exact List.mem_map_of_mem member
  have named : ∃ value, (Constants.ofVariants entity).named? (normalized v.name.upperSnake) =
      some value := by
    rw [Constants.named?]
    cases found : (Constants.ofVariants entity).entries.reverse.lookup
        (normalized v.name.upperSnake) with
    | none =>
      have absent := List.lookup_eq_none_iff.mp found _ (List.mem_reverse.mpr entry)
      simp at absent
    | some tag =>
      obtain ⟨front, back, entries, -⟩ := List.lookup_eq_some_iff.mp found
      have member : (normalized v.name.upperSnake, tag) ∈
          (Constants.ofVariants entity).entries := by
        rw [← List.mem_reverse, entries]
        simp
      simp only
      split
      · rename_i isConstant
        rw [Constants.ofTag?, ← Option.isSome_iff_exists, Option.isSome_map, List.find?_isSome]
        exact ⟨_, member, by simp [isConstant]⟩
      · exact ⟨_, rfl⟩
  obtain ⟨value, found⟩ := named
  exact ⟨value, by rw [Library.discriminant, kept _ member, found]⟩

theorem Loaded.failsOnly_decodeInstance (loaded : library.Loaded) (reached : library.NamesReached)
    {type : Class} (known : type ∈ library.classes) (json : Json) :
    FailsOnly (Refusal library json) (library.decodeInstance type (.ofJson json)) := by
  cases type with
  | record path =>
    have visible : path.hides codecName = false :=
      beq_eq_false_iff_ne.mpr (reached.classNames _ known)
    simp only [decodeInstance, visible]
    exact failsOnly_error (.mismatch _)
  | enumeration constants =>
    rw [decodeInstance]
    split
    · exact failsOnly_ok
    · exact failsOnly_onData
  | dataEnum entity =>
    have refused : FailsOnly (Refusal library json)
        (.error (Library.unrecognized entity) : Except CodecError Value) := by
      rw [reached.unrecognized known]
      exact failsOnly_error (.mismatch _)
    cases json with
    | string tag =>
      simp only [Value.ofJson, decodeInstance, decodeTag]
      split
      · rename_i v found
        split
        · exact refused
        obtain ⟨chosen, discriminated⟩ :=
          reached.discriminant known (mem_of_unitVariant? found).1
        rw [discriminated, loaded.provider]
        exact failsOnly_ok
      · exact refused
    | _ => exact refused

/-- A text is decoded as what can be a key, unless it is the tag of a variant. -/
theorem Loaded.isHashable_of_text (loaded : library.Loaded) {hint : TypeExpr} {type : HostType}
    (resolved : library.resolve hint = .ok type) {owner : Option String} {text : String}
    {value : Value}
    (decoded : library.decoder (.ofJson (.string text)) (.value owner type) = .ok value) :
    value.isHashable = true ∨ ∃ entity v, .dataEnum entity ∈ library.classes ∧
      type = library.typeOf (.dataEnum entity) ∧ unitVariant? text entity.variants = some v := by
  have decoded : library.decodeContent owner type (.text text) [] [] = .ok value := by
    rw [← decoded, decoder_ofJson]
    simp only [Value.ofJson, decodeWith, decodeValue, (Denotes.hint resolved).content?]
    rfl
  cases hint with
  | named name =>
    rcases typeNamed_ok resolved with ⟨known, found, rfl⟩ | ⟨-, ⟨rfl, rfl⟩ | ⟨rfl, rfl⟩ |
      ⟨rfl, rfl⟩ | ⟨rfl, rfl⟩ | ⟨rfl, rfl⟩ | ⟨rfl, rfl⟩⟩
    · simp only [decodeContent, loaded.form_of_at? found, loaded.decodingClass] at decoded
      cases known with
      | record => cases decoded
      | enumeration constants =>
        have decoded : library.decodeInstance (.enumeration constants) (.text text) = .ok value :=
          decoded
        rw [decodeInstance] at decoded
        split at decoded
        · rename_i constant same
          cases decoded
          obtain ⟨entry, -, rfl⟩ := Option.map_eq_some_iff.mp same
          exact .inl rfl
        · exact absurd decoded onData_ne_ok
      | dataEnum entity =>
        have decoded : library.decodeTag entity text = .ok value := decoded
        unfold decodeTag at decoded
        split at decoded
        · rename_i v isUnit
          exact .inr ⟨entity, v, (mem_of_at? found).1, rfl, isUnit⟩
        · cases decoded
    · exact absurd decoded onData_ne_ok
    · exact absurd decoded onData_ne_ok
    · exact absurd decoded onData_ne_ok
    · cases decoded
      exact .inl rfl
    · cases decoded
    · cases decoded
  | list item =>
    obtain ⟨_, -, rfl⟩ := resolve_list resolved
    cases decoded
  | map key value =>
    obtain ⟨_, _, -, -, rfl⟩ := resolve_map resolved
    cases decoded

/-- What a key is decoded as can be a key, unless the key is the tag of a variant. -/
theorem Loaded.isHashable_of_key (loaded : library.Loaded) {hint : TypeExpr} {type : HostType}
    (resolved : library.resolve hint = .ok type) {owner : Option String} {text : String}
    {value : Value}
    (decoded : library.decodeKey owner type (.text text)
      (library.decoder (.ofJson (.string text))) = .ok value) :
    value.isHashable = true ∨ ∃ entity v, .dataEnum entity ∈ library.classes ∧
      type = library.typeOf (.dataEnum entity) ∧ unitVariant? text entity.variants = some v := by
  have invalid {value : Value} : (do
      let text ← library.shown (.text text)
      throw (onBehalf owner (.invalidKey text)) : Except CodecError Value) ≠ .ok value := by
    intro found
    obtain ⟨_, -, rest⟩ := Outcome.bind_ok.mp found
    cases rest
  unfold decodeKey at decoded
  split at decoded
  · cases decoded
    exact .inl rfl
  · cases decoded
    exact .inl rfl
  · obtain ⟨read, found, rest⟩ := Outcome.bind_ok.mp decoded
    cases found
    cases number : readInteger? text with
    | none =>
      rw [number] at rest
      exact absurd rest invalid
    | some =>
      rw [number] at rest
      cases rest
      exact .inl rfl
  · obtain ⟨read, found, rest⟩ := Outcome.bind_ok.mp decoded
    cases found
    cases number : Double.read? text with
    | none =>
      rw [number] at rest
      exact absurd rest invalid
    | some =>
      rw [number] at rest
      cases rest
      exact .inl rfl
  · exact loaded.isHashable_of_text resolved decoded

/-- What is expected has only map keys that the package has. -/
def Covered (library : Library) : Expected → Prop
  | .hint hint => hint.mapKeys ⊆ library.mapKeys
  | .instanceOf _ => True

/-- Decoding the data as a type, or as a payload of some types, fails only where the data can be
refused. -/
structure RefusedAt (library : Library) (json : Json) : Prop where
  value : ∀ {expected : Expected} {owner : String} {type : HostType},
    Denotes library expected type → Covered library expected →
    FailsOnly (Refusal library json) (library.decoder (.ofJson json) (.value (some owner) type))
  slots : ∀ {className key : String} {hints : List TypeExpr} {types : List HostType},
    List.Forall₂ (fun hint type => library.resolve hint = .ok type) hints types →
    (∀ hint ∈ hints, Covered library (.hint hint)) →
    FailsOnly (Refusal library json) (library.decoder (.ofJson json) (.slots className key types))

/-- Decoding the parts of data fails only where they can be refused. -/
structure RefusedParts (library : Library) (json : Json) : Prop where
  items : ∀ item ∈ json.items, RefusedAt library item
  keys : ∀ entry ∈ json.entries, RefusedAt library (.string entry.1)
  values : ∀ entry ∈ json.entries, RefusedAt library entry.2

theorem covered_of_hint {type : Class} (known : type ∈ library.classes) {hint : TypeExpr}
    (member : hint ∈ type.hints) : Covered library (.hint hint) := by
  intro key inside
  exact List.mem_flatMap.mpr ⟨type, known, List.mem_flatMap.mpr ⟨hint, member, inside⟩⟩

/-- What stands at a key is decoded as an entry of the data is. -/
theorem partAt?_refused {json : Json} (parts : RefusedParts library json) {key : String}
    {part : Decoder × Decoder} (found : partAt? (library.entryDecodersOf json) key = some part) :
    ∃ entry ∈ json.entries, part.2 = library.decoder (.ofJson entry.2) ∧
      RefusedAt library entry.2 := by
  obtain ⟨entry, there, rfl⟩ := Option.map_eq_some_iff.mp found
  obtain ⟨origin, member, rfl⟩ := List.mem_map.mp (List.mem_of_find?_eq_some there)
  exact ⟨origin, member, rfl, parts.values origin member⟩

theorem Loaded.failsOnly_decodeRecord (loaded : library.Loaded) (reached : library.NamesReached)
    {path : ClassPath} {label : String} {fields : List Field}
    (known : .record path label fields ∈ library.classes) {json : Json}
    (parts : RefusedParts library json) :
    FailsOnly (Refusal library json)
      (library.decodeRecord path fields (library.entryDecodersOf json)) := by
  have visible : path.hides codecName = false :=
    beq_eq_false_iff_ne.mpr (reached.classNames _ known)
  have kept (field : Field) (member : field ∈ fields) :
      keptName path.name (attributeName field) = attributeName field := by
    obtain ⟨normal, shows⟩ := reached.attributes _ _ _ known field member
    rw [keptName, normal]
    exact mangled_of_shown shows
  simp only [decodeRecord, visible, loaded.unchanged, List.lookup_nil, Option.isSome_none,
    Bool.false_eq_true, if_false]
  refine failsOnly_resolveAll.bind fun types resolved => ?_
  rw [resolveAll_ok] at resolved
  have each : FailsOnly (Refusal library json)
      ((fields.zip types).mapM (decodeField path (library.entryDecodersOf json))) := by
    refine FailsOnly.mapM fun pair inside => ?_
    have member := (List.of_mem_zip (a := pair.1) (b := pair.2) inside).1
    unfold decodeField
    rw [if_neg (not_not.mpr (kept pair.1 member))]
    rcases found : partAt? (library.entryDecodersOf json) pair.1.tag with _ | ⟨first, decoder⟩
    · exact failsOnly_ok
    · obtain ⟨entry, there, same, refused⟩ := partAt?_refused parts found
      have resolves : library.resolve pair.1.type = .ok pair.2 := by
        rw [List.forall₂_map_left_iff] at resolved
        exact (List.forall₂_iff_zip.mp resolved).2 inside
      have covered : Covered library (.hint pair.1.type) :=
        covered_of_hint known (List.mem_map_of_mem member)
      obtain rfl : decoder = _ := same
      refine FailsOnly.bind ?_ fun _ _ => failsOnly_ok
      exact (refused.value (.hint resolves) covered).imp fun _ => .ofEntry there
  refine each.bind fun attributes decoded => ?_
  have shows : ∀ part ∈ attributes, isHidden part.1 = false := by
    intro part member
    obtain ⟨pair, inside, decodes⟩ :=
      Outcome.exists_related (Outcome.mapM_ok.mp decoded).flip member
    obtain ⟨-, named, -⟩ := decodeField_ok.mp decodes
    rw [named]
    exact (reached.attributes _ _ _ known _ (List.of_mem_zip inside).1).2
  rw [makeRecord_of_shown shows]
  exact failsOnly_ok

/-- The only factory among the methods of a variant is its own. -/
theorem factory_of_mem {v w : Schema.Variant} {name : String}
    (member : (name, .factory v) ∈ variantMethods w) : v = w := by
  rcases List.mem_cons.mp member with same | others
  · cases same
    rfl
  rcases List.mem_append.mp others with getter | test
  · split at getter
    · cases getter
    · cases List.mem_singleton.mp getter
    · cases List.mem_singleton.mp getter
    · obtain ⟨_, -, same⟩ := List.mem_map.mp getter
      cases same
  · cases List.mem_singleton.mp test

/-- The types of the slots of a variant are those of some factory of its data enum. -/
theorem slotTypes_hints {entity : DataEnum} (known : .dataEnum entity ∈ library.classes)
    {v : Schema.Variant} (member : v ∈ entity.variants) :
    ∃ hints, (∀ hint ∈ hints, Covered library (.hint hint)) ∧
      library.slotTypes entity v =
        library.resolveAll (library.nameOf (.top entity.className)) hints := by
  unfold slotTypes
  cases found : method? entity (factoryName v) with
  | none =>
    have factory : (factoryName v, Method.factory v) ∈ methods entity :=
      List.mem_flatMap.mpr ⟨v, member, List.mem_cons_self ..⟩
    have absent := List.lookup_eq_none_iff.mp found _ (List.mem_reverse.mpr factory)
    simp at absent
  | some method =>
    refine ⟨method.parameterTypes, ?_, rfl⟩
    obtain ⟨front, back, listed, -⟩ := List.lookup_eq_some_iff.mp found
    have inside : (factoryName v, method) ∈ methods entity := by
      rw [← List.mem_reverse, listed]
      simp
    obtain ⟨w, variant, made⟩ := List.mem_flatMap.mp inside
    intro hint parameter
    cases method with
    | accessor => cases parameter
    | test => cases parameter
    | factory other =>
      obtain rfl := factory_of_mem made
      cases carries : other.payload with
      | unit =>
        simp only [Method.parameterTypes, carries] at parameter
        cases parameter
      | tuple slots =>
        simp only [Method.parameterTypes, carries] at parameter
        refine covered_of_hint known (List.mem_flatMap.mpr ⟨other, variant, ?_⟩)
        rw [carries]
        exact parameter
      | object fields =>
        simp only [Method.parameterTypes, carries] at parameter
        exact covered_of_hint (holder_mem_classes known variant carries) parameter

theorem Loaded.failsOnly_decodeChoice (loaded : library.Loaded) (reached : library.NamesReached)
    {entity : DataEnum} (known : .dataEnum entity ∈ library.classes) {json : Json}
    (parts : RefusedParts library json) :
    FailsOnly (Refusal library json)
      (library.decodeChoice entity (library.entryDecodersOf json)) := by
  have refused : FailsOnly (Refusal library json)
      (.error (Library.unrecognized entity) : Except CodecError Value) := by
    rw [reached.unrecognized known]
    exact failsOnly_error (.mismatch _)
  have visible : entity.className ≠ codecName := reached.classNames _ known
  unfold decodeChoice
  split
  · rename_i v first decoder found
    obtain ⟨member, -, there⟩ := mem_of_payloadVariant? found
    obtain ⟨entry, inside, rfl, refusedPart⟩ := partAt?_refused parts there
    split
    · exact refused
    obtain ⟨chosen, discriminated⟩ := reached.discriminant known member
    rw [discriminated, Outcome.ok_bind]
    refine FailsOnly.bind ?_ fun payload _ => ?_
    · unfold decodePayload
      split
      · exact failsOnly_ok
      · rename_i fields isObject
        rw [if_neg visible]
        have holder := holder_mem_classes known member isObject
        exact (refusedPart.value (.instanceOf holder) trivial).imp fun _ => .ofEntry inside
      · rw [if_neg visible]
        obtain ⟨hints, covered, same⟩ := slotTypes_hints known member
        rw [same]
        refine failsOnly_resolveAll.bind fun types resolved => ?_
        rw [resolveAll_ok] at resolved
        exact (refusedPart.slots resolved covered).imp fun _ => .ofEntry inside
    · rw [loaded.provider]
      exact failsOnly_ok
  · exact refused

theorem Loaded.failsOnly_decodeAsClass (loaded : library.Loaded) (reached : library.NamesReached)
    {type : Class} (known : type ∈ library.classes) {json : Json}
    (parts : RefusedParts library json) :
    FailsOnly (Refusal library json)
      (library.decodeAsClass type (.ofJson json) (library.entryDecodersOf json)) := by
  unfold decodeAsClass
  split
  · exact loaded.failsOnly_decodeRecord reached known parts
  · exact loaded.failsOnly_decodeChoice reached known parts
  · exact loaded.failsOnly_decodeInstance reached known json

/-- Decoding the entries of an object one after the other fails only where the object can be
refused: where what a key is decoded as cannot be a key, a data enum is what the map has for
keys. -/
theorem Loaded.failsOnly_decodeMap (loaded : library.Loaded) {owner : String} {key value : TypeExpr}
    {keyType valueType : HostType} (keyResolved : library.resolve key = .ok keyType)
    (valueResolved : library.resolve value = .ok valueType)
    (covered : Covered library (.hint (.map key value))) {json : Json}
    (parts : RefusedParts library json) :
    FailsOnly (Refusal library json)
      (library.decodeMap (some owner) keyType valueType (library.entryDecodersOf json)) := by
  simp only [Covered, TypeExpr.mapKeys, List.cons_subset, List.append_subset] at covered
  obtain ⟨ofMap, keyCovered, valueCovered⟩ := covered
  refine FailsOnly.bind (FailsOnly.foldlM (fun known entry member => ?_) []) fun _ _ => failsOnly_ok
  obtain ⟨origin, inside, rfl⟩ := List.mem_map.mp member
  refine FailsOnly.bind ?_ fun decodedKey keyDecoded => ?_
  · unfold decodeKey
    have invalid : FailsOnly (Refusal library json) (do
        let text ← library.shown (.text origin.1)
        throw (onBehalf (some owner) (.invalidKey text)) : Except CodecError Value) :=
      failsOnly_error (.mismatch _)
    split
    · exact failsOnly_ok
    · exact failsOnly_ok
    · refine FailsOnly.bind failsOnly_ok fun read _ => ?_
      cases read with
      | none => exact invalid
      | some => exact failsOnly_ok
    · refine FailsOnly.bind failsOnly_ok fun read _ => ?_
      cases read with
      | none => exact invalid
      | some => exact failsOnly_ok
    · refine ((parts.keys origin inside).value (.hint keyResolved) keyCovered).imp ?_
      exact fun _ => Refusal.ofText
  refine FailsOnly.bind ?_ fun decodedValue _ => ?_
  · refine ((parts.values origin inside).value (.hint valueResolved) valueCovered).imp ?_
    exact fun _ => .ofEntry inside
  unfold bindDecoded
  split
  · exact failsOnly_ok
  split
  · exact failsOnly_ok
  · rename_i unhashable
    rcases loaded.isHashable_of_key keyResolved keyDecoded with
      hashable | ⟨entity, v, made, rfl, found⟩
    · exact absurd hashable unhashable
    · exact failsOnly_error (.unhashable .refl inside ⟨made, key, ofMap, keyResolved⟩ found)

theorem Loaded.failsOnly_decodeContent (loaded : library.Loaded) (reached : library.NamesReached)
    {json : Json} (parts : RefusedParts library json) {expected : Expected} {owner : String}
    {type : HostType} (denotes : Denotes library expected type)
    (covered : Covered library expected) :
    FailsOnly (Refusal library json) (library.decodeContent (some owner) type (.ofJson json)
      (json.items.map fun item => library.decoder (.ofJson item))
        (library.entryDecodersOf json)) := by
  have ofClass {type : HostType} {known : Class} (member : known ∈ library.classes)
      (form : library.form type = .instanceOf known) :
      FailsOnly (Refusal library json) (library.decodeContent (some owner) type (.ofJson json)
        (json.items.map fun item => library.decoder (.ofJson item))
        (library.entryDecodersOf json)) := by
    simp only [decodeContent, form, loaded.decodingClass]
    exact loaded.failsOnly_decodeAsClass reached member parts
  cases denotes with
  | instanceOf member =>
    obtain ⟨found, known, form⟩ := loaded.form_of_mem member
    exact ofClass known form
  | @hint hint _ resolved =>
    cases hint with
    | named name =>
      rcases typeNamed_ok resolved with ⟨known, found, rfl⟩ | ⟨-, ⟨rfl, rfl⟩ | ⟨rfl, rfl⟩ |
        ⟨rfl, rfl⟩ | ⟨rfl, rfl⟩ | ⟨rfl, rfl⟩ | ⟨rfl, rfl⟩⟩
      · exact ofClass (mem_of_at? found).1 (loaded.form_of_at? found)
      · cases json with
        | bool => exact failsOnly_ok
        | _ => exact failsOnly_onData
      · cases json with
        | int => exact failsOnly_ok
        | _ => exact failsOnly_onData
      · cases json with
        | int number => exact failsOnly_widen number
        | float => exact failsOnly_ok
        | _ => exact failsOnly_onData
      · cases json with
        | string => exact failsOnly_ok
        | _ => exact failsOnly_onData
      · cases json <;> exact failsOnly_error (.mismatch _)
      · cases json <;> exact failsOnly_error (.mismatch _)
    | list item =>
      obtain ⟨itemType, itemResolved, rfl⟩ := resolve_list resolved
      cases json with
      | array items =>
        refine FailsOnly.bind (FailsOnly.mapM fun decoder member => ?_) fun _ _ => failsOnly_ok
        obtain ⟨part, inside, rfl⟩ := List.mem_map.mp member
        refine ((parts.items part inside).value (.hint itemResolved) covered).imp ?_
        exact fun _ => .ofItem inside
      | _ => exact failsOnly_error (.mismatch _)
    | map key value =>
      obtain ⟨keyType, valueType, keyResolved, valueResolved, rfl⟩ := resolve_map resolved
      cases json with
      | object entries => exact loaded.failsOnly_decodeMap keyResolved valueResolved covered parts
      | _ => exact failsOnly_error (.mismatch _)

theorem Loaded.failsOnly_decodeValue (loaded : library.Loaded) (reached : library.NamesReached)
    {json : Json} (parts : RefusedParts library json) {expected : Expected} {owner : String}
    {type : HostType} (denotes : Denotes library expected type)
    (covered : Covered library expected) :
    FailsOnly (Refusal library json) (library.decodeValue (some owner) type (.ofJson json)
      (json.items.map fun item => library.decoder (.ofJson item))
        (library.entryDecodersOf json)) := by
  unfold decodeValue
  split
  · exact failsOnly_ok
  rw [denotes.content?]
  exact loaded.failsOnly_decodeContent reached parts denotes covered

theorem Loaded.refusedAt_of_parts (loaded : library.Loaded) (reached : library.NamesReached)
    {json : Json} (parts : RefusedParts library json) : RefusedAt library json := by
  constructor
  · intro expected owner type denotes covered
    rw [decoder_ofJson]
    exact loaded.failsOnly_decodeValue reached parts denotes covered
  · intro className key hints types resolved covered
    rw [decoder_ofJson]
    show FailsOnly _ (library.decodeSlots className key types (.ofJson json)
      (json.items.map fun item => library.decoder (.ofJson item)) (library.entryDecodersOf json))
    unfold decodeSlots
    split
    · cases resolved with
      | cons first none =>
        cases none
        refine FailsOnly.bind ?_ fun _ _ => failsOnly_ok
        exact loaded.failsOnly_decodeValue reached parts (.hint first)
          (covered _ (List.mem_cons_self ..))
    · split
      · refine FailsOnly.bind (FailsOnly.mapM fun pair member => ?_) fun _ _ => failsOnly_ok
        obtain ⟨decoder, slot⟩ := List.of_mem_zip member
        obtain ⟨part, inside, same⟩ := List.mem_map.mp decoder
        obtain ⟨hint, hinted, resolves⟩ := Outcome.exists_related resolved.flip slot
        show FailsOnly _ (pair.1 (.value (some className) pair.2))
        rw [← same]
        refine ((parts.items part inside).value (.hint resolves) (covered hint hinted)).imp ?_
        exact fun _ => .ofItem inside
      · exact failsOnly_error (.mismatch _)
    · exact failsOnly_error (.mismatch _)

/-- Whatever the data, decoding it fails only where it can be refused. -/
theorem Loaded.refusedAt (loaded : library.Loaded) (reached : library.NamesReached) (json : Json) :
    RefusedAt library json := by
  induction json using Json.byParts with
  | step json items values =>
    -- Keys are no parts of the data, but texts have no parts of their own.
    refine loaded.refusedAt_of_parts reached ⟨items, fun entry _ => ?_, values⟩
    exact loaded.refusedAt_of_parts reached
      ⟨by simp [Json.items], by simp [Json.entries], by simp [Json.entries]⟩

/-- Where the names of a package do not clash, they are found. -/
theorem Unambiguous.reached (unambiguous : library.Unambiguous) : library.NamesReached where
  attributes := by
    intro path label fields known field member
    have plain := unambiguous.attributes path label fields known field member
    simp only [isPlainAttribute, Bool.and_eq_true, beq_iff_eq, bne_iff_ne] at plain
    exact ⟨plain.1.1, isHidden_of_plain plain.1.2⟩
  constants := by
    intro entity known v member
    exact isHidden_of_plain ((unambiguous.clear.ofClass known).plain v member)
  classNames := by
    intro type known
    exact unambiguous.className_ne known _ (List.mem_cons_self ..)

/-- A circle whose radius is beyond all doubles. -/
def hugeCircle : Json :=
  .object [("shapes", .array [.object [("Circle", .int (.ofNat (Nat.pow 10 400)))]])]

/-- The outcome is that a number is beyond all doubles. -/
def isOverflow : Except CodecError Value → Bool
  | .error (.fault .overflow) => true
  | _ => false

end Library
end Codec
end WireModel
