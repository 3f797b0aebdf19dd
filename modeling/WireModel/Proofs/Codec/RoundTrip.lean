import WireModel.Proofs.Codec.Encoding
import WireModel.Proofs.Codec.Soundness

/-!
What is encoded is decoded again: a value of a class comes back as it was. The encoder looks at
values and the decoder at types, and so both follow what the value is expected to be.
-/

namespace WireModel.Codec

open Schema Text
open Render.Python (attributeName keptName)

namespace Value

/-- The text of a number that is a key is read as that number. -/
def ReadsBack : Value → Prop
  | .int value => readInteger? (toString value) = some value
  | .float value => Double.read? value.text = some value
  | _ => True

/-- Nothing in a value is lost for good: all numbers are numbers, and the keys of a map can be keys,
are apart, and can be read from their texts. -/
inductive Regular : Value → Prop
  | null : Regular .null
  | bool (value : Bool) : Regular (.bool value)
  | int (value : Int) : Regular (.int value)
  | float {value : Double} : value ≠ .notANumber → Regular (.float value)
  | text (value : String) : Regular (.text value)
  | constant (owner : ClassPath) (name tag : String) : Regular (.constant owner name tag)
  | list {items : List Value} : (∀ item ∈ items, Regular item) → Regular (.list items)
  | tuple {items : List Value} : (∀ item ∈ items, Regular item) → Regular (.tuple items)
  | map {entries : List (Value × Value)} :
      (∀ entry ∈ entries, entry.1.isHashable = true ∧ entry.1.ReadsBack) →
      entries.Pairwise (fun entry other => entry.1.sameKey other.1 = false) →
      (∀ entry ∈ entries, Regular entry.1) → (∀ entry ∈ entries, Regular entry.2) →
      Regular (.map entries)
  | record {owner : ClassPath} {attributes : List (String × Value)} :
      (∀ part ∈ attributes, Regular part.2) → Regular (.record owner attributes)
  | choice {owner : String} {discriminant payload : Value} :
      Regular payload → Regular (.choice owner discriminant payload)

end Value

def Class.hints : Class → List TypeExpr
  | .record _ _ fields => fields.map fun field => field.type
  | .enumeration _ => []
  | .dataEnum entity => entity.variants.flatMap fun v =>
    match v.payload with
    | .tuple slots => slots
    | _ => []

namespace Library

/-- Every type expression in the package stands for a type. -/
def Resolves (library : Library) : Prop :=
  ∀ type ∈ library.classes, ∀ hint ∈ type.hints, ∃ resolved, library.resolve hint = .ok resolved

variable {library : Library}

/-- The value is encoded, and what it is encoded as is decoded as the type to the same value. -/
def RoundTrips (library : Library) (type : HostType) (value : Value) : Prop :=
  ∃ json, library.encode value = .ok json ∧
    ∀ owner, library.decoder (.ofJson json) (.value owner type) = .ok value

/-- The value of a type expression comes back, by the type and the data that are chosen. -/
def HintRoundTrips (library : Library) (hint : TypeExpr) (value : Value)
    (chosen : HostType × Json) :
    Prop :=
  library.resolve hint = .ok chosen.1 ∧ library.encode value = .ok chosen.2 ∧
    ∀ owner, library.decoder (.ofJson chosen.2) (.value owner chosen.1) = .ok value

theorem RoundTrips.ofHint {hint : TypeExpr} {type : HostType} {value : Value}
    (returns : library.RoundTrips type value) (resolved : library.resolve hint = .ok type) :
    ∃ chosen, library.HintRoundTrips hint value chosen := by
  obtain ⟨json, encoded, decoded⟩ := returns
  exact ⟨(type, json), resolved, encoded, decoded⟩

private theorem equal_int (value other : Int) : Value.equal (.int value) (.int other) =
    if value == other then .ok true else .ok false :=
  rfl

private theorem equal_float (value other : Double) : Value.equal (.float value) (.float other) =
    if value.equal other then .ok true else .ok false :=
  rfl

private theorem Double.equal_self {value : Double} (isNumber : value ≠ .notANumber) :
    value.equal value = true := by
  cases value with
  | finite negative significand exponent => simp [Double.equal]
  | infinite negative => simp [Double.equal]
  | notANumber => exact absurd rfl isNumber

theorem Constants.eq_of_ofTag? {constants : Constants} {tag : String} {value : Value}
    (found : constants.ofTag? tag = some value) :
    ∃ name, value = .constant constants.owner name tag := by
  obtain ⟨entry, there, rfl⟩ := Option.map_eq_some_iff.mp found
  have holds := List.find?_some
    (p := fun entry : String × String => constants.isConstant entry.1 && entry.2 == tag) there
  simp only [Bool.and_eq_true, beq_iff_eq] at holds
  exact ⟨entry.1, by rw [holds.2]⟩

/-- A key is the same as itself. -/
theorem sameKey_self {hint : TypeExpr} {key : Value} (typed : Typed library (.hint hint) key)
    (regular : key.Regular) (hashable : key.isHashable = true) : key.sameKey key = true := by
  cases typed with
  | null => rfl
  | bool value => cases value <;> rfl
  | int value =>
    rw [Value.sameKey, equal_int, beq_self_eq_true]
    rfl
  | float value =>
    cases regular with | float isNumber => ?_
    rw [Value.sameKey, equal_float, Double.equal_self isNumber]
    exact Bool.or_true _
  | text value => simp [Value.sameKey, Value.isIdentical]
  | list => cases hashable
  | map => cases hashable
  | named found typed =>
    cases typed with
    | null => rfl
    | constant tagged =>
      obtain ⟨name, rfl⟩ := Constants.eq_of_ofTag? tagged
      simp [Value.sameKey, Value.isIdentical, Value.constant?]
    | record => cases hashable
    | unit => cases hashable
    | tuple => cases hashable
    | object => cases hashable

/-- The name of a type of the language stands for it. -/
theorem Unambiguous.eq_primitive (unambiguous : library.Unambiguous) (primitive : Primitive)
    (isClass : primitive.isMarker = false) {type : HostType}
    (resolved : library.resolve (.named primitive.name) = .ok type) :
    type = .primitive primitive := by
  have reserved : normalized primitive.name ∈ reservedClassNames := by
    cases primitive <;> first | exact absurd isClass (by decide) | decide
  rcases typeNamed_ok resolved with ⟨known, found, -⟩ | ⟨-, known⟩
  · obtain ⟨member, path⟩ := mem_of_at? found
    refine absurd ?_ (unambiguous.className_ne member _ reserved)
    rw [path]
    rfl
  · cases primitive <;>
      first | exact absurd isClass (by decide) | simpa [Primitive.name] using known

theorem Loaded.roundTrips_constant (loaded : library.Loaded) (unambiguous : library.Unambiguous)
    {constants : Constants} (known : .enumeration constants ∈ library.classes) {tag : String}
    {value : Value} (tagged : constants.ofTag? tag = some value) :
    library.RoundTrips (library.typeOf (.enumeration constants)) value := by
  obtain ⟨name, rfl⟩ := Constants.eq_of_ofTag? tagged
  refine ⟨.string tag, by rw [encode], fun owner => ?_⟩
  have isTag : constants.ofValue? (Value.ofJson (.string tag)).content =
      some (.constant constants.owner name tag) := tagged
  rw [loaded.decoder_typeOf unambiguous.clear.nested known (.string _) (by simp)]
  simp only [decodeAsClass, decodeInstance, isTag]

theorem Loaded.key_roundTrip (loaded : library.Loaded) (unambiguous : library.Unambiguous)
    {hint : TypeExpr} {key : Value} (typed : Typed library (.hint hint) key) (present : key ≠ .null)
    (hashable : key.isHashable = true) (reads : key.ReadsBack) {type : HostType}
    (resolved : library.resolve hint = .ok type) :
    ∃ text, library.keyText key = .ok text ∧ ∀ owner, library.decodeKey owner type (.text text)
      (library.decoder (.ofJson (.string text))) = .ok key := by
  cases typed with
  | null => exact absurd rfl present
  | list => cases hashable
  | map => cases hashable
  | bool value =>
    obtain rfl := unambiguous.eq_primitive .bool rfl resolved
    refine ⟨_, rfl, fun owner => ?_⟩
    cases value <;> rfl
  | int value =>
    obtain rfl := unambiguous.eq_primitive .int rfl resolved
    refine ⟨_, rfl, fun owner => ?_⟩
    have reads : readInteger? (toString value) = some value := reads
    simp only [decodeKey, keyAsInteger?, reads]
    rfl
  | float value =>
    obtain rfl := unambiguous.eq_primitive .float rfl resolved
    refine ⟨_, rfl, fun owner => ?_⟩
    have reads : Double.read? value.text = some value := reads
    simp only [decodeKey, keyAsFloat?, reads]
    rfl
  | text value =>
    obtain rfl := unambiguous.eq_primitive .str rfl resolved
    exact ⟨_, rfl, fun owner => rfl⟩
  | @named name known _ found typed =>
    cases typed with
    | null => exact absurd rfl present
    | record => cases hashable
    | unit => cases hashable
    | tuple => cases hashable
    | object => cases hashable
    | @constant constants tag _ tagged =>
      rcases typeNamed_ok resolved with ⟨known, there, rfl⟩ | ⟨absent, -⟩
      · cases found.symm.trans there
        obtain ⟨json, encoded, decoded⟩ :=
          loaded.roundTrips_constant unambiguous (mem_of_at? found).1 tagged
        obtain ⟨constantName, rfl⟩ := Constants.eq_of_ofTag? tagged
        cases encoded
        exact ⟨tag, rfl, decoded⟩
      · cases found.symm.trans absent

theorem roundTrips_list {itemType : HostType} {items : List Value}
    (each : ∀ item ∈ items, library.RoundTrips itemType item) :
    library.RoundTrips (.applied (.list .native) [itemType]) (.list items) := by
  obtain ⟨rows, rfl, related⟩ := Outcome.exists_rows each
  have encoded : library.encodeItems (rows.map Prod.fst) = .ok (rows.map Prod.snd) := by
    rw [encodeItems_eq]
    exact Outcome.mapM_map_ok fun row member => (related row member).1
  refine ⟨.array (rows.map Prod.snd), ?_, fun owner => ?_⟩
  · rw [encode, encoded]
    rfl
  · have decoded : ((rows.map Prod.snd).map fun json => library.decoder (.ofJson json)).mapM
        (fun decoder => decoder (.value owner itemType)) = .ok (rows.map Prod.fst) := by
      rw [List.map_map]
      exact Outcome.mapM_map_ok fun row member => (related row member).2 owner
    have unfolded : library.decoder (.ofJson (.array (rows.map Prod.snd)))
        (.value owner (.applied (.list .native) [itemType])) = (do
          return .list (← ((rows.map Prod.snd).map fun json => library.decoder (.ofJson json)).mapM
            fun decoder => decoder (.value owner itemType))) := by
      rw [decoder_ofJson]
      rfl
    rw [unfolded, decoded]
    rfl

/-- An entry of a map and what stands for it in an object. -/
def EntryRoundTrips (library : Library) (keyType valueType : HostType) (entry : Value × Value)
    (part : String × Json) : Prop :=
  library.keyText entry.1 = .ok part.1 ∧
    (∀ owner, library.decodeKey owner keyType (.text part.1)
      (library.decoder (.ofJson (.string part.1))) = .ok entry.1) ∧
    library.encode entry.2 = .ok part.2 ∧
    ∀ owner, library.decoder (.ofJson part.2) (.value owner valueType) = .ok entry.2

/-- Keys that are apart are bound one behind the other. -/
theorem bindDecoded_append {known : List (Value × Value)} {key value : Value}
    (hashable : key.isHashable = true) (fresh : ∀ entry ∈ known, entry.1.sameKey key = false) :
    bindDecoded known key value = .ok (known ++ [(key, value)]) := by
  have unknown : known.any (fun entry => entry.1.sameKey key) = false := by
    rw [List.any_eq_false]
    intro entry member
    rw [fresh entry member]
    exact Bool.false_ne_true
  rw [bindDecoded, if_pos hashable]
  split
  · rfl
  · rw [Value.bindKey, unknown]
    rfl

theorem foldlM_decodeEntry {keyType valueType : HostType}
    {rows : List ((Value × Value) × String × Json)}
    (related : ∀ row ∈ rows, library.EntryRoundTrips keyType valueType row.1 row.2)
    (hashable : ∀ row ∈ rows, row.1.1.isHashable = true) (known : List (Value × Value))
    (apart : (known ++ rows.map Prod.fst).Pairwise fun entry other =>
      entry.1.sameKey other.1 = false) (owner : Option String) :
    (rows.map fun row => (Value.text row.2.1, library.decoder (.ofJson (.string row.2.1)),
        library.decoder (.ofJson row.2.2))).foldlM
      (library.decodeEntry owner keyType valueType) known = .ok (known ++ rows.map Prod.fst) := by
  induction rows generalizing known with
  | nil =>
    rw [List.map_nil, List.map_nil, List.append_nil]
    rfl
  | cons row rest ih =>
    obtain ⟨-, key, -, value⟩ := related row (List.mem_cons_self ..)
    have fresh : ∀ entry ∈ known, entry.1.sameKey row.1.1 = false := fun entry member =>
      (List.pairwise_append.mp apart).2.2 entry member row.1 (List.mem_cons_self ..)
    have bound : library.decodeEntry owner keyType valueType known (.text row.2.1,
        library.decoder (.ofJson (.string row.2.1)), library.decoder (.ofJson row.2.2)) =
        .ok (known ++ [row.1]) := by
      simp only [decodeEntry, key owner, Outcome.ok_bind, value owner]
      exact bindDecoded_append (hashable row (List.mem_cons_self ..)) fresh
    rw [List.map_cons, List.foldlM_cons, bound, Outcome.ok_bind,
      ih (fun row member => related row (List.mem_cons_of_mem _ member))
        (fun row member => hashable row (List.mem_cons_of_mem _ member)) _ (by simpa using apart)]
    simp

theorem roundTrips_map {keyType valueType : HostType} {entries : List (Value × Value)}
    (hashable : ∀ entry ∈ entries, entry.1.isHashable = true)
    (reflexive : ∀ entry ∈ entries, entry.1.sameKey entry.1 = true)
    (apart : entries.Pairwise fun entry other => entry.1.sameKey other.1 = false)
    (each : ∀ entry ∈ entries, ∃ part, library.EntryRoundTrips keyType valueType entry part) :
    library.RoundTrips (.applied (.map .native) [keyType, valueType]) (.map entries) := by
  obtain ⟨rows, rfl, related⟩ := Outcome.exists_rows each
  have inside {row : (Value × Value) × String × Json} (member : row ∈ rows) :
      row.1 ∈ rows.map Prod.fst := List.mem_map_of_mem member
  have keys : (rows.map fun row => row.1.1).Nodup := by
    rw [List.nodup_iff_pairwise_ne, List.pairwise_map]
    refine (List.pairwise_map.mp apart).imp_of_mem fun {row other} member _ differ same => ?_
    rw [← same, reflexive row.1 (inside member)] at differ
    cases differ
  -- Texts are apart since each is decoded to a key of its own.
  have texts : (rows.map fun row => row.2.1).Nodup := by
    refine List.Nodup.of_map (fun text => library.decodeKey none keyType (.text text)
      (library.decoder (.ofJson (.string text)))) ?_
    have decoded : (rows.map fun row => row.2.1).map (fun text => library.decodeKey none keyType
        (.text text) (library.decoder (.ofJson (.string text)))) =
        (rows.map fun row => row.1.1).map .ok := by
      rw [List.map_map, List.map_map]
      exact List.map_congr_left fun row member => (related row member).2.1 none
    rw [decoded]
    exact keys.map fun _ _ same => Except.ok.inj same
  have encoded : library.encodeEntries (rows.map Prod.fst) = .ok (rows.map Prod.snd) := by
    rw [encodeEntries_eq]
    refine Outcome.mapM_map_ok fun row member => ?_
    obtain ⟨key, -, value, -⟩ := related row member
    rw [key, Outcome.ok_bind, value]
    rfl
  have bound : (rows.map Prod.snd).foldl (fun known part => bindEntry known part.1 part.2) [] =
      rows.map Prod.snd := by
    apply Search.foldl_bindEntry
    rw [List.map_map]
    exact texts
  refine ⟨.object (rows.map Prod.snd), ?_, fun owner => ?_⟩
  · rw [encode, encoded, Outcome.ok_bind, bound]
    rfl
  · have decoded := foldlM_decodeEntry related (fun row member => hashable row.1 (inside member))
      [] apart owner
    have unfolded : library.decoder (.ofJson (.object (rows.map Prod.snd)))
        (.value owner (.applied (.map .native) [keyType, valueType])) =
        library.decodeMap owner keyType valueType (library.entryDecodersOf
          (.object (rows.map Prod.snd))) := by
      rw [decoder_ofJson]
      rfl
    have parts : library.entryDecodersOf (.object (rows.map Prod.snd)) = rows.map fun row =>
        (Value.text row.2.1, library.decoder (.ofJson (.string row.2.1)),
          library.decoder (.ofJson row.2.2)) := by
      simp only [entryDecodersOf, Json.entries, List.map_map, Function.comp_def]
    rw [unfolded, decodeMap, parts, decoded]
    rfl

theorem Loaded.roundTrips_record (loaded : library.Loaded) (unambiguous : library.Unambiguous)
    {path : ClassPath} {label : String} {fields : List Field}
    (known : .record path label fields ∈ library.classes) {attributes : List (String × Value)}
    (named : attributes.map Prod.fst = fields.map attributeName)
    (each : ∀ pair ∈ fields.zip attributes, ∃ chosen,
      library.HintRoundTrips pair.1.type pair.2.2 chosen) :
    library.RoundTrips (library.typeOf (.record path label fields)) (.record path attributes) := by
  have length : fields.length = attributes.length := by
    rw [← List.length_map attributeName, ← named, List.length_map]
  have plain {field : Field} (owned : field ∈ fields) :
      isPlainAttribute (attributeName field) = true :=
    unambiguous.attributes _ _ _ known field owned
  have distinct := unambiguous.fieldTags _ _ _ known
  have visible := unambiguous.hides known
  -- Each row has a field, its attribute, and the type and the data of the attribute.
  obtain ⟨rows, rfl, rfl, related⟩ := Outcome.exists_rows_zip length each
  have same : ∀ row ∈ rows, row.1.2.1 = attributeName row.1.1 := by
    rw [List.map_map, List.map_map] at named
    exact List.map_inj_left.mp named
  have encoded : List.Forall₂ (fun (part : String × Value) json => library.encode part.2 = .ok json)
      (rows.map fun row => row.1.2) (rows.map fun row => row.2.2) := by
    rw [List.forall₂_map_left_iff, List.forall₂_map_right_iff, List.forall₂_same]
    exact fun row member => (related row member).2.1
  have whole := loaded.encode_record unambiguous known named encoded
  have entries : ((rows.map fun row => row.1.1).map Field.tag).zip (rows.map fun row => row.2.2) =
      rows.map fun row => (row.1.1.tag, row.2.2) := by
    rw [List.map_map, List.zip_map', Function.comp_def]
  rw [entries] at whole
  refine ⟨_, whole, fun owner => ?_⟩
  rw [loaded.decoder_typeOf unambiguous.clear.nested known (.object _) (by simp)]
  refine loaded.decodeRecord_ok.mpr ⟨visible, rows.map fun row => row.2.1, _, ?_, ?_,
    makeRecord_of_plain ?_⟩
  · rw [List.map_map, List.forall₂_map_left_iff, List.forall₂_map_right_iff, List.forall₂_same]
    exact fun row member => (related row member).1
  · rw [List.zip_map', List.forall₂_map_left_iff, List.forall₂_map_right_iff, List.forall₂_same]
    intro row member
    have kept := plain (List.mem_map_of_mem member)
    simp only [isPlainAttribute, Bool.and_eq_true, beq_iff_eq, bne_iff_ne] at kept
    have there : partAt? (library.entryDecodersOf (.object (rows.map fun row =>
        (row.1.1.tag, row.2.2)))) row.1.1.tag =
          some (library.decoder (.ofJson (.string row.1.1.tag)),
        library.decoder (.ofJson row.2.2)) := by
      refine partAt?_entryDecodersOf ?_ (List.mem_map_of_mem member)
      simpa only [List.map_map, Function.comp_def] using distinct
    refine ⟨?_, same row member, ?_⟩
    · rw [Render.Python.keptName, kept.1.1]
      exact mangled_of_plain kept.1.2
    · rw [there]
      exact (related row member).2.2 _
  · intro part member
    obtain ⟨row, inside, rfl⟩ := List.mem_map.mp member
    have kept := plain (List.mem_map_of_mem inside)
    simp only [isPlainAttribute, Bool.and_eq_true, beq_iff_eq, bne_iff_ne] at kept
    rw [same row inside]
    exact kept.1.2

/-- The only unit variant of a tag is found by it. -/
theorem unitVariant?_of_tag {variants : List Schema.Variant}
    (distinct : ((variants.filter isUnit).map Schema.Variant.tag).Nodup) {v : Schema.Variant}
    (member : v ∈ variants) (carries : v.payload = .unit) :
    unitVariant? v.tag variants = some v := by
  have isUnit : isUnit v = true := beq_iff_eq.mpr carries
  refine Search.find?_unique member (by simp [carries]) ?_
  intro other there holds
  simp only [Bool.and_eq_true, beq_iff_eq] at holds
  exact Search.eq_of_key distinct (List.mem_filter.mpr ⟨member, isUnit⟩)
    (List.mem_filter.mpr ⟨there, beq_iff_eq.mpr holds.1⟩) holds.2

/-- The only payload variant of a tag is found by it. -/
theorem payloadVariant?_of_tag {α : Type} {variants : List Schema.Variant}
    (distinct : ((variants.filter fun v => !isUnit v).map Schema.Variant.tag).Nodup)
    {v : Schema.Variant} (member : v ∈ variants) (carries : v.payload ≠ .unit) (part : α) :
    payloadVariant? [(.text v.tag, part)] variants = some (v, part) := by
  have payload {w : Schema.Variant} (inside : w ∈ variants) (carries : w.payload ≠ .unit) :
      w ∈ variants.filter fun v => !isUnit v :=
    List.mem_filter.mpr ⟨inside, by simpa [isUnit] using carries⟩
  have single (tag : String) : partAt? [(Value.text v.tag, part)] tag =
      if v.tag = tag then some part else none := by
    by_cases same : v.tag = tag <;> simp [partAt?, same]
  rcases found : payloadVariant? [(Value.text v.tag, part)] variants with _ | ⟨w, other⟩
  · have absent := partAt?_of_payloadVariant?_none found member carries
    rw [single, if_pos rfl] at absent
    cases absent
  · obtain ⟨inside, otherCarries, there⟩ := mem_of_payloadVariant? found
    rw [single] at there
    split at there
    · rename_i same
      cases there
      rw [Search.eq_of_key distinct (payload member carries)
        (payload inside otherCarries) same.symm]
    · cases there

theorem Loaded.roundTrips_unit (loaded : library.Loaded) (unambiguous : library.Unambiguous)
    {entity : DataEnum} (known : .dataEnum entity ∈ library.classes) {v : Schema.Variant}
    (member : v ∈ entity.variants) (carries : v.payload = .unit) :
    library.RoundTrips (library.typeOf (.dataEnum entity))
      (.choice entity.className (declaredDiscriminant entity v) .null) := by
  refine ⟨_, loaded.encode_unit unambiguous known member carries, fun owner => ?_⟩
  have found := unitVariant?_of_tag (unambiguous.unitTags entity known) member carries
  have notText := unambiguous.className_ne known "str" (by decide)
  have chosen := (unambiguous.clear.ofClass known).discriminant member
  have decoded : library.decodeTag entity v.tag =
      .ok (.choice entity.className (declaredDiscriminant entity v) .null) := by
    rw [decodeTag, found]
    have notText : entity.className ≠ "str" := notText
    simp only [if_neg notText, chosen, loaded.provider, Outcome.ok_bind]
    rfl
  rw [loaded.decoder_typeOf unambiguous.clear.nested known (.string _) (by simp), ← decoded]
  rfl

/-- What stands at the tag of a variant is decoded as its payload. -/
theorem Loaded.decodeChoice_of_tag (loaded : library.Loaded) (unambiguous : library.Unambiguous)
    {entity : DataEnum} (known : .dataEnum entity ∈ library.classes) {v : Schema.Variant}
    (member : v ∈ entity.variants) (carries : v.payload ≠ .unit) {json : Json} {payload : Value}
    (decoded : library.decodePayload entity v (library.decoder (.ofJson json)) = .ok payload)
    (owner : Option String) :
    library.decoder (.ofJson (.object [(v.tag, json)]))
      (.value owner (library.typeOf (.dataEnum entity))) =
      .ok (.choice entity.className (declaredDiscriminant entity v) payload) := by
  have found := payloadVariant?_of_tag (unambiguous.payloadTags entity known) member carries
    (library.decoder (.ofJson (.string v.tag)), library.decoder (.ofJson json))
  have notMap : entity.className ≠ "dict" := unambiguous.className_ne known "dict" (by decide)
  have notTest : entity.className ≠ "isinstance" :=
    unambiguous.className_ne known "isinstance" (by decide)
  have chosen := (unambiguous.clear.ofClass known).discriminant member
  have whole : library.decodeChoice entity (library.entryDecodersOf (.object [(v.tag, json)])) =
      .ok (.choice entity.className (declaredDiscriminant entity v) payload) := by
    have parts : library.entryDecodersOf (.object [(v.tag, json)]) = [(.text v.tag,
        library.decoder (.ofJson (.string v.tag)), library.decoder (.ofJson json))] := rfl
    rw [decodeChoice, parts, found]
    simp only [notMap, notTest, or_self, if_false, chosen, decoded, loaded.provider,
      Outcome.ok_bind]
    rfl
  rw [loaded.decoder_typeOf unambiguous.clear.nested known (.object _) (by simp), ← whole]
  rfl

theorem Loaded.roundTrips_object (loaded : library.Loaded) (unambiguous : library.Unambiguous)
    {entity : DataEnum} (known : .dataEnum entity ∈ library.classes) {v : Schema.Variant}
    (member : v ∈ entity.variants) {fields : List Field} (carries : v.payload = .object fields)
    {payload : Value} (returns : library.RoundTrips (library.typeOf
      (.record (Class.holderPath entity v) v.name.pascal fields)) payload) :
    library.RoundTrips (library.typeOf (.dataEnum entity))
      (.choice entity.className (declaredDiscriminant entity v) payload) := by
  obtain ⟨json, encoded, decoded⟩ := returns
  have notUnit : v.payload ≠ .unit := by simp [carries]
  have notOne (slot : TypeExpr) : v.payload ≠ .tuple [slot] := by simp [carries]
  refine ⟨_, loaded.encode_payload unambiguous known member notUnit notOne encoded, ?_⟩
  refine loaded.decodeChoice_of_tag unambiguous known member notUnit ?_
  have notCodec : entity.className ≠ codecName :=
    unambiguous.className_ne known codecName (by decide)
  simp only [decodePayload, carries, if_neg notCodec]
  exact decoded _

theorem Loaded.roundTrips_tuple (loaded : library.Loaded) (unambiguous : library.Unambiguous)
    (distinct : library.MethodsDistinct)
    {entity : DataEnum} (known : .dataEnum entity ∈ library.classes) {v : Schema.Variant}
    (member : v ∈ entity.variants) {slots : List TypeExpr} (carries : v.payload = .tuple slots)
    {items : List Value} (length : items.length = slots.length)
    (each : ∀ pair ∈ slots.zip items, ∃ chosen, library.HintRoundTrips pair.1 pair.2 chosen) :
    library.RoundTrips (library.typeOf (.dataEnum entity))
      (.choice entity.className (declaredDiscriminant entity v) (.tuple items)) := by
  have notUnit : v.payload ≠ .unit := by simp [carries]
  have notCodec : entity.className ≠ codecName :=
    unambiguous.className_ne known codecName (by decide)
  obtain ⟨rows, rfl, rfl, related⟩ := Outcome.exists_rows_zip length.symm each
  have types : library.slotTypes entity v = .ok (rows.map fun row => row.2.1) := by
    rw [distinct.slotTypes known member carries, List.forall₂_map_left_iff,
      List.forall₂_map_right_iff, List.forall₂_same]
    exact fun row inside => (related row inside).1
  have payloadOf (json : Json) : library.decodePayload entity v (library.decoder (.ofJson json)) =
      library.decodeSlots (library.nameOf (.top entity.className)) v.tag
        (rows.map fun row => row.2.1) (.ofJson json)
        (json.items.map fun item => library.decoder (.ofJson item))
        (library.entryDecodersOf json) := by
    simp only [decodePayload, carries, if_neg notCodec, types, Outcome.ok_bind]
    rw [decoder_ofJson]
    rfl
  by_cases single : ∃ row, rows = [row]
  · obtain ⟨row, rfl⟩ := single
    obtain ⟨-, encoded, decoded⟩ := related row (List.mem_singleton_self row)
    refine ⟨_, loaded.encode_slot unambiguous known member carries encoded, ?_⟩
    refine loaded.decodeChoice_of_tag unambiguous known member notUnit ?_
    have decoded := decoded (some (library.nameOf (.top entity.className)))
    rw [decoder_ofJson] at decoded
    have decoded : library.decodeValue _ _ _ _ _ = .ok row.1.2 := decoded
    rw [payloadOf]
    simp only [List.map_cons, List.map_nil, decodeSlots, entryDecodersOf, decoded]
    rfl
  · have notOne {α : Type} (part : (TypeExpr × Value) × HostType × Json → α) (one : α) :
        rows.map part ≠ [one] := by
      intro same
      obtain ⟨row, made, -⟩ := List.map_eq_singleton_iff.mp same
      exact single ⟨row, made⟩
    have items : library.encodeItems (rows.map fun row => row.1.2) =
        .ok (rows.map fun row => row.2.2) := by
      rw [encodeItems_eq]
      exact Outcome.mapM_map_ok fun row inside => (related row inside).2.1
    have encoded : library.encode (.tuple (rows.map fun row => row.1.2)) =
        .ok (.array (rows.map fun row => row.2.2)) := by
      rw [encode, items]
      rfl
    refine ⟨_, loaded.encode_payload unambiguous known member notUnit ?_ encoded, ?_⟩
    · intro slot same
      rw [carries] at same
      exact notOne _ slot (Schema.Payload.tuple.inj same)
    refine loaded.decodeChoice_of_tag unambiguous known member notUnit ?_
    rw [payloadOf, decodeSlots_array (notOne _) (by simp [Json.items])]
    simp only [Json.items, List.map_map, List.zip_map']
    rw [Outcome.mapM_map_ok fun row inside => (related row inside).2.2 _]
    rfl

/-- What is expected comes back, as whichever type it is. -/
theorem Loaded.roundTrips (loaded : library.Loaded) (unambiguous : library.Unambiguous)
    (distinct : library.MethodsDistinct) (resolves : library.Resolves) {expected : Expected}
    {value : Value} (typed : Typed library expected value) (regular : value.Regular)
    {type : HostType}
    (denotes : Denotes library expected type) : library.RoundTrips type value := by
  -- Types of parts are there since all type expressions of a known class stand for one.
  induction typed generalizing type with
  | null => exact ⟨.null, by rw [encode], fun owner => rfl⟩
  | bool value =>
    obtain ⟨resolved⟩ := denotes
    obtain rfl := unambiguous.eq_primitive .bool rfl resolved
    exact ⟨.bool value, by rw [encode], fun owner => rfl⟩
  | int value =>
    obtain ⟨resolved⟩ := denotes
    obtain rfl := unambiguous.eq_primitive .int rfl resolved
    exact ⟨.int value, by rw [encode], fun owner => rfl⟩
  | float value =>
    obtain ⟨resolved⟩ := denotes
    obtain rfl := unambiguous.eq_primitive .float rfl resolved
    exact ⟨.float value, by rw [encode], fun owner => rfl⟩
  | text value =>
    obtain ⟨resolved⟩ := denotes
    obtain rfl := unambiguous.eq_primitive .str rfl resolved
    exact ⟨.string value, by rw [encode], fun owner => rfl⟩
  | list typed ih =>
    cases regular with | list regular => ?_
    obtain ⟨resolved⟩ := denotes
    obtain ⟨itemType, itemResolved, rfl⟩ := resolve_list resolved
    exact roundTrips_list fun item member =>
      ih item member (regular item member) (.hint itemResolved)
  | map present keysTyped valuesTyped keysIh valuesIh =>
    cases regular with | map keys apart keysRegular valuesRegular => ?_
    obtain ⟨resolved⟩ := denotes
    obtain ⟨keyType, valueType, keyResolved, valueResolved, rfl⟩ := resolve_map resolved
    refine roundTrips_map (fun entry member => (keys entry member).1)
      (fun entry member => sameKey_self (keysTyped entry member) (keysRegular entry member)
        (keys entry member).1) apart fun entry member => ?_
    obtain ⟨hashable, reads⟩ := keys entry member
    obtain ⟨text, written, read⟩ := loaded.key_roundTrip unambiguous (keysTyped entry member)
      (present entry member) hashable reads keyResolved
    obtain ⟨json, encoded, decoded⟩ := valuesIh entry member (valuesRegular entry member)
      (.hint valueResolved)
    exact ⟨(text, json), written, read, encoded, decoded⟩
  | named found typed ih =>
    obtain ⟨resolved⟩ := denotes
    rcases typeNamed_ok resolved with ⟨known, there, rfl⟩ | ⟨absent, -⟩
    · cases found.symm.trans there
      exact ih regular (.instanceOf (mem_of_at? found).1)
    · cases found.symm.trans absent
  | record named typed ih =>
    cases denotes with | instanceOf known => ?_
    cases regular with | record regular => ?_
    refine loaded.roundTrips_record unambiguous known named fun pair member => ?_
    have owned := (List.of_mem_zip member).1
    obtain ⟨resolved, found⟩ := resolves _ known _ (List.mem_map_of_mem owned)
    exact (ih pair member (regular pair.2 (List.of_mem_zip member).2) (.hint found)).ofHint found
  | constant tagged =>
    cases denotes with | instanceOf known => ?_
    exact loaded.roundTrips_constant unambiguous known tagged
  | unit member carries =>
    cases denotes with | instanceOf known => ?_
    exact loaded.roundTrips_unit unambiguous known member carries
  | tuple member carries length typed ih =>
    cases denotes with | instanceOf known => ?_
    cases regular with | choice regular => ?_
    cases regular with | tuple regular => ?_
    refine loaded.roundTrips_tuple unambiguous distinct known member carries length
      fun pair inside => ?_
    obtain ⟨slot, item⟩ := List.of_mem_zip inside
    have owned : pair.1 ∈ (Class.dataEnum _).hints :=
      List.mem_flatMap.mpr ⟨_, member, by rw [carries]; exact slot⟩
    obtain ⟨resolved, found⟩ := resolves _ known _ owned
    exact (ih pair inside (regular pair.2 item) (.hint found)).ofHint found
  | object member carries typed ih =>
    cases denotes with | instanceOf known => ?_
    cases regular with | choice regular => ?_
    exact loaded.roundTrips_object unambiguous known member carries
      (ih regular (.instanceOf (holder_mem_classes known member carries)))

/-- What is encoded is decoded again: in a package whose names do not clash and whose type
expressions all stand for types, a value of a class comes back as it was. -/
theorem decode_encode {package : String} {model : Model} {types : List HostType}
    {before after : Memory}
    (loads : (Library.ofTypes package model types).run.run before = (.ok library, after))
    (unambiguous : library.Unambiguous) (distinct : library.MethodsDistinct)
    (resolves : library.Resolves) {type : Class} (known : type ∈ library.classes) {value : Value}
    (typed : Typed library (.instanceOf type) value) (regular : value.Regular) :
    ∃ json, library.encode value = .ok json ∧
      ∀ owner, library.decode json (library.typeOf type) owner = .ok value := by
  have loaded := (Library.ofTypes_ok loads).1
  exact loaded.roundTrips unambiguous distinct resolves typed regular (.instanceOf known)

theorem drawingLibrary_classes : drawingLibrary.classes =
    [drawingClass, .enumeration (.ofEnumeration colorEnum), .dataEnum shapeEnum,
      .enumeration (.ofVariants shapeEnum),
      .record (.nested "Shape" "Framed") "Framed" framedFields] :=
  rfl

private theorem fields_of_drawings {path : ClassPath} {label : String} {fields : List Field}
    (member : .record path label fields ∈ drawingLibrary.classes) :
    fields = drawingFields ∨ fields = framedFields := by
  simp only [drawingLibrary_classes, drawingClass, List.mem_cons, reduceCtorEq, Class.record.injEq,
    List.not_mem_nil, false_or, or_false] at member
  rcases member with ⟨-, -, same⟩ | ⟨-, -, same⟩
  · exact .inl same
  · exact .inr same

private theorem dataEnum_of_drawings {entity : DataEnum}
    (member : .dataEnum entity ∈ drawingLibrary.classes) : entity = shapeEnum := by
  simpa [drawingLibrary_classes, drawingClass] using member

theorem drawingLibrary_unambiguous : drawingLibrary.Unambiguous where
  clear := drawingLibrary_clear
  fieldTags := by
    intro path label fields member
    rcases fields_of_drawings member with rfl | rfl <;> decide
  attributes := by
    intro path label fields member
    rcases fields_of_drawings member with rfl | rfl <;> decide
  unitTags := by
    intro entity member
    obtain rfl := dataEnum_of_drawings member
    decide
  payloadTags := by
    intro entity member
    obtain rfl := dataEnum_of_drawings member
    decide
  classNames := by
    rw [drawingLibrary_classes]
    decide
  reaching := by
    intro entity member
    obtain rfl := dataEnum_of_drawings member
    decide

theorem drawingLibrary_resolves : drawingLibrary.Resolves := by
  have resolved : ∀ type ∈ drawingLibrary.classes, ∀ hint ∈ type.hints,
      (drawingLibrary.resolve hint).isOk = true := by
    rw [drawingLibrary_classes]
    decide
  intro type member hint inside
  have succeeds := resolved type member hint inside
  rcases found : drawingLibrary.resolve hint with fault | type
  · rw [found] at succeeds
    cases succeeds
  · exact ⟨type, rfl⟩

theorem drawing_regular : drawing.Regular := by
  have empty : (shape "EMPTY" "Empty" .null).Regular := .choice .null
  have framed : framedShape.Regular := by
    refine .choice (.record ?_)
    simp [empty, Value.Regular.constant]
  have pair : (shape "PAIR" "Pair" (.tuple [.int 1, framedShape])).Regular := by
    refine .choice (.tuple ?_)
    simp [framed, Value.Regular.int]
  refine .record ?_
  simp only [List.forall_mem_cons, List.not_mem_nil, false_imp_iff, implies_true, and_true]
  constructor
  · refine .list ?_
    simp [empty, pair, Value.Regular.null]
  · apply Value.Regular.map
    · simp [Value.ReadsBack, Value.isHashable]
    · simp
    · simp [Value.Regular.constant]
    · simp [Value.Regular.int]

theorem decode_encode_drawing :
    ∃ json, drawingLibrary.encode drawing = .ok json ∧
      ∀ owner, drawingLibrary.decode json (drawingLibrary.typeOf drawingClass) owner =
        .ok drawing := by
  have known : drawingClass ∈ drawingLibrary.classes := by
    rw [drawingLibrary_classes]
    exact List.mem_cons_self ..
  have loaded := (Library.ofTypes_ok drawingRun_succeeds).1
  have decoded : drawingLibrary.decoder (.ofJson drawingJson)
      (.value none (drawingLibrary.typeOf drawingClass)) = .ok drawing := drawing_decoded
  have sound := loaded.soundAt drawingLibrary_clear drawingLibrary_methods drawingJson
  have typed := sound.value (.instanceOf known) decoded
  exact decode_encode drawingRun_succeeds drawingLibrary_unambiguous drawingLibrary_methods
    drawingLibrary_resolves known typed drawing_regular

/-- A class under the name of another one, which it shares its identity with. -/
def shadowRef : ClassRef where
  serial := 1
  module := "models"
  qualifiedName := "Color"
  name := "Shadow"
  category := .record
  parameters := []
  brackets := .none

def plainColorRef : ClassRef :=
  sampleRef 0 "Color" .record

def sceneRef : ClassRef :=
  sampleRef 2 "Scene" .record

/-- A scene has a color and a shadow, but only the color is collected. -/
def sceneModel : Model where
  classes := [
    sampleClass plainColorRef [("tone", .primitive .int)] [] [],
    sampleClass shadowRef [("tone", .primitive .int)] [] [],
    sampleClass sceneRef [("color", .declared plainColorRef),
      ("shadow", .declared shadowRef)] [] []]
  bindings := [⟨"models", "Color", plainColorRef⟩, ⟨"models", "Shadow", shadowRef⟩,
    ⟨"models", "Scene", sceneRef⟩]
  typeVariables := []

def toneFields : List Field :=
  [⟨.ofSnake "tone", "tone", .named "int"⟩]

def sceneFields : List Field :=
  [⟨.ofSnake "color", "color", .named "Color"⟩, ⟨.ofSnake "shadow", "shadow", .named "Shadow"⟩]

def sceneClass : Class :=
  .record (.top "Scene") "Scene" sceneFields

/-- The package that is generated for scenes, in which shadows have no class. -/
def sceneLibrary : Library where
  package := "sample"
  entities := [.record ⟨.ofPascal "Color", "Color", toneFields⟩,
    .record ⟨.ofPascal "Scene", "Scene", sceneFields⟩]

def sceneRun : Except Failure Library × Memory :=
  (Library.ofTypes "sample" sceneModel [.declared sceneRef]).run.run .empty

theorem sceneRun_succeeds : sceneRun = (.ok sceneLibrary, sceneRun.2) := by
  refine made_of_parts rfl ?_
  rw [sceneRun, Library.ofTypes, Schema.ofTypes_eq_paired (by decide +kernel)]
  decide +kernel

theorem sceneLibrary_unambiguous : sceneLibrary.Unambiguous := by
  refine unambiguous_of_records (by simp [sceneLibrary]) fun made member => ?_
  simp only [sceneLibrary, List.mem_cons, Entity.record.injEq, List.not_mem_nil, or_false] at member
  rcases member with rfl | rfl <;> decide

/-- A scene without anything in it. -/
def emptyScene : Value :=
  .record (.top "Scene") [("color", .null), ("shadow", .null)]

/-- Names that do not clash are not enough: a class whose identity another class has is not
collected, and nothing that mentions it can be decoded. -/
theorem not_decode_encode_shadow :
    ¬ ∀ (package : String) (model : Model) (types : List HostType) (before after : Memory)
      (library : Library),
      (Library.ofTypes package model types).run.run before = (.ok library, after) →
      library.Unambiguous → library.MethodsDistinct → ∀ type ∈ library.classes, ∀ value,
      Typed library (.instanceOf type) value → value.Regular →
      ∃ json, library.encode value = .ok json ∧
        ∀ owner, library.decode json (library.typeOf type) owner = .ok value := by
  intro returns
  have known : sceneClass ∈ sceneLibrary.classes := by
    exact mem_classes.mpr
      ⟨.record ⟨.ofPascal "Scene", "Scene", sceneFields⟩, by simp [sceneLibrary],
      by decide, List.mem_singleton_self _⟩
  have typed : Typed sceneLibrary (.instanceOf sceneClass) emptyScene := by
    refine .record rfl ?_
    simp [sceneFields, Typed.null]
  have regular : emptyScene.Regular := by
    refine .record ?_
    simp [Value.Regular.null]
  have distinct : sceneLibrary.MethodsDistinct := by
    intro entity member
    simp [sceneLibrary] at member
  obtain ⟨json, encoded, decoded⟩ := returns _ _ _ _ _ _ sceneRun_succeeds sceneLibrary_unambiguous
    distinct sceneClass known emptyScene typed regular
  have written : sceneLibrary.encode emptyScene =
      .ok (.object [("color", .null), ("shadow", .null)]) := rfl
  cases written.symm.trans encoded
  have refused : (sceneLibrary.decode (.object [("color", .null), ("shadow", .null)])
      (sceneLibrary.typeOf sceneClass) none).isOk = false := rfl
  rw [decoded none] at refused
  cases refused

end Library

end WireModel.Codec
