import WireModel.Proofs.Codec.Reading
import WireModel.Proofs.Codec.RoundTrip
import WireModel.Proofs.Collection.Tags

/-!
What is written for a value is what the declared types say. The encoder looks at the value and its
class alone, and agrees on every value of a type with the encoding along that type.
-/

namespace WireModel

namespace Codec

open Schema Text
open Collect (describeFields_tags describeVariant_ok describeSlots_ok describeObject_ok)
open Render.Python (attributeName keptName)

/-- All that is read has been described by a class of the package. -/
structure Reading.Describes (read : Reading) (model : Model) (library : Library) : Prop where
  members : read.members = model.members
  described : ∀ type content entity, read.classOf type = some (content, entity) →
    entity ∈ library.entities ∧
      ∃ shown, Collect.describe model .python shown content = .ok (some entity)

theorem describeFields_attributes {fields : List (String × HostType)} {described : List Field}
    (found : fields.mapM (Collect.describeField .python) = .ok described) :
    described.map attributeName = fields.map attributeOf := by
  rw [Outcome.mapM_ok] at found
  induction found with
  | nil => rfl
  | cons first _ ih =>
    obtain ⟨text, -, same⟩ := Outcome.bind_ok.mp first
    obtain rfl := Outcome.pure_ok.mp same
    rw [List.map_cons, List.map_cons, ih]
    rfl

/-- A record describes the fields that its type is made of. -/
theorem describe_record {model : Model} {shown : HostType} {content : Content} {entity : Record}
    (described : Collect.describe model .python shown content = .ok (some (.record entity))) :
    ∃ ref fields, content = .record ref fields ∧
      fields.mapM (Collect.describeField .python) = .ok entity.fields := by
  cases content with
  | primitive => cases described
  | container => cases described
  | record ref fields =>
    obtain ⟨className, -, described⟩ := Outcome.bind_ok.mp described
    obtain ⟨parts, each, same⟩ := Outcome.bind_ok.mp described
    cases Outcome.pure_ok.mp same
    exact ⟨ref, fields, rfl, each⟩
  | enumeration ref =>
    obtain ⟨className, -, same⟩ := Outcome.bind_ok.mp described
    cases Outcome.pure_ok.mp same
  | dataEnum ref variants =>
    obtain ⟨className, -, described⟩ := Outcome.bind_ok.mp described
    obtain ⟨parts, -, same⟩ := Outcome.bind_ok.mp described
    cases Outcome.pure_ok.mp same

namespace Library

variable {model : Model} {library : Library} {read : Reading}

/-- The names of classes are kept as they are, and the constants of an enumeration are apart. -/
structure NamesKept (library : Library) : Prop where
  classes : ∀ entity ∈ library.entities, normalized entity.className = entity.className
  constants : ∀ entity, .enumeration entity ∈ library.entities →
    ((Constants.ofEnumeration entity).entries.map Prod.fst).Nodup

theorem NamesKept.record_mem (kept : library.NamesKept) {entity : Record}
    (member : .record entity ∈ library.entities) :
    .record (.top entity.className) entity.className entity.fields ∈ library.classes :=
  mem_classes.mpr ⟨_, member, kept.classes _ member, List.mem_singleton_self _⟩

theorem NamesKept.dataEnum_mem (kept : library.NamesKept) {entity : DataEnum}
    (member : .dataEnum entity ∈ library.entities) : .dataEnum entity ∈ library.classes :=
  dataEnum_mem_classes.mpr ⟨member, kept.classes _ member⟩

/-- The fields of a class are written as they were declared. -/
theorem Loaded.encode_declared (loaded : library.Loaded) (unambiguous : library.Unambiguous)
    {path : ClassPath} {label : String} {described : List Field}
    (known : .record path label described ∈ library.classes) {fields : List (String × HostType)}
    (found : fields.mapM (Collect.describeField .python) = .ok described)
    {attributes : List (String × Value)}
    (named : attributes.map Prod.fst = fields.map attributeOf)
    (each : ∀ pair ∈ fields.zip attributes,
      library.encode pair.2.2 = .ok (read.encode (.value pair.1.2) pair.2.2)) :
    library.encode (.record path attributes) =
      .ok (.object (read.encodeFields fields attributes)) := by
  have names := describeFields_attributes found
  have tags := describeFields_tags found
  have length : fields.length = attributes.length := by
    rw [← List.length_map attributeOf, ← named, List.length_map]
  rw [Reading.encodeFields_eq]
  generalize paired : fields.zip attributes = pairs at each ⊢
  have first : fields = pairs.map Prod.fst := by
    rw [← paired, List.map_fst_zip (Nat.le_of_eq length)]
  have second : attributes = pairs.map Prod.snd := by
    rw [← paired, List.map_snd_zip (Nat.le_of_eq length.symm)]
  have encoded : List.Forall₂ (fun (part : String × Value) json => library.encode part.2 = .ok json)
      attributes (pairs.map fun pair => read.encode (.value pair.1.2) pair.2.2) := by
    rw [second, List.forall₂_map_left_iff, List.forall₂_map_right_iff, List.forall₂_same]
    exact each
  rw [loaded.encode_record unambiguous known (named.trans names.symm) encoded, tags, first,
    List.map_map, List.zip_map']
  rfl

/-- The constant of a member is written as its tag. -/
theorem memberTag_declared (describes : read.Describes model library) (kept : library.NamesKept)
    {type : HostType} {ref : ClassRef} {entity : Schema.Enumeration}
    (found : read.classOf type = some (.enumeration ref, .enumeration entity)) {member : Member}
    (inside : member ∈ read.members ref) :
    read.memberTag (.value type) (constantNameOf entity.className member) = member.tag := by
  obtain ⟨known, shown, described⟩ := describes.described _ _ _ found
  obtain ⟨className, -, same⟩ := Outcome.bind_ok.mp described
  obtain rfl : entity = Collect.enumeration model ref className := by
    simpa using Outcome.pure_ok.mp same
  have distinct := kept.constants _ known
  have names : (Constants.ofEnumeration (Collect.enumeration model ref className)).entries.map
      Prod.fst = (read.members ref).map (constantNameOf className) := by
    simp only [Constants.ofEnumeration, Collect.enumeration, List.map_map, Function.comp_def,
      describes.members]
    exact List.map_congr_left fun other _ => (by rw [constantNameOf])
  rw [names] at distinct
  have only : (read.members ref).find? (fun other =>
      constantNameOf className other == constantNameOf className member) = some member := by
    refine Search.find?_unique inside (beq_self_eq_true _) fun other there same => ?_
    exact Search.eq_of_key distinct inside there (beq_iff_eq.mp same)
  have only : (read.members ref).find? (fun other => constantNameOf
      (Entity.enumeration (Collect.enumeration model ref className)).className other ==
      constantNameOf (Collect.enumeration model ref className).className member) =
        some member := only
  simp only [Reading.memberTag, found, only, Option.map_some, Option.getD_some]

/-- A key is written as it was declared. -/
theorem keyText_declared (describes : read.Describes model library) (kept : library.NamesKept)
    {type : HostType} {key : Value} (conforms : read.Conforms type key) (present : key ≠ .null)
    (hashable : key.isHashable = true) :
    library.keyText key = .ok (read.keyText (.value type) key) := by
  cases conforms with
  | null => exact absurd rfl present
  | bool value => rfl
  | int value => rfl
  | float value => rfl
  | text value => rfl
  | list => cases hashable
  | map => cases hashable
  | constant found inside =>
    rw [Reading.keyText, memberTag_declared describes kept found inside]
    rfl
  | record => cases hashable
  | unit => cases hashable
  | tuple => cases hashable
  | object => cases hashable
  | withoutHolder => cases hashable

/-- A declared variant has one of its own in the class, and is found by the discriminant of that. -/
theorem variant_declared (describes : read.Describes model library) (clear : library.AllClear)
    {type : HostType} {ref : ClassRef} {variants : List WireModel.Variant} {entity : DataEnum}
    (found : read.classOf type = some (.dataEnum ref variants, .dataEnum entity))
    {declared : WireModel.Variant} (inside : declared ∈ variants) :
    .dataEnum entity ∈ library.entities ∧
      (∃ v ∈ entity.variants, v.name = .ofPascal declared.name ∧ v.tag = declared.tag ∧
        Collect.describePayload .python declared.payload = .ok v.payload) ∧
      read.variant? (.value type) (discriminantOf entity.className (.ofPascal declared.name)) =
        some declared := by
  obtain ⟨known, shown, described⟩ := describes.described _ _ _ found
  obtain ⟨className, -, described⟩ := Outcome.bind_ok.mp described
  obtain ⟨made, each, same⟩ := Outcome.bind_ok.mp described
  obtain rfl : entity = ⟨.ofPascal ref.name, className, .external, made⟩ := by
    simpa using Outcome.pure_ok.mp same
  rw [Outcome.mapM_ok] at each
  refine ⟨known, ?_, ?_⟩
  · obtain ⟨v, member, related⟩ := Outcome.exists_related each inside
    exact ⟨v, member, describeVariant_ok related⟩
  · have named : List.Forall₂ Eq (variants.map variantConstant)
        (made.map fun v => normalized v.name.upperSnake) := by
      rw [List.forall₂_map_left_iff, List.forall₂_map_right_iff]
      refine each.imp fun declared v related => ?_
      rw [(describeVariant_ok related).1]
      rfl
    rw [List.forall₂_eq_eq_eq] at named
    have distinct : (variants.map variantConstant).Nodup := named ▸ (clear _ known).constants
    simp only [Reading.variant?, found, discriminantOf]
    refine Search.find?_unique inside (beq_self_eq_true _) fun other there same => ?_
    exact Search.eq_of_key distinct inside there (beq_iff_eq.mp same)

/-- The slots of a tuple variant are written as they were declared. -/
theorem Loaded.encode_slots (loaded : library.Loaded) (unambiguous : library.Unambiguous)
    {entity : DataEnum} (known : .dataEnum entity ∈ library.classes) {v : Schema.Variant}
    (member : v ∈ entity.variants) {slots : List HostType} {types : List TypeExpr}
    (carries : v.payload = .tuple types) (same : types.length = slots.length) {items : List Value}
    (length : items.length = slots.length)
    (each : ∀ pair ∈ slots.zip items,
      library.encode pair.2 = .ok (read.encode (.value pair.1) pair.2)) :
    library.encode (.choice entity.className (declaredDiscriminant entity v) (.tuple items)) =
      .ok (.object [(v.tag, read.encode (.carried (.tuple slots)) (.tuple items))]) := by
  have parts : read.encodeSlots (Place.carried (.tuple slots)).slots items =
      (slots.zip items).map fun pair => read.encode (.value pair.1) pair.2 :=
    read.encodeSlots_eq slots items
  by_cases single : ∃ slot, slots = [slot]
  · obtain ⟨slot, rfl⟩ := single
    obtain ⟨item, rfl⟩ := List.length_eq_one_iff.mp length
    obtain ⟨type, rfl⟩ := List.length_eq_one_iff.mp same
    rw [loaded.encode_slot unambiguous known member carries (each (slot, item) (by simp)),
      Reading.encode, parts]
    rfl
  · have notOne : slots.length ≠ 1 := by
      intro one
      exact single (List.length_eq_one_iff.mp one)
    generalize paired : slots.zip items = pairs at each parts
    have items_eq : items = pairs.map Prod.snd := by
      rw [← paired, List.map_snd_zip (Nat.le_of_eq length)]
    have size : pairs.length = slots.length := by
      rw [← length, items_eq, List.length_map]
    have encoded : library.encodeItems items =
        .ok (pairs.map fun pair => read.encode (.value pair.1) pair.2) := by
      rw [items_eq, Library.encodeItems_eq]
      exact Outcome.mapM_map_ok each
    have whole : library.encode (.tuple items) =
        .ok (.array (pairs.map fun pair => read.encode (.value pair.1) pair.2)) := by
      rw [encode, encoded]
      rfl
    have notUnit : v.payload ≠ .unit := by simp [carries]
    have notSlot (slot : TypeExpr) : v.payload ≠ .tuple [slot] := by
      rw [carries]
      rintro found
      cases found
      exact notOne same.symm
    rw [loaded.encode_payload unambiguous known member notUnit notSlot whole, Reading.encode, parts]
    split
    · rename_i json found
      have one := congrArg List.length found
      rw [List.length_map, size] at one
      exact absurd one notOne
    · rfl

/-- What is written for a value that conforms to a type is its encoding along the type. -/
theorem Loaded.encode_conforming (loaded : library.Loaded) (unambiguous : library.Unambiguous)
    (kept : library.NamesKept) (describes : read.Describes model library) {type : HostType}
    {value : Value} (conforms : read.Conforms type value) :
    library.encode value = .ok (read.encode (.value type) value) := by
  induction conforms with
  | null => rw [encode, Reading.encode]
  | bool value => rw [encode, Reading.encode]
  | int value => rw [encode, Reading.encode]
  | float value => rw [encode, Reading.encode]
  | text value => rw [encode, Reading.encode]
  | @list type item _ _ items shape _ ih =>
    have argument : (Place.value type).argument 0 = .value item := by
      simp [Place.argument, shape, HostType.parts]
    have encoded : library.encodeItems items = .ok (items.map (read.encode (.value item))) := by
      rw [Library.encodeItems_eq, Outcome.mapM_ok, List.forall₂_map_right_iff, List.forall₂_same]
      exact ih
    rw [encode, encoded, Reading.encode, argument, Reading.encodeItems_eq]
    rfl
  | @map type key value _ _ entries shape keys keysConform _ _ ih =>
    have first : (Place.value type).argument 0 = .value key := by
      simp [Place.argument, shape, HostType.parts]
    have second : (Place.value type).argument 1 = .value value := by
      simp [Place.argument, shape, HostType.parts]
    have encoded : library.encodeEntries entries = .ok (entries.map fun entry =>
        (read.keyText (.value key) entry.1, read.encode (.value value) entry.2)) := by
      rw [Library.encodeEntries_eq, Outcome.mapM_ok, List.forall₂_map_right_iff, List.forall₂_same]
      intro entry member
      obtain ⟨present, hashable⟩ := keys entry member
      rw [keyText_declared describes kept (keysConform entry member) present hashable,
        Outcome.ok_bind, ih entry member]
      rfl
    rw [encode, encoded, Reading.encode, first, second, Reading.encodeEntries_eq]
    rfl
  | constant found inside =>
    rw [encode, Reading.encode, memberTag_declared describes kept found inside]
  | record found named _ ih =>
    obtain ⟨known, shown, described⟩ := describes.described _ _ _ found
    obtain ⟨ref, fields, same, parts⟩ := describe_record described
    cases same
    rw [loaded.encode_declared unambiguous (kept.record_mem known) parts named ih, Reading.encode]
    simp only [Reading.fields, found]
  | unit found inside carries =>
    obtain ⟨known, ⟨v, member, name, tag, payload⟩, chosen⟩ :=
      variant_declared describes unambiguous.clear found inside
    rw [carries] at payload
    have written : library.encode (.choice _ (declaredDiscriminant _ v) .null) =
        .ok (.string v.tag) :=
      loaded.encode_unit unambiguous (kept.dataEnum_mem known) member (Outcome.pure_ok.mp payload)
    rw [declaredDiscriminant, name] at written
    rw [written, Reading.encode]
    simp only [chosen, carries, tag]
  | tuple found inside carries length _ ih =>
    obtain ⟨known, ⟨v, member, name, tag, payload⟩, chosen⟩ :=
      variant_declared describes unambiguous.clear found inside
    rw [carries] at payload
    obtain ⟨types, carried, same⟩ := describeSlots_ok payload
    have written := loaded.encode_slots unambiguous (kept.dataEnum_mem known) member carried same
      length ih
    rw [declaredDiscriminant, name] at written
    rw [written, Reading.encode_choice chosen (by simp [carries]), carries, tag]
  | object found inside carries named _ ih =>
    obtain ⟨known, ⟨v, member, name, tag, payload⟩, chosen⟩ :=
      variant_declared describes unambiguous.clear found inside
    rw [carries] at payload
    obtain ⟨parts, carried, made⟩ := describeObject_ok payload
    have holder := holder_mem_classes (kept.dataEnum_mem known) member carried
    have encoded := loaded.encode_declared unambiguous holder made named ih
    have written := loaded.encode_payload unambiguous (kept.dataEnum_mem known) member
      (by simp [carried]) (by simp [carried]) encoded
    rw [declaredDiscriminant, Class.holderPath, name] at written
    rw [written, Reading.encode_choice chosen (by simp [carries]), carries, tag, Reading.encode]
    rfl
  | withoutHolder found inside carries =>
    -- An absent holder stands at the tag like any other one.
    obtain ⟨known, ⟨v, member, name, tag, payload⟩, chosen⟩ :=
      variant_declared describes unambiguous.clear found inside
    rw [carries] at payload
    obtain ⟨parts, carried, -⟩ := describeObject_ok payload
    have absent : library.encode .null = .ok .null := by rw [encode]
    have written := loaded.encode_payload unambiguous (kept.dataEnum_mem known) member
      (by simp [carried]) (by simp [carried]) absent
    rw [declaredDiscriminant, name] at written
    rw [written, Reading.encode_choice chosen (by simp [carries]), tag, Reading.encode]

end Library

end Codec

section Walk

open Schema Codec

variable {model : Model} {start : Memory} {roots : List HostType} {before after : Collection}
  {walk : List Expansion} {library : Library}

theorem Codec.Reading.ofWalk_classOf {type : HostType} {content : Content} {entity : Entity}
    (found : (ofWalk model walk).classOf type = some (content, entity)) :
    ∃ expansion ∈ walk, expansion.content = content ∧ expansion.entity = some entity := by
  unfold ofWalk at found
  dsimp only at found
  split at found
  · obtain ⟨expansion, there, same⟩ := Option.bind_eq_some_iff.mp found
    obtain ⟨made, isMade, same⟩ := Option.map_eq_some_iff.mp same
    cases same
    exact ⟨expansion, List.mem_of_find?_eq_some there, rfl, isMade⟩
  · cases found

/-- A type with a class is neither optional nor boxed. -/
theorem Expansion.Valid.bare_view {target : Target} {expansion : Expansion}
    (valid : expansion.Valid model start target) {entity : Entity}
    (made : expansion.entity = some entity) :
    expansion.type.bare.view = expansion.type.view := by
  obtain ⟨-, content, described⟩ := valid
  obtain ⟨type, identity, shown, made'⟩ := expansion
  dsimp only at content described made ⊢
  subst made
  cases content with
  | primitive => cases described
  | container => cases described
  | record seenAs => exact HostType.bare_view (by simp [seenAs]) (by simp [seenAs])
  | enumeration seenAs => exact HostType.bare_view (by simp [seenAs]) (by simp [seenAs])
  | dataEnum seenAs => exact HostType.bare_view (by simp [seenAs]) (by simp [seenAs])

/-- A type that a class was collected for is read as its own declaration says. -/
theorem Walked.ofWalk_classOf (walked : Walked model start roots before after walk)
    {expansion : Expansion} (member : expansion ∈ walk) {entity : Entity}
    (made : expansion.entity = some entity) :
    (Reading.ofWalk model walk).classOf expansion.type = some (expansion.content, entity) := by
  have valid := walked.valid _ member
  have identity : expansion.type.bare.view.identity = .ok expansion.identity := by
    rw [valid.bare_view made]
    exact valid.identity
  have found : walk.find? (fun other => other.identity == expansion.identity) = some expansion := by
    refine Search.find?_unique member (beq_self_eq_true _) fun other there same => ?_
    exact Search.eq_of_key walked.distinct member there (beq_iff_eq.mp same)
  simp only [Reading.ofWalk, identity, found, Option.bind_some, made, Option.map_some]

theorem Walked.describes (walked : Walked model start roots (.empty .python) after walk)
    (collected : library.entities = after.schema.entities) {read : Reading}
    (follows : read.Follows (.ofWalk model walk)) : read.Describes model library where
  members := follows.members
  described := by
    intro type content entity found
    obtain ⟨expansion, member, rfl, made⟩ :=
      Reading.ofWalk_classOf (follows.classOf type _ found)
    constructor
    · rw [collected, walked.entities.mem_iff]
      exact List.mem_append_right _ (List.mem_filterMap.mpr ⟨expansion, member, made⟩)
    · exact ⟨expansion.type, made ▸ (walked.valid _ member).entity⟩

/-- Each class was collected for a type of the walk. -/
theorem Walked.exists_expansion (walked : Walked model start roots (.empty .python) after walk)
    (collected : library.entities = after.schema.entities) {entity : Entity}
    (member : entity ∈ library.entities) :
    ∃ expansion ∈ walk, expansion.entity = some entity := by
  rw [collected, walked.entities.mem_iff] at member
  rcases List.mem_append.mp member with old | new
  · simp [Collection.empty, Schema.empty, Schema.entities] at old
  · exact List.mem_filterMap.mp new

end Walk

namespace Codec

open Schema Text
open Render.Python (attributeName keptName)

namespace Library

theorem drawingLibrary_namesKept : drawingLibrary.NamesKept where
  classes := by decide
  constants := by
    intro entity member
    obtain rfl : entity = colorEnum := by simpa [drawingLibrary] using member
    decide +kernel

def drawingTypes : List HostType :=
  [.declared drawingRef, .declared shapeRef, .declared colorRef,
    .applied (.list .native) [.declared shapeRef],
    .applied (.map .native) [.declared colorRef, .primitive .int], .primitive .int,
    .primitive .float]

def drawingParts : List (String × HostType) :=
  [("shapes", .applied (.list .native) [.declared shapeRef]),
    ("counts", .applied (.map .native) [.declared colorRef, .primitive .int])]

theorem content_drawing {content : Content}
    (made : HasContent drawingModel .empty (.declared drawingRef) content) :
    content = .record drawingRef drawingParts := by
  refine made.eq_record rfl (fun _ => rfl) ?_
  simp only [drawingParts, List.forall_mem_cons, List.not_mem_nil, false_imp_iff,
    implies_true, and_true]
  exact ⟨fun _ _ => rfl, fun _ _ => rfl⟩

def shapeVariants : List WireModel.Variant :=
  [⟨"Empty", .unit, none⟩, ⟨"Circle", .tuple [.primitive .float], none⟩,
    ⟨"Pair", .tuple [.primitive .int, .declared shapeRef], some "pair"⟩,
    ⟨"Framed", .object [("inner", .declared shapeRef), ("color", .declared colorRef)], none⟩]

theorem content_shape {content : Content}
    (made : HasContent drawingModel .empty (.declared shapeRef) content) :
    content = .dataEnum shapeRef shapeVariants := by
  have variants : drawingModel.variants shapeRef = shapeVariants := rfl
  rw [← variants]
  refine made.eq_dataEnum rfl fun offered member hint inside => ?_
  rw [variants] at member
  simp only [shapeVariants, List.mem_cons, List.not_mem_nil, or_false] at member
  rcases member with rfl | rfl | rfl | rfl <;>
    simp only [Payload.types, List.map_cons, List.map_nil, List.mem_cons, List.not_mem_nil,
      or_false] at inside
  · rw [inside]
    exact fun _ _ => rfl
  · rcases inside with rfl | rfl <;> exact fun _ _ => rfl
  · rcases inside with rfl | rfl <;> exact fun _ _ => rfl

theorem content_color {content : Content}
    (made : HasContent drawingModel .empty (.declared colorRef) content) :
    content = .enumeration colorRef := by
  cases made with
  | enumeration seenAs =>
    cases (show View.enumeration colorRef = .enumeration _ from seenAs)
    rfl
  | container isContainer => exact isContainer.elim
  | primitive seenAs => cases (show View.enumeration colorRef = .primitive _ from seenAs)
  | record seenAs => cases (show View.enumeration colorRef = .record _ _ from seenAs)
  | dataEnum seenAs => cases (show View.enumeration colorRef = .dataEnum _ _ from seenAs)

theorem content_leaf {type : HostType} {shown : Primitive} {content : Content}
    (seenAs : type.view = .primitive shown) (made : HasContent drawingModel .empty type content) :
    content = .primitive := by
  cases made with
  | primitive => rfl
  | container isContainer =>
    rw [seenAs] at isContainer
    exact isContainer.elim
  | record other | enumeration other | dataEnum other => cases seenAs.symm.trans other

theorem needed_drawing {type : HostType}
    (needed : Needed drawingModel .empty [.declared drawingRef] type) : type ∈ drawingTypes := by
  induction needed with
  | root member =>
    rw [List.mem_singleton.mp member]
    exact List.mem_cons_self ..
  | dependency _ made inside ih =>
    simp only [drawingTypes, List.mem_cons, List.not_mem_nil, or_false] at ih
    rcases ih with rfl | rfl | rfl | rfl | rfl | rfl | rfl
    · rw [content_drawing made] at inside
      simp only [Content.dependencies, drawingParts, List.map_cons, List.map_nil, List.mem_cons,
        List.not_mem_nil, or_false] at inside
      rcases inside with rfl | rfl <;> simp [drawingTypes]
    · rw [content_shape made] at inside
      simp only [Content.dependencies, shapeVariants, Payload.types, List.flatMap_cons,
        List.flatMap_nil, List.map_cons, List.map_nil, List.nil_append, List.cons_append,
        List.mem_cons, List.not_mem_nil, or_false] at inside
      rcases inside with rfl | rfl | rfl | rfl | rfl <;> simp [drawingTypes]
    · rw [content_color made] at inside
      cases inside
    · rw [made.eq_container trivial] at inside
      rw [List.mem_singleton.mp inside]
      simp [drawingTypes]
    · rw [made.eq_container trivial] at inside
      simp only [Content.dependencies, HostType.parts, List.mem_cons, List.not_mem_nil,
        or_false] at inside
      rcases inside with rfl | rfl <;> simp [drawingTypes]
    · rw [content_leaf rfl made] at inside
      cases inside
    · rw [content_leaf rfl made] at inside
      cases inside

theorem describe_drawing :
    Collect.describe drawingModel .python (.declared drawingRef) (.record drawingRef drawingParts) =
      .ok (some (.record ⟨.ofPascal "Drawing", "Drawing", drawingFields⟩)) := by
  rfl

theorem describe_shape :
    Collect.describe drawingModel .python (.declared shapeRef) (.dataEnum shapeRef shapeVariants) =
      .ok (some (.dataEnum shapeEnum)) :=
  Outcome.ok_of_toOption (by decide +kernel)

theorem describe_color :
    Collect.describe drawingModel .python (.declared colorRef) (.enumeration colorRef) =
      .ok (some (.enumeration colorEnum)) :=
  Outcome.ok_of_toOption (by decide +kernel)

/-- A shape is a choice of the variant that its discriminant is named for. -/
theorem shape_eq {constant tag : String} (name : String) (payload : Value)
    (upper : normalized (Name.ofPascal name).upperSnake = constant)
    (kept : (Name.ofPascal name).pascal = tag) : shape constant tag payload =
      .choice shapeEnum.className (discriminantOf shapeEnum.className (.ofPascal name))
        payload := by
  subst upper kept
  rfl

section Drawing

variable {collection : Collection} {walk : List Expansion}
  (walked : Walked drawingModel .empty [.declared drawingRef] (.empty .python) collection walk)

include walked

/-- Each type that drawings need was walked itself where its identity was met. -/
theorem exists_expansion_drawing {type : HostType} (inside : type ∈ drawingTypes)
    (met : collection.Met type) : ∃ expansion ∈ walk, expansion.type = type := by
  have distinct : (drawingTypes.map fun type => type.view.identity.toOption).Nodup := by decide
  obtain ⟨identity, seen, identified⟩ := met
  rw [walked.seen] at seen
  obtain ⟨expansion, member, rfl⟩ := List.mem_map.mp (by simpa [Collection.empty] using seen)
  have needed := needed_drawing (walked.needed (walked.reached expansion member))
  refine ⟨expansion, member, Search.eq_of_key distinct inside needed ?_⟩
  rw [(walked.valid expansion member).identity, identified]

theorem met_drawing {type part : HostType} (inside : type ∈ drawingTypes)
    (met : collection.Met type) {content : Content}
    (unique : ∀ {found}, HasContent drawingModel .empty type found → found = content)
    (member : part ∈ content.dependencies) : collection.Met part := by
  obtain ⟨expansion, walkedOnce, rfl⟩ := exists_expansion_drawing walked inside met
  refine walked.closed expansion walkedOnce part ?_
  rw [Expansion.dependencies, unique (walked.valid expansion walkedOnce).content]
  exact member

/-- A class that drawings need is read as it was declared. -/
theorem classOf_drawing {type : HostType} (inside : type ∈ drawingTypes) (met : collection.Met type)
    {content : Content} (unique : ∀ {found}, HasContent drawingModel .empty type found →
      found = content)
    {entity : Entity} (described : Collect.describe drawingModel .python type content =
      .ok (some entity)) :
    (Reading.ofWalk drawingModel walk).classOf type = some (content, entity) := by
  obtain ⟨expansion, member, rfl⟩ := exists_expansion_drawing walked inside met
  have valid := walked.valid expansion member
  have made : expansion.entity = some entity := by
    have known := valid.entity
    rw [unique valid.content, show (Collection.empty Target.python).target = .python from rfl,
      described] at known
    exact (Except.ok.inj known).symm
  rw [walked.ofWalk_classOf member made, unique valid.content]

theorem conforms_drawing :
    (Reading.ofWalk drawingModel walk).Conforms (.declared drawingRef) drawing := by
  have drawings : collection.Met (.declared drawingRef) :=
    walked.rooted _ (List.mem_singleton_self _)
  have lists : collection.Met (.applied (.list .native) [.declared shapeRef]) :=
    met_drawing walked (by simp [drawingTypes]) drawings content_drawing
      (by simp [Content.dependencies, drawingParts])
  have maps : collection.Met (.applied (.map .native) [.declared colorRef, .primitive .int]) :=
    met_drawing walked (by simp [drawingTypes]) drawings content_drawing
      (by simp [Content.dependencies, drawingParts])
  have shapes : collection.Met (.declared shapeRef) :=
    met_drawing walked (by simp [drawingTypes]) lists (fun made => made.eq_container trivial)
      (by simp [Content.dependencies, HostType.parts])
  have colors : collection.Met (.declared colorRef) :=
    met_drawing walked (by simp [drawingTypes]) maps (fun made => made.eq_container trivial)
      (by simp [Content.dependencies, HostType.parts])
  have drawingClass : (Reading.ofWalk drawingModel walk).classOf (.declared drawingRef) =
      some (.record drawingRef drawingParts,
        .record ⟨.ofPascal "Drawing", "Drawing", drawingFields⟩) :=
    classOf_drawing walked (by simp [drawingTypes]) drawings content_drawing describe_drawing
  have shapeClass : (Reading.ofWalk drawingModel walk).classOf (.declared shapeRef) =
      some (.dataEnum shapeRef shapeVariants, .dataEnum shapeEnum) :=
    classOf_drawing walked (by simp [drawingTypes]) shapes content_shape describe_shape
  have colorClass : (Reading.ofWalk drawingModel walk).classOf (.declared colorRef) =
      some (.enumeration colorRef, .enumeration colorEnum) :=
    classOf_drawing walked (by simp [drawingTypes]) colors content_color describe_color
  have color {member : Member} {constant tag : String}
      (inside : member ∈ drawingModel.members colorRef)
      (named : constantNameOf "Color" member = constant) (written : member.tag = tag) :
      (Reading.ofWalk drawingModel walk).Conforms (.declared colorRef)
        (.constant (.top "Color") constant tag) := by
    subst named written
    exact .constant colorClass inside
  have red : (Reading.ofWalk drawingModel walk).Conforms (.declared colorRef)
      (.constant (.top "Color") "RED" "red") :=
    color (List.mem_cons_self ..) (by decide +kernel) rfl
  have blue : (Reading.ofWalk drawingModel walk).Conforms (.declared colorRef)
      (.constant (.top "Color") "BLUE" "BLUE") :=
    color (List.mem_cons_of_mem _ (List.mem_cons_self ..)) (by decide +kernel) rfl
  have empty : (Reading.ofWalk drawingModel walk).Conforms (.declared shapeRef)
      (shape "EMPTY" "Empty" .null) := by
    have known : (⟨"Empty", .unit, none⟩ : WireModel.Variant) ∈ shapeVariants := by
      simp [shapeVariants]
    rw [shape_eq "Empty" _ (by decide +kernel) (by decide +kernel)]
    have conforms := Reading.Conforms.unit shapeClass known rfl
    exact conforms
  have framed : (Reading.ofWalk drawingModel walk).Conforms (.declared shapeRef) framedShape := by
    have known : (⟨"Framed", .object [("inner", .declared shapeRef), ("color", .declared colorRef)],
        none⟩ : WireModel.Variant) ∈ shapeVariants := by
      simp [shapeVariants]
    have holder : normalized (Name.ofPascal "Framed").pascal = "Framed" := by decide +kernel
    have each : ∀ pair ∈ [("inner", .declared shapeRef), ("color", .declared colorRef)].zip
          [("inner", shape "EMPTY" "Empty" .null), ("color", .constant (.top "Color") "RED" "red")],
        (Reading.ofWalk drawingModel walk).Conforms pair.1.2 pair.2.2 := by
      simp only [List.zip_cons_cons, List.zip_nil_right, List.forall_mem_cons]
      exact ⟨empty, red, by simp⟩
    have conforms := Reading.Conforms.object shapeClass known rfl (by decide) each
    dsimp only at conforms
    rw [holder] at conforms
    rw [framedShape, shape_eq "Framed" _ (by decide +kernel) (by decide +kernel)]
    exact conforms
  have pair : (Reading.ofWalk drawingModel walk).Conforms (.declared shapeRef)
      (shape "PAIR" "Pair" (.tuple [.int 1, framedShape])) := by
    have known : (⟨"Pair", .tuple [.primitive .int, .declared shapeRef], some "pair"⟩ :
        WireModel.Variant) ∈ shapeVariants := by
      simp [shapeVariants]
    have each : ∀ pair ∈ [.primitive .int, .declared shapeRef].zip [.int 1, framedShape],
        (Reading.ofWalk drawingModel walk).Conforms pair.1 pair.2 := by
      simp only [List.zip_cons_cons, List.zip_nil_right, List.forall_mem_cons]
      exact ⟨.int 1 rfl rfl, framed, by simp⟩
    have conforms := Reading.Conforms.tuple shapeClass known rfl rfl each
    rw [shape_eq "Pair" _ (by decide +kernel) (by decide +kernel)]
    exact conforms
  refine .record drawingClass (by decide) ?_
  simp only [drawingParts, List.zip_cons_cons, List.zip_nil_right, List.forall_mem_cons]
  refine ⟨.list rfl ?_, .map rfl ?_ ?_ ?_, by simp⟩
  · simp only [List.forall_mem_cons]
    exact ⟨empty, .null, pair, by simp⟩
  · rw [List.forall_mem_singleton]
    exact ⟨fun absent => Value.noConfusion absent, rfl⟩
  · simpa only [List.forall_mem_singleton] using blue
  · simp only [List.forall_mem_singleton]
    exact .int 2 rfl rfl

end Drawing

def coupleRef : ClassRef :=
  sampleRef 1 "Couple" .record

def plainPair : HostType :=
  .applied (.declared Collect.pairRef) [.primitive .str]

def renamedText : HostType :=
  .annotated (.primitive .str) [.record .rename [("json_name", .text "y")]]

def renamedPair : HostType :=
  .applied (.declared Collect.pairRef) [renamedText]

/-- A couple of pairs, of which the second one has another name for its field on the wire. -/
def coupleModel : Model where
  classes := [Collect.pairClass (.variable "K"),
    sampleClass coupleRef [("first", plainPair), ("second", renamedPair)] [] []]
  bindings := [⟨"models", "Pair", Collect.pairRef⟩, ⟨"models", "Couple", coupleRef⟩]
  typeVariables := ["K"]

def coupleRun : Except Failure Library × Memory :=
  (Library.ofTypes "sample" coupleModel [.declared coupleRef]).run.run .empty

/-- The record of pairs, whose field is on the wire under a name. -/
def pairRecord (tag : String) : Record :=
  ⟨.ofPascal "Pair", "PairStr", [⟨.ofSnake "x", tag, .named "str"⟩]⟩

def coupleRecord : Record :=
  ⟨.ofPascal "Couple", "Couple", [⟨.ofSnake "first", "first", .named "PairStr"⟩,
    ⟨.ofSnake "second", "second", .named "PairStr"⟩]⟩

/-- The package that is generated for couples, with one class for both pairs. -/
def coupleLibrary : Library where
  package := "sample"
  entities := [.record (pairRecord "x"), .record coupleRecord]

theorem coupleModel_shown : coupleModel.ParametersShown := by decide +kernel

theorem coupleRun_succeeds : coupleRun = (.ok coupleLibrary, coupleRun.2) := by
  refine made_of_parts rfl ?_
  rw [coupleRun, Library.ofTypes, Schema.ofTypes_eq_paired coupleModel_shown]
  decide +kernel

theorem coupleLibrary_unambiguous : coupleLibrary.Unambiguous := by
  refine unambiguous_of_records (by simp [coupleLibrary]) fun made member => ?_
  simp only [coupleLibrary, List.mem_cons, Entity.record.injEq, List.not_mem_nil,
    or_false] at member
  rcases member with rfl | rfl <;> decide

theorem coupleLibrary_namesKept : coupleLibrary.NamesKept where
  classes := by decide
  constants := by
    intro entity member
    simp [coupleLibrary] at member

def coupleReading : Reading where
  classOf
    | .declared ref =>
      if ref = coupleRef then
        some (.record coupleRef [("first", plainPair), ("second", renamedPair)],
          .record coupleRecord)
      else none
    | .applied (.declared ref) [.primitive .str] =>
      if ref = Collect.pairRef then
        some (.record Collect.pairRef [("x", .primitive .str)], .record (pairRecord "x"))
      else none
    | .applied (.declared ref) [.annotated (.primitive .str)
        [.record .rename [("json_name", .text "y")]]] =>
      if ref = Collect.pairRef then
        some (.record Collect.pairRef [("x", renamedText)], .record (pairRecord "y"))
      else none
    | _ => none
  members := coupleModel.members

theorem coupleReading_declared : coupleReading.Declared coupleModel .empty where
  members := rfl
  content := by
    intro type content entity found
    have bound := Collect.bindings_eq_pairing coupleModel_shown
    unfold coupleReading at found
    dsimp only at found
    split at found
    · split at found
      · rename_i same
        subst same
        cases found
        refine ⟨.record rfl (bound _ _) .start rfl ?_, rfl⟩
        exact .cons ⟨rfl, .empty, .start, rfl⟩ (.cons ⟨rfl, .empty, .start, rfl⟩ .nil)
      · cases found
    · split at found
      · rename_i same
        subst same
        cases found
        exact ⟨.record rfl (bound _ _) .start rfl (.cons ⟨rfl, .empty, .start, rfl⟩ .nil), rfl⟩
      · cases found
    · split at found
      · rename_i same
        subst same
        cases found
        exact ⟨.record rfl (bound _ _) .start rfl (.cons ⟨rfl, .empty, .start, rfl⟩ .nil), rfl⟩
      · cases found
    · cases found

def couple : Value :=
  .record (.top "Couple") [("first", .record (.top "PairStr") [("x", .text "1")]),
    ("second", .record (.top "PairStr") [("x", .text "2")])]

end Library

end Codec

end WireModel
