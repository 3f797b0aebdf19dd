import WireModel.Proofs.Codec.Typing
import WireModel.Proofs.Collection.Walk

/-!
Values read along declared types: what it takes to be a value of a type, and how such a value is
encoded by what its type declares, whatever classes are generated.
-/

namespace WireModel

/-- The type behind annotations, optional types and boxes. -/
def HostType.bare : HostType → HostType
  | .annotated base _ => bare base
  | .applied .box (type :: _) => bare type
  | .union _ [.noneType, type] => bare type
  | .union _ [type, .noneType] => bare type
  | type => type

/-- What stands behind a class is the class. -/
theorem HostType.bare_view {type : HostType} (notOptional : ∀ inner, type.view ≠ .optional inner)
    (notBox : ∀ args, type.view ≠ .box args) : type.bare.view = type.view := by
  fun_induction bare type with
  | case1 base metadata ih =>
    rw [view] at notOptional notBox ⊢
    exact ih notOptional notBox
  | case2 type rest => exact absurd (by rw [view]) (notBox _)
  | case3 spelling type => exact absurd (by rw [view]) (notOptional _)
  | case4 spelling type other => exact absurd (by rw [view]; exact other) (notOptional _)
  | case5 => rfl

/-- The name on the wire of a field of a type: the first renaming in the annotation gives it, the
annotation around an annotated type before that inside, unless the renaming has no text or an empty
one. Where there is none, it is the name of the field. -/
inductive Tagged (name : String) : HostType → String → Prop
  | bare {type : HostType} : (∀ base metadata, type ≠ .annotated base metadata) →
      Tagged name type name
  | renamed {base : HostType} {before after : List HostType} {entries : List (String × HostType)}
      {tag : String} : (∀ note ∈ before, ¬note.IsRenaming) →
      entries.lookup "json_name" = some (.text tag) → tag ≠ "" →
      Tagged name (.annotated base (before ++ .record .rename entries :: after)) tag
  | nameless {base : HostType} {before after : List HostType} {entries : List (String × HostType)} :
      (∀ note ∈ before, ¬note.IsRenaming) →
      (∀ tag, entries.lookup "json_name" = some (.text tag) → tag = "") →
      Tagged name (.annotated base (before ++ .record .rename entries :: after)) name
  | inside {base : HostType} {metadata : List HostType} {tag : String} :
      (∀ note ∈ metadata, ¬note.IsRenaming) → Tagged name base tag →
      Tagged name (.annotated base metadata) tag

namespace Collect

theorem tagged_fieldTag (name : String) (type : HostType) :
    Tagged name type (fieldTag name type) := by
  cases type with
  | annotated base metadata =>
    rcases HostType.exists_renaming metadata with plain | ⟨before, entries, after, rfl, plain⟩
    · rw [fieldTag, HostType.wireName?_inside plain]
      exact .inside plain (tagged_fieldTag name base)
    · rw [fieldTag, HostType.wireName?_renamed plain]
      split
      · next tag found =>
        split at found
        · next text written =>
          cases found
          split
          · next blank =>
            refine .nameless plain fun other same => ?_
            cases written.symm.trans same
            exact String.isEmpty_iff.mp blank
          · next given => exact .renamed plain written fun blank => given (by rw [blank]; rfl)
        · cases found
      · next missing =>
        refine .nameless plain fun tag same => ?_
        rw [same] at missing
        cases missing
  | _ => exact .bare fun _ _ same => nomatch same

/-- The tag of a field is the name that its annotation gives, else its own. -/
theorem fieldTag_eq_iff {name tag : String} {type : HostType} :
    fieldTag name type = tag ↔ Tagged name type tag := by
  constructor
  · rintro rfl
    exact tagged_fieldTag name type
  · intro tagged
    induction tagged with
    | @bare type plain =>
      cases type <;> first | rfl | exact absurd rfl (plain _ _)
    | renamed plain written given =>
      rw [fieldTag, HostType.wireName?_renamed plain, written]
      exact if_neg fun blank => given (String.isEmpty_iff.mp blank)
    | nameless plain blank =>
      rw [fieldTag, HostType.wireName?_renamed plain]
      split
      · next tag found =>
        split at found
        · next text written =>
          cases found
          rw [blank tag written]
          rfl
        · cases found
      · rfl
    | inside plain _ ih => rwa [fieldTag, HostType.wireName?_inside plain]

end Collect

/-- A variant stands at the name that its renaming gives, unless that is empty, else at its own. -/
theorem Variant.tag_eq_iff {declared : Variant} {tag : String} : declared.tag = tag ↔
    (declared.rename = some tag ∧ tag ≠ "") ∨
      (declared.rename = none ∨ declared.rename = some "") ∧ declared.name = tag := by
  obtain ⟨name, payload, rename⟩ := declared
  rw [Variant.tag]
  dsimp only
  rcases rename with _ | given
  · simp
  · by_cases blank : given = ""
    · simp [blank]
    · dsimp only
      rw [if_neg fun isEmpty => blank (String.isEmpty_iff.mp isEmpty)]
      constructor
      · rintro rfl
        exact .inl ⟨rfl, blank⟩
      · rintro (⟨same, -⟩ | ⟨none | same, -⟩)
        · exact Option.some.inj same
        · cases none
        · exact absurd (Option.some.inj same) blank

/-- A member of an enumeration is written as its value if that is a text, else as its name. -/
theorem Member.tag_eq_iff {member : Member} {tag : String} : member.tag = tag ↔
    member.value = .string tag ∨ (∀ text, member.value ≠ .string text) ∧ member.name = tag := by
  obtain ⟨name, value⟩ := member
  rw [Member.tag]
  dsimp only
  cases value <;> simp

namespace Codec

open Schema Text
open Render.Python (attributeName keptName)

/-- How declared types are read: what each is made of, with the class that is generated for it, and
the members of an enumeration. -/
structure Reading where
  classOf : HostType → Option (Content × Entity)
  members : ClassRef → List Member

/-- Where a value stands: at a type, or as what a variant carries. -/
inductive Place where
  | value (type : HostType)
  | carried (payload : WireModel.Payload)

def constantNameOf (className : String) (member : Member) : String :=
  keptName className (Render.pythonIdentifier (Collect.constantName member.name).upperSnake)

def variantConstant (declared : WireModel.Variant) : String :=
  normalized (Name.ofPascal declared.name).upperSnake

def attributeOf (field : String × HostType) : String :=
  Render.pythonIdentifier field.1

namespace Place

def argument (place : Place) (index : Nat) : Place :=
  match place with
  | .value type => .value (type.bare.parts.getD index .noneType)
  | .carried _ => place

def slots : Place → List HostType
  | .carried (.tuple slots) => slots
  | _ => []

end Place

namespace Reading

/-- The fields of a record or of an object variant. -/
def fields (read : Reading) : Place → List (String × HostType)
  | .carried (.object fields) => fields
  | .carried _ => []
  | .value type =>
    match read.classOf type with
    | some (.record _ fields, _) => fields
    | _ => []

/-- What is written for a constant: its member if that is a text, else the name of the member. -/
def memberTag (read : Reading) (place : Place) (name : String) : String :=
  match place with
  | .carried _ => ""
  | .value type =>
    match read.classOf type with
    | some (.enumeration ref, entity) =>
      (((read.members ref).find? fun member =>
        constantNameOf entity.className member == name).map Member.tag).getD ""
    | _ => ""

def variant? (read : Reading) (place : Place) (discriminant : Value) : Option WireModel.Variant :=
  match place, discriminant with
  | .value type, .constant _ name _ =>
    match read.classOf type with
    | some (.dataEnum _ variants, _) =>
      variants.find? fun declared => variantConstant declared == name
    | _ => none
  | _, _ => none

def keyText (read : Reading) (place : Place) : Value → String
  | .text value => value
  | .bool value => if value then "true" else "false"
  | .int value => toString value
  | .float value => value.text
  | .constant _ name _ => read.memberTag place name
  | _ => ""

mutual

/-- The encoding of a value by its place: optional types, boxes and annotations leave no trace, an
absent value is null, and a class gives what its declaration says. -/
def encode (read : Reading) (place : Place) : Value → Json
  | .null => .null
  | .bool value => .bool value
  | .int value => .int value
  | .float value => .float value
  | .text value => .string value
  | .constant _ name _ => .string (read.memberTag place name)
  | .list items => .array (read.encodeItems (place.argument 0) items)
  | .map entries =>
    .object ((read.encodeEntries (place.argument 0) (place.argument 1) entries).foldl
      (fun known entry => bindEntry known entry.1 entry.2) [])
  | .record _ attributes => .object (read.encodeFields (read.fields place) attributes)
  | .tuple items =>
    match read.encodeSlots place.slots items with
    | [json] => json
    | jsons => .array jsons
  | .choice _ discriminant payload =>
    match read.variant? place discriminant with
    | none => .null
    | some declared =>
      match declared.payload with
      | .unit => .string declared.tag
      | carried => .object [(declared.tag, read.encode (.carried carried) payload)]
  | _ => .null

def encodeItems (read : Reading) (place : Place) : List Value → List Json
  | [] => []
  | item :: rest => read.encode place item :: read.encodeItems place rest

def encodeEntries (read : Reading) (key value : Place) : List (Value × Value) → List (String × Json)
  | [] => []
  | (first, second) :: rest =>
    (read.keyText key first, read.encode value second) :: read.encodeEntries key value rest

/-- The attributes of an instance, by the fields that they are of. -/
def encodeFields (read : Reading) (fields : List (String × HostType)) :
    List (String × Value) → List (String × Json)
  | [] => []
  | (_, value) :: rest =>
    match fields with
    | [] => []
    | field :: others =>
      (Collect.fieldTag field.1 field.2, read.encode (.value field.2) value) ::
        read.encodeFields others rest

/-- The items of a tuple, by the slots that they stand in. -/
def encodeSlots (read : Reading) (slots : List HostType) : List Value → List Json
  | [] => []
  | item :: rest =>
    match slots with
    | [] => []
    | slot :: others => read.encode (.value slot) item :: read.encodeSlots others rest

end

/-- The value is one of the type as it is read, at every depth. The absent value is one of every
type but no key. -/
inductive Conforms (read : Reading) : HostType → Value → Prop
  | null {type : HostType} : Conforms read type .null
  | bool {type : HostType} (value : Bool) :
      type.bare = .primitive .bool → Conforms read type (.bool value)
  | int {type : HostType} {primitive : Primitive} (value : Int) :
      type.bare = .primitive primitive → primitive.pythonType = "int" →
        Conforms read type (.int value)
  | float {type : HostType} {primitive : Primitive} (value : Double) :
      type.bare = .primitive primitive → primitive.pythonType = "float" →
      Conforms read type (.float value)
  | text {type : HostType} (value : String) :
      type.bare = .primitive .str → Conforms read type (.text value)
  | list {type item : HostType} {spelling : Spelling} {others : List HostType}
    {items : List Value} :
      type.bare = .applied (.list spelling) (item :: others) →
      (∀ value ∈ items, Conforms read item value) → Conforms read type (.list items)
  | map {type key value : HostType} {spelling : Spelling} {others : List HostType}
      {entries : List (Value × Value)} :
      type.bare = .applied (.map spelling) (key :: value :: others) →
      (∀ entry ∈ entries, entry.1 ≠ .null ∧ entry.1.isHashable = true) →
      (∀ entry ∈ entries, Conforms read key entry.1) →
      (∀ entry ∈ entries, Conforms read value entry.2) → Conforms read type (.map entries)
  | constant {type : HostType} {ref : ClassRef} {entity : Schema.Enumeration} {member : Member} :
      read.classOf type = some (.enumeration ref, .enumeration entity) →
      member ∈ read.members ref →
      Conforms read type (.constant (.top entity.className)
        (constantNameOf entity.className member) member.tag)
  | record {type : HostType} {ref : ClassRef} {fields : List (String × HostType)} {entity : Record}
      {attributes : List (String × Value)} :
      read.classOf type = some (.record ref fields, .record entity) →
      attributes.map Prod.fst = fields.map attributeOf →
      (∀ pair ∈ fields.zip attributes, Conforms read pair.1.2 pair.2.2) →
      Conforms read type (.record (.top entity.className) attributes)
  | unit {type : HostType} {ref : ClassRef} {variants : List WireModel.Variant} {entity : DataEnum}
      {declared : WireModel.Variant} :
      read.classOf type = some (.dataEnum ref variants, .dataEnum entity) → declared ∈ variants →
      declared.payload = .unit →
      Conforms read type (.choice entity.className
        (discriminantOf entity.className (.ofPascal declared.name)) .null)
  | tuple {type : HostType} {ref : ClassRef} {variants : List WireModel.Variant} {entity : DataEnum}
      {declared : WireModel.Variant} {slots : List HostType} {items : List Value} :
      read.classOf type = some (.dataEnum ref variants, .dataEnum entity) → declared ∈ variants →
      declared.payload = .tuple slots → items.length = slots.length →
      (∀ pair ∈ slots.zip items, Conforms read pair.1 pair.2) →
      Conforms read type (.choice entity.className
        (discriminantOf entity.className (.ofPascal declared.name)) (.tuple items))
  | object {type : HostType} {ref : ClassRef} {variants : List WireModel.Variant}
    {entity : DataEnum}
      {declared : WireModel.Variant} {fields : List (String × HostType)}
      {attributes : List (String × Value)} :
      read.classOf type = some (.dataEnum ref variants, .dataEnum entity) → declared ∈ variants →
      declared.payload = .object fields → attributes.map Prod.fst = fields.map attributeOf →
      (∀ pair ∈ fields.zip attributes, Conforms read pair.1.2 pair.2.2) →
      Conforms read type (.choice entity.className
        (discriminantOf entity.className (.ofPascal declared.name))
        (.record (.nested entity.className (normalized (Name.ofPascal declared.name).pascal))
          attributes))
  | withoutHolder {type : HostType} {ref : ClassRef} {variants : List WireModel.Variant}
      {entity : DataEnum} {declared : WireModel.Variant} {fields : List (String × HostType)} :
      read.classOf type = some (.dataEnum ref variants, .dataEnum entity) → declared ∈ variants →
      declared.payload = .object fields →
      Conforms read type (.choice entity.className
        (discriminantOf entity.className (.ofPascal declared.name)) .null)

/-- Types are read as a walk has met them: a type is made of what the first type of its identity was
made of. -/
def ofWalk (model : Model) (walk : List Expansion) : Reading where
  classOf type :=
    match type.bare.view.identity with
    | .ok identity =>
      (walk.find? fun expansion => expansion.identity == identity).bind fun expansion =>
        expansion.entity.map fun entity => (expansion.content, entity)
    | .error _ => none
  members := model.members

/-- Types are read as their own declarations say. -/
structure Declared (read : Reading) (model : Model) (start : Memory) : Prop where
  members : read.members = model.members
  content : ∀ type content entity, read.classOf type = some (content, entity) →
    HasContent model start type.bare content ∧
      Collect.describe model .python type.bare content = .ok (some entity)

/-- Whatever type is read is read as in the other reading. -/
structure Follows (read other : Reading) : Prop where
  members : read.members = other.members
  classOf : ∀ type found, read.classOf type = some found → other.classOf type = some found

variable {read : Reading}

theorem encodeItems_eq (place : Place) (items : List Value) :
    read.encodeItems place items = items.map (read.encode place) := by
  induction items with
  | nil => rfl
  | cons item rest ih => rw [encodeItems, ih, List.map_cons]

theorem encodeEntries_eq (key value : Place) (entries : List (Value × Value)) :
    read.encodeEntries key value entries =
      entries.map fun entry => (read.keyText key entry.1, read.encode value entry.2) := by
  induction entries with
  | nil => rfl
  | cons entry rest ih =>
    obtain ⟨first, second⟩ := entry
    rw [encodeEntries, ih, List.map_cons]

theorem encodeFields_eq (fields : List (String × HostType)) (attributes : List (String × Value)) :
    read.encodeFields fields attributes = (fields.zip attributes).map fun pair =>
      (Collect.fieldTag pair.1.1 pair.1.2, read.encode (.value pair.1.2) pair.2.2) := by
  induction attributes generalizing fields with
  | nil => rw [encodeFields, List.zip_nil_right, List.map_nil]
  | cons part rest ih =>
    obtain ⟨name, value⟩ := part
    cases fields with
    | nil => rfl
    | cons field others => rw [encodeFields, ih, List.zip_cons_cons, List.map_cons]

/-- Each attribute stands at the name that the declaration of its field asks for. -/
theorem encodeFields_tagged {fields : List (String × HostType)} {attributes : List (String × Value)}
    (count : attributes.length = fields.length) :
    List.Forall₂ (fun field entry => Tagged field.1 field.2 entry.1) fields
      (read.encodeFields fields attributes) := by
  induction attributes generalizing fields with
  | nil =>
    rw [List.length_eq_zero_iff.mp count.symm]
    exact .nil
  | cons part rest ih =>
    obtain ⟨name, value⟩ := part
    cases fields with
    | nil => cases count
    | cons field others =>
      exact .cons (Collect.tagged_fieldTag ..) (ih (Nat.succ.inj count))

theorem encodeSlots_eq (slots : List HostType) (items : List Value) :
    read.encodeSlots slots items =
      (slots.zip items).map fun pair => read.encode (.value pair.1) pair.2 := by
  induction items generalizing slots with
  | nil => rw [encodeSlots, List.zip_nil_right, List.map_nil]
  | cons item rest ih =>
    cases slots with
    | nil => rfl
    | cons slot others => rw [encodeSlots, ih, List.zip_cons_cons, List.map_cons]

/-- What a variant carries stands at its tag. -/
theorem encode_choice {place : Place} {owner : String} {discriminant payload : Value}
    {declared : WireModel.Variant} (chosen : read.variant? place discriminant = some declared)
    (carries : declared.payload ≠ .unit) : read.encode place (.choice owner discriminant payload) =
      .object [(declared.tag, read.encode (.carried declared.payload) payload)] := by
  rw [encode, chosen]
  dsimp only
  split
  · rename_i isUnit
    exact absurd isUnit carries
  · rfl

end Reading

end Codec

end WireModel
