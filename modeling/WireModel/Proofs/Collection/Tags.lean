import WireModel.Proofs.Codec.Package
import WireModel.Proofs.Collection.Exactness
import WireModel.Proofs.Collection.Pairing
import WireModel.Render.Generation

/-!
The wire tags of generated classes are those that the declarations give, and nothing tells them
apart: the tags of a class clash exactly where declared ones do.
-/

namespace WireModel

namespace Schema

/-- The fields that a variant carries have tags of their own. -/
def Payload.TagsApart : Payload → Prop
  | .object fields => (fields.map Field.tag).Nodup
  | _ => True

/-- The wire tags of a class are unambiguous: those of the fields of a record or of a variant, those
of the constants of an enumeration, and in a data enum those of the variants without a payload and
those of the others. -/
def Entity.TagsApart : Entity → Prop
  | .record entity => (entity.fields.map Field.tag).Nodup
  | .enumeration entity => (entity.constants.map Constant.tag).Nodup
  | .dataEnum entity =>
    ((entity.variants.filter fun v => v.payload == .unit).map Variant.tag).Nodup ∧
      ((entity.variants.filter fun v => v.payload != .unit).map Variant.tag).Nodup ∧
      ∀ v ∈ entity.variants, v.payload.TagsApart

end Schema

/-- A declared variant carries nothing. -/
def Payload.isUnit : Payload → Bool
  | .unit => true
  | _ => false

/-- The fields that a declared variant carries have tags of their own. -/
def Payload.TagsApart : Payload → Prop
  | .object fields => (fields.map fun field => Collect.fieldTag field.1 field.2).Nodup
  | _ => True

/-- The tags that the declarations give to what a type is made of are unambiguous: a rename or else
the name of a field or a variant, a text that a member stands for or else its name. -/
def Content.TagsApart (model : Model) : Content → Prop
  | .primitive | .container _ => True
  | .record _ fields => (fields.map fun field => Collect.fieldTag field.1 field.2).Nodup
  | .enumeration ref => ((model.members ref).map Member.tag).Nodup
  | .dataEnum _ variants =>
    ((variants.filter fun v => v.payload.isUnit).map Variant.tag).Nodup ∧
      ((variants.filter fun v => !v.payload.isUnit).map Variant.tag).Nodup ∧
      ∀ v ∈ variants, v.payload.TagsApart

namespace Collect

variable {target : Target}

/-- Fields are described with their tags. -/
theorem describeFields_tags {fields : List (String × HostType)} {described : List Schema.Field}
    (found : fields.mapM (describeField target) = .ok described) :
    described.map Schema.Field.tag = fields.map fun field => fieldTag field.1 field.2 := by
  rw [Outcome.mapM_ok] at found
  induction found with
  | nil => rfl
  | cons first _ ih =>
    obtain ⟨text, -, same⟩ := Outcome.bind_ok.mp first
    obtain rfl := Outcome.pure_ok.mp same
    rw [List.map_cons, List.map_cons, ih]

theorem describeVariant_ok {declared : Variant} {described : Schema.Variant}
    (found : describeVariant target declared = .ok described) :
    described.name = .ofPascal declared.name ∧ described.tag = declared.tag ∧
      describePayload target declared.payload = .ok described.payload := by
  obtain ⟨payload, carried, same⟩ := Outcome.bind_ok.mp found
  obtain rfl := Outcome.pure_ok.mp same
  exact ⟨rfl, rfl, carried⟩

/-- A slot is described by a type expression of its own. -/
theorem describeSlots_ok {slots : List HostType} {described : Schema.Payload}
    (found : describePayload target (.tuple slots) = .ok described) :
    ∃ types, described = .tuple types ∧ types.length = slots.length := by
  obtain ⟨types, carried, same⟩ := Outcome.bind_ok.mp found
  obtain rfl := Outcome.pure_ok.mp same
  exact ⟨types, rfl, (Outcome.mapM_ok.mp carried).length_eq.symm⟩

theorem describeObject_ok {fields : List (String × HostType)} {described : Schema.Payload}
    (found : describePayload target (.object fields) = .ok described) :
    ∃ parts, described = .object parts ∧ fields.mapM (describeField target) = .ok parts := by
  obtain ⟨parts, carried, same⟩ := Outcome.bind_ok.mp found
  obtain rfl := Outcome.pure_ok.mp same
  exact ⟨parts, rfl, carried⟩

theorem describePayload_isUnit {declared : Payload} {described : Schema.Payload}
    (found : describePayload target declared = .ok described) :
    (described == .unit) = declared.isUnit := by
  cases declared with
  | unit =>
    cases found
    rfl
  | tuple slots =>
    obtain ⟨types, rfl, -⟩ := describeSlots_ok found
    rfl
  | object fields =>
    obtain ⟨parts, rfl, -⟩ := describeObject_ok found
    rfl

theorem describePayload_tagsApart {declared : Payload} {described : Schema.Payload}
    (found : describePayload target declared = .ok described) :
    described.TagsApart ↔ declared.TagsApart := by
  cases declared with
  | unit =>
    cases found
    rfl
  | tuple slots =>
    obtain ⟨types, rfl, -⟩ := describeSlots_ok found
    rfl
  | object fields =>
    obtain ⟨parts, rfl, each⟩ := describeObject_ok found
    rw [Schema.Payload.TagsApart, Payload.TagsApart, describeFields_tags each]

/-- The variants of either kind are described with their tags. -/
theorem describeVariants_tags {declared : List Variant} {described : List Schema.Variant}
    (found : declared.mapM (describeVariant target) = .ok described) (choose : Bool → Bool) :
    (described.filter fun v => choose (v.payload == .unit)).map Schema.Variant.tag =
      (declared.filter fun v => choose v.payload.isUnit).map Variant.tag := by
  rw [Outcome.mapM_ok] at found
  induction found with
  | nil => rfl
  | cons first _ ih =>
    obtain ⟨-, tag, carried⟩ := describeVariant_ok first
    rw [List.filter_cons, List.filter_cons, describePayload_isUnit carried]
    split
    · rw [List.map_cons, List.map_cons, ih, tag]
    · exact ih

theorem describeVariants_tagsApart {declared : List Variant} {described : List Schema.Variant}
    (found : declared.mapM (describeVariant target) = .ok described) :
    (∀ v ∈ described, v.payload.TagsApart) ↔ ∀ v ∈ declared, v.payload.TagsApart := by
  rw [Outcome.mapM_ok] at found
  induction found with
  | nil => simp
  | cons first _ ih =>
    obtain ⟨-, -, carried⟩ := describeVariant_ok first
    rw [List.forall_mem_cons, List.forall_mem_cons, describePayload_tagsApart carried, ih]

/-- The tags of a class clash exactly where those clash that the declarations give. -/
theorem describe_tagsApart {model : Model} {type : HostType} {content : Content}
    {entity? : Option Schema.Entity} (found : describe model target type content = .ok entity?) :
    (∀ entity ∈ entity?, entity.TagsApart) ↔ content.TagsApart model := by
  cases content with
  | primitive =>
    cases found
    simp [Content.TagsApart]
  | container =>
    cases found
    simp [Content.TagsApart]
  | record ref fields =>
    obtain ⟨className, -, rest⟩ := Outcome.bind_ok.mp found
    obtain ⟨parts, each, same⟩ := Outcome.bind_ok.mp rest
    obtain rfl := Outcome.pure_ok.mp same
    simp only [Option.mem_some_iff, forall_eq', Schema.Entity.TagsApart, Content.TagsApart,
      describeFields_tags each]
  | enumeration ref =>
    obtain ⟨className, -, same⟩ := Outcome.bind_ok.mp found
    obtain rfl := Outcome.pure_ok.mp same
    simp only [Option.mem_some_iff, forall_eq', Schema.Entity.TagsApart, Content.TagsApart,
      enumeration, List.map_map, Function.comp_def]
  | dataEnum ref variants =>
    obtain ⟨className, -, rest⟩ := Outcome.bind_ok.mp found
    obtain ⟨parts, each, same⟩ := Outcome.bind_ok.mp rest
    obtain rfl := Outcome.pure_ok.mp same
    have units := describeVariants_tags each id
    have others := describeVariants_tags each not
    simp only [id] at units
    simp only [Option.mem_some_iff, forall_eq', Schema.Entity.TagsApart, Content.TagsApart,
      bne, units, others, describeVariants_tagsApart each]

end Collect

variable {model : Model} {target : Target} {roots : List HostType} {before after : Memory}

/-- Generation collects a schema and generates its classes. -/
theorem generate_ok {classes : List GeneratedClass} :
    (generate target model roots).run.run before = (.ok classes, after) ↔
      ∃ schema, (Schema.ofTypes target model roots).run.run before = (.ok schema, after) ∧
        schema.generate target = .ok classes := by
  refine Resolving.bind_ok.trans ⟨?_, ?_⟩
  · rintro ⟨schema, between, collected, rest⟩
    rcases outcome : schema.generate target with error | generated
    · rw [outcome] at rest
      cases rest
    · rw [outcome] at rest
      cases rest
      exact ⟨schema, collected, outcome⟩
  · rintro ⟨schema, collected, generated⟩
    refine ⟨schema, after, collected, ?_⟩
    rw [generated]
    rfl

/-- Classes are generated where a schema is collected that they can be generated from. -/
theorem exists_classes {schema : Schema}
    (collects : ((Schema.ofTypes target model roots).run.run before).1.toOption = some schema)
    (generates : (schema.generate target).toOption.isSome = true) :
    ∃ classes, (generate target model roots).run.run before =
      (.ok classes, ((generate target model roots).run.run before).2) := by
  rcases run : (Schema.ofTypes target model roots).run.run before with ⟨outcome | found, after⟩
  · rw [run] at collects
    cases collects
  rw [run] at collects
  cases collects
  rcases made : schema.generate target with error | classes
  · rw [made] at generates
    cases generates
  have succeeds := generate_ok.mpr ⟨schema, run, made⟩
  exact ⟨classes, by rw [succeeds]⟩

def pointRef : ClassRef where
  serial := 0
  module := "models"
  qualifiedName := "Point"
  name := "Point"
  category := .record
  parameters := []
  brackets := .none

def pointFields (second : HostType) : List (String × HostType) :=
  [("x", .primitive .int), ("y", second)]

/-- Points have two fields, of which the second one has a type. -/
def pointModel (second : HostType) : Model where
  classes := [{
    ref := pointRef
    bases := []
    parents := [.language "object"]
    ancestry := [.declared pointRef, .language "object"]
    annotations := some (pointFields second)
    entries := some ((pointFields second).map fun field => ⟨field.1, .field, field.2, none⟩)
    memberNames := []
    members := []
    variants := [] }]
  bindings := [⟨"models", "Point", pointRef⟩]
  typeVariables := []

/-- A number under the name of the first field on the wire. -/
def renamedInt : HostType :=
  .annotated (.primitive .int) [.record .rename [("json_name", .text "x")]]

def pointRun (second : HostType) : Except Failure (List GeneratedClass) × Memory :=
  (generate .python (pointModel second) [.declared pointRef]).run.run .empty

def pointSchema (tag : String) : Schema where
  records := [⟨.ofPascal "Point", "Point", [⟨.ofSnake "x", "x", .named "int"⟩,
    ⟨.ofSnake "y", tag, .named "int"⟩]⟩]
  enumerations := []
  dataEnums := []

end WireModel
