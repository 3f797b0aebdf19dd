import WireModel.Proofs.Codec.Methods
import WireModel.Proofs.Collection.Tags

/-!
The members of generated classes: constants, methods, nested classes and attributes. None of them
takes the name of another one where the declared names differ in more than case and underscores or
are in the style that is expected of them, and no number of a slot makes one name of two.
-/

namespace WireModel

open Text

/-- Two names differ in letters or digits, or both are in a style and they are not the same. -/
def NamedApart (style : List Char → Bool) (name other : String) : Prop :=
  caseless name.toList ≠ caseless other.toList ∨
    style name.toList = true ∧ style other.toList = true ∧ name ≠ other

/-- The slots of a declared payload are told by numbers: there is not just one of them. -/
def Payload.isSlotted : Payload → Bool
  | .tuple slots => slots.length != 1
  | _ => false

/-- No field has the name of the encoder, and all names are of ASCII. -/
def FieldsNamed (names : List String) : Prop :=
  ∀ name ∈ names, isAscii name.toList = true ∧ name ≠ Codec.encoderName

/-- The names of members are plain, and they differ in letters or are in upper case. -/
structure MembersNamed (members : List Member) : Prop where
  plain : ∀ member ∈ members, isPlainName member.name = true
  apart : members.Pairwise fun member other => NamedApart isUpperText member.name other.name

/-- The names of variants are plain, they differ in letters or are in Pascal case, and none with a
payload is named like one with several slots and digits behind. -/
structure VariantsNamed (variants : List Variant) : Prop where
  plain : ∀ v ∈ variants, isPlainName v.name = true
  apart : variants.Pairwise fun v w => NamedApart Name.isPascalCase v.name w.name
  unnumbered : ∀ v ∈ variants, ∀ w ∈ variants, v.payload.isSlotted = true →
    w.payload.isUnit = false →
    isNumbered (Name.ofPascal v.name).snake (Name.ofPascal w.name).snake = false
  fields : ∀ v ∈ variants, ∀ fields, v.payload = .object fields → FieldsNamed (fields.map Prod.fst)

/-- The declarations name what a type is made of so that no member hides another one. -/
def View.Named (model : Model) : View → Prop
  | .record ref _ => FieldsNamed ((model.fields ref).map RecordEntry.name)
  | .enumeration ref => MembersNamed (model.members ref)
  | .dataEnum ref _ => VariantsNamed (model.variants ref)
  | _ => True

/-- A class is declared with such names. -/
structure ClassDecl.Named (declared : ClassDecl) : Prop where
  fields : ∀ entries, declared.entries = some entries →
    FieldsNamed ((entries.filter fun entry => entry.role == .field).map RecordEntry.name)
  members : MembersNamed declared.members
  variants : VariantsNamed declared.variants

/-- Where all classes are declared with such names, all types are made of what is named so. -/
theorem View.named_of_classes {model : Model} (each : ∀ declared ∈ model.classes, declared.Named)
    (view : View) : view.Named model := by
  have known {ref : ClassRef} {declared : ClassDecl} (found : model.find? ref = some declared) :
      declared.Named := each declared (List.mem_of_find?_eq_some found)
  cases view with
  | record ref args =>
    rw [View.Named, Model.fields]
    cases found : model.entries? ref with
    | none => simp [FieldsNamed]
    | some entries =>
      obtain ⟨declared, listed, has⟩ := List.exists_of_findSome?_eq_some found
      obtain ⟨_ | ancestor, -, declares⟩ := List.mem_filterMap.mp listed
      · exact (known declares).fields entries has
      · cases declares
  | enumeration ref =>
    rw [View.Named, Model.members]
    cases found : model.find? ref with
    | none => exact ⟨by simp, .nil⟩
    | some declared => exact (known found).members
  | dataEnum ref args =>
    rw [View.Named, Model.variants]
    cases found : model.find? ref with
    | none => exact ⟨by simp, .nil, by simp, by simp⟩
    | some declared => exact (known found).variants
  | refused | primitive | list | map | optional | box => trivial

namespace Codec

open Schema
open Render.Python (attributeName keptName)

/-- The members of a generated class are apart. -/
def MembersApart : Entity → Prop
  | .record entity => AttributesApart entity.fields
  | .enumeration entity => ((Constants.ofEnumeration entity).entries.map Prod.fst).Nodup
  | .dataEnum entity => DataEnumApart entity

variable {model : Model} {target : Target}

/-- A conversion that changes only case and underscores, and no name in a style, keeps names
apart. -/
theorem ne_of_namedApart {style : List Char → Bool} (convert : String → String)
    (letters : ∀ {text : String}, isAscii text.toList = true →
      caseless (convert text).toList = caseless text.toList)
    (back : ∀ {text : String}, isAscii text.toList = true → style text.toList = true →
      convert text = text) {name other : String} (plain : isPlainName name = true)
    (otherPlain : isPlainName other = true) (apart : NamedApart style name other) :
    convert name ≠ convert other := by
  have ascii := isAscii_of_isPlainName plain
  have otherAscii := isAscii_of_isPlainName otherPlain
  intro same
  rcases apart with differ | ⟨styled, otherStyled, differ⟩
  · apply differ
    rw [← letters ascii, same, letters otherAscii]
  · apply differ
    rw [← back ascii styled, same, back otherAscii otherStyled]

theorem attributesApart_of_named {target : Target} {declared : List (String × HostType)}
    {fields : List Field} (found : declared.mapM (Collect.describeField target) = .ok fields)
    (named : FieldsNamed (declared.map Prod.fst)) : AttributesApart fields := by
  intro field member
  obtain ⟨source, inside, described⟩ :=
    Outcome.exists_related (Outcome.mapM_ok.mp found).flip member
  obtain ⟨ascii, differs⟩ := named source.1 (List.mem_map_of_mem inside)
  obtain ⟨text, -, same⟩ := Outcome.bind_ok.mp described
  obtain rfl := Outcome.pure_ok.mp same
  show normalized (Render.pythonIdentifier source.1) ≠ encoderName
  unfold Render.pythonIdentifier
  split
  · have escaped : isAscii (source.1 ++ "_").toList = true := by
      rw [String.toList_append]
      exact isAscii_append.mpr ⟨ascii, by decide⟩
    rw [normalized_of_isAscii escaped]
    intro same
    have last := congrArg (fun text : String => text.toList.getLast?) same
    simp [String.toList_append, encoderName] at last
  · rw [normalized_of_isAscii ascii]
    exact differs

theorem isAscii_constantName {name : String} (ascii : isAscii name.toList = true) :
    isAscii (Collect.constantName name).snake.toList = true := by
  unfold Collect.constantName
  split
  · exact Name.isAscii_ofUpperSnake ascii
  · exact Name.isAscii_snake ascii

theorem constantName_beginsPlain {name : String} (plain : isPlainName name = true) :
    beginsPlain (Collect.constantName name).snake.toList = true := by
  obtain ⟨ascii, begins⟩ := Bool.and_eq_true_iff.mp plain
  unfold Collect.constantName
  split
  · exact Name.snake_ofUpperSnake_beginsPlain ascii begins
  · exact Name.snake_beginsPlain ascii begins

/-- The constant of a member has the letters of its name. -/
theorem caseless_constant {name : String} (ascii : isAscii name.toList = true) :
    caseless (Collect.constantName name).upperSnake.toList = caseless name.toList := by
  rw [Name.caseless_upperSnake (isAscii_constantName ascii)]
  unfold Collect.constantName
  split
  · rw [Name.snake_ofUpperSnake ascii,
      caseless_map (fun ascii => (keepsCase ascii).lower_caseless) ascii]
  · rw [Name.snake_ofPascal, Name.caseless_snakeOfCamel ascii]

/-- The constant of a member in upper snake case has the name of the member. -/
theorem constant_of_isUpperText {name : String} (ascii : isAscii name.toList = true)
    (isUpper : isUpperText name.toList = true) : (Collect.constantName name).upperSnake = name := by
  rw [Collect.constantName, if_pos isUpper]
  exact Name.upperSnake_ofUpperSnake ascii fun c => isLower_of_isUpperText ascii isUpper

/-- Constants have no lower-case letters and so are no reserved words. -/
theorem pythonIdentifier_upperSnake {name : Name} (ascii : isAscii name.snake.toList = true) :
    Render.pythonIdentifier name.upperSnake = name.upperSnake := by
  refine if_neg fun reserved => ?_
  have lowered : ∀ word ∈ reservedWords, word.toList.any Char.isLower = true := by
    decide +kernel
  obtain ⟨c, member, isLower⟩ := List.any_eq_true.mp (lowered _ reserved)
  rw [Name.upperSnake_isLower ascii member] at isLower
  cases isLower

theorem enumeration_membersApart {ref : ClassRef} {className : String}
    (named : MembersNamed (model.members ref)) :
    MembersApart (.enumeration (Collect.enumeration model ref className)) := by
  have constants : (Constants.ofEnumeration (Collect.enumeration model ref className)).entries.map
      Prod.fst = (model.members ref).map fun member =>
        (Collect.constantName member.name).upperSnake := by
    simp only [Constants.ofEnumeration, Collect.enumeration, List.map_map]
    refine List.map_congr_left fun member inside => ?_
    have ascii := isAscii_constantName (isAscii_of_isPlainName (named.plain member inside))
    simp only [Function.comp_apply, pythonIdentifier_upperSnake ascii]
    exact keptName_upperSnake ascii (constantName_beginsPlain (named.plain member inside)) _
  show (List.map Prod.fst _).Nodup
  rw [constants, List.Nodup, List.pairwise_map]
  refine named.apart.imp_of_mem fun inside otherInside differ => ?_
  exact ne_of_namedApart (fun name => (Collect.constantName name).upperSnake) caseless_constant
    constant_of_isUpperText (named.plain _ inside) (named.plain _ otherInside) differ

section Closing

variable {start : Memory} {ref : ClassRef} {bindings : TypeBindings}

theorem fieldsClose_names {declared closed : List (String × HostType)}
    (closes : List.Forall₂ (FieldCloses model start ref bindings) declared closed) :
    closed.map Prod.fst = declared.map Prod.fst := by
  induction closes with
  | nil => rfl
  | cons first _ ih => rw [List.map_cons, List.map_cons, first.1, ih]

/-- A payload closes to one of the same shape. -/
theorem payloadCloses_shape {declared closed : Payload}
    (closes : PayloadCloses model start ref bindings declared closed) :
    closed.isSlotted = declared.isSlotted ∧ closed.isUnit = declared.isUnit ∧
      ∀ fields, closed = .object fields → ∃ source, declared = .object source ∧
        fields.map Prod.fst = source.map Prod.fst := by
  cases closes with
  | unit => exact ⟨rfl, rfl, by simp⟩
  | tuple slots =>
    refine ⟨?_, rfl, by simp⟩
    rw [Payload.isSlotted, Payload.isSlotted, slots.length_eq]
  | object fields =>
    refine ⟨rfl, rfl, ?_⟩
    rintro _ ⟨⟩
    exact ⟨_, rfl, fieldsClose_names fields⟩

/-- Closing the types of variants leaves their names. -/
theorem variantsNamed_of_closes {declared closed : List Variant}
    (closes : List.Forall₂ (VariantCloses model start ref bindings) declared closed)
    (named : VariantsNamed declared) : VariantsNamed closed where
  plain := by
    intro v member
    obtain ⟨source, inside, same, -⟩ := Outcome.exists_related closes.flip member
    rw [same]
    exact named.plain source inside
  apart := by
    refine Outcome.pairwise_related (fun first second apart => ?_) closes named.apart
    rw [first.1, second.1]
    exact apart
  unnumbered := by
    intro v member w inside slotted carries
    obtain ⟨source, declares, same, -, payload⟩ := Outcome.exists_related closes.flip member
    obtain ⟨other, otherDeclares, otherSame, -, otherPayload⟩ :=
      Outcome.exists_related closes.flip inside
    rw [(payloadCloses_shape payload).1] at slotted
    rw [(payloadCloses_shape otherPayload).2.1] at carries
    rw [same, otherSame]
    exact named.unnumbered source declares other otherDeclares slotted carries
  fields := by
    intro v member fields carries
    obtain ⟨source, declares, -, -, payload⟩ := Outcome.exists_related closes.flip member
    obtain ⟨declaredFields, declaredCarries, names⟩ :=
      (payloadCloses_shape payload).2.2 fields carries
    rw [names]
    exact named.fields source declares declaredFields declaredCarries

/-- The fields of a record whose types were read have the declared names. -/
theorem typedFields_names {memory : Memory} {fields : List (String × HostType)}
    (found : ((model.typedFields ref).run.run memory).1 = .ok fields) :
    fields.map Prod.fst = (model.fields ref).map RecordEntry.name := by
  have run : (model.typedFields ref).run.run memory =
      (.ok fields, ((model.typedFields ref).run.run memory).2) := Prod.ext found rfl
  obtain ⟨types, between, -, rest⟩ := Resolving.bind_ok.mp run
  cases rest
  rw [List.map_map]
  rfl

end Closing

theorem describePayload_isSlotted {declared : Payload} {described : Schema.Payload}
    (found : Collect.describePayload target declared = .ok described) :
    isSlotted described = declared.isSlotted := by
  cases declared with
  | unit =>
    cases found
    rfl
  | tuple slots =>
    obtain ⟨types, rfl, same⟩ := Collect.describeSlots_ok found
    rw [isSlotted, Payload.isSlotted, same]
  | object fields =>
    obtain ⟨parts, rfl, -⟩ := Collect.describeObject_ok found
    rfl

theorem variantsDescribed {declared : List Variant} {described : List Schema.Variant}
    (found : declared.mapM (Collect.describeVariant target) = .ok described)
    (named : VariantsNamed declared) : VariantsDescribed described := by
  have related := Outcome.mapM_ok.mp found
  refine ⟨fun v member => ?_, ?_, fun v member w inside slotted carries => ?_⟩
  · obtain ⟨source, declares, describes⟩ := Outcome.exists_related related.flip member
    exact ⟨source.name, named.plain source declares, (Collect.describeVariant_ok describes).1⟩
  · rw [List.Nodup, List.pairwise_map]
    refine Outcome.pairwise_related (fun first second differ => ?_) related
      (named.apart.imp_of_mem fun inside otherInside apart =>
        ne_of_namedApart (fun name => (Name.ofPascal name).pascal)
          Name.caseless_pascal Name.pascal_of_isPascalCase (named.plain _ inside)
          (named.plain _ otherInside) apart)
    rw [(Collect.describeVariant_ok first).1, (Collect.describeVariant_ok second).1]
    exact differ
  · obtain ⟨source, declares, describes⟩ := Outcome.exists_related related.flip member
    obtain ⟨other, otherDeclares, otherDescribes⟩ := Outcome.exists_related related.flip inside
    obtain ⟨name, -, payload⟩ := Collect.describeVariant_ok describes
    obtain ⟨otherName, -, otherPayload⟩ := Collect.describeVariant_ok otherDescribes
    rw [describePayload_isSlotted payload] at slotted
    rw [name, otherName]
    refine named.unnumbered source declares other otherDeclares slotted ?_
    rw [← Collect.describePayload_isUnit otherPayload]
    simpa using carries

/-- The fields of described variants are called otherwise than the encoder. -/
theorem variants_attributesApart {declared : List Variant} {described : List Schema.Variant}
    (found : declared.mapM (Collect.describeVariant target) = .ok described)
    (named : VariantsNamed declared) {v : Schema.Variant} (member : v ∈ described)
    {fields : List Field} (carries : v.payload = .object fields) : AttributesApart fields := by
  obtain ⟨source, declares, describes⟩ :=
    Outcome.exists_related (Outcome.mapM_ok.mp found).flip member
  have payload := (Collect.describeVariant_ok describes).2.2
  rw [carries] at payload
  cases declaredCarries : source.payload with
  | unit =>
    rw [declaredCarries] at payload
    cases payload
  | tuple slots =>
    rw [declaredCarries] at payload
    obtain ⟨types, same, -⟩ := Collect.describeSlots_ok payload
    cases same
  | object declaredFields =>
    rw [declaredCarries] at payload
    obtain ⟨parts, same, each⟩ := Collect.describeObject_ok payload
    cases same
    exact attributesApart_of_named each
      (named.fields source declares declaredFields declaredCarries)

/-- What well-named declarations lead to has members apart. -/
theorem describe_membersApart {start : Memory} {type : HostType} {content : Content}
    {entity : Entity} (made : HasContent model start type content)
    (found : Collect.describe model target type content = .ok (some entity))
    (named : type.view.Named model)
    (checked : ∀ dataEnum, entity = .dataEnum dataEnum →
      dataEnum.check Render.Python.reservedNames = .ok ()) : MembersApart entity := by
  cases made with
  | primitive => cases found
  | container => cases found
  | record seenAs _ _ typed closes =>
    obtain ⟨className, -, rest⟩ := Outcome.bind_ok.mp found
    obtain ⟨parts, each, same⟩ := Outcome.bind_ok.mp rest
    cases Outcome.pure_ok.mp same
    rw [seenAs, View.Named, ← typedFields_names typed, ← fieldsClose_names closes] at named
    exact attributesApart_of_named each named
  | enumeration seenAs =>
    obtain ⟨className, -, same⟩ := Outcome.bind_ok.mp found
    cases Outcome.pure_ok.mp same
    rw [seenAs, View.Named] at named
    exact enumeration_membersApart named
  | dataEnum seenAs _ closes =>
    obtain ⟨className, -, rest⟩ := Outcome.bind_ok.mp found
    obtain ⟨parts, each, same⟩ := Outcome.bind_ok.mp rest
    cases Outcome.pure_ok.mp same
    rw [seenAs, View.Named] at named
    have named := variantsNamed_of_closes closes named
    have described := variantsDescribed each named
    exact dataEnumApart_of_described described (checked _ rfl)
      fun v member fields carries => variants_attributesApart each named member carries

variable {roots : List HostType} {before after : Memory}

/-- The members of all generated classes are apart if what the roots need is named well. -/
theorem generate_membersApart {classes : List GeneratedClass}
    (succeeds : (generate .python model roots).run.run before = (.ok classes, after))
    (named : ∀ type, Needed model before roots type → type.view.Named model) :
    ∃ schema, (Schema.ofTypes .python model roots).run.run before = (.ok schema, after) ∧
      schema.generate .python = .ok classes ∧ ∀ entity ∈ schema.entities, MembersApart entity := by
  obtain ⟨schema, collected, generated⟩ := generate_ok.mp succeeds
  obtain ⟨collection, found, rfl⟩ := Schema.ofTypes_ok collected
  obtain ⟨walk, walked⟩ := Collect.addAll_walked found
  refine ⟨_, collected, generated, fun entity member => ?_⟩
  obtain ⟨expansion, inside, made⟩ := List.mem_filterMap.mp (walked.entities.mem_iff.mp member)
  have valid := walked.valid expansion inside
  have described := valid.entity
  rw [made] at described
  refine describe_membersApart valid.content described
    (named _ (walked.needed (walked.reached _ inside))) ?_
  rintro dataEnum rfl
  exact (Schema.generate_ok generated).2.2 dataEnum member

def figureRef : ClassRef where
  serial := 0
  module := "models"
  qualifiedName := "Figure"
  name := "Figure"
  category := .dataEnum
  parameters := []
  brackets := .none

def figureClass (variants : List Variant) : ClassDecl where
  ref := figureRef
  bases := []
  parents := [.language "object"]
  ancestry := [.declared figureRef, .language "object"]
  annotations := none
  entries := none
  memberNames := []
  members := []
  variants := variants

/-- Figures are a data enum of some variants. -/
def figureModel (variants : List Variant) : Model where
  classes := [figureClass variants]
  bindings := [⟨"models", "Figure", figureRef⟩]
  typeVariables := []

def figureRun (variants : List Variant) : Except Failure (List GeneratedClass) × Memory :=
  (generate .python (figureModel variants) [.declared figureRef]).run.run .empty

def figureEnum (variants : List Schema.Variant) : DataEnum where
  name := .ofPascal "Figure"
  className := "Figure"
  style := .external
  variants := variants

def figureSchema (variants : List Schema.Variant) : Schema where
  records := []
  enumerations := []
  dataEnums := [figureEnum variants]

def figureVariants : List Variant :=
  [⟨"Empty", .unit, none⟩, ⟨"Line", .tuple [.primitive .float], none⟩,
    ⟨"Pair", .tuple [.primitive .int, .primitive .int], none⟩,
    ⟨"Circle", .object [("radius", .primitive .float)], none⟩]

def figureParts : List Schema.Variant :=
  [⟨.ofPascal "Empty", "Empty", .unit⟩, ⟨.ofPascal "Line", "Line", .tuple [.named "float"]⟩,
    ⟨.ofPascal "Pair", "Pair", .tuple [.named "int", .named "int"]⟩,
    ⟨.ofPascal "Circle", "Circle", .object [⟨.ofSnake "radius", "radius", .named "float"⟩]⟩]

theorem figureVariants_named : VariantsNamed figureVariants where
  plain := by decide
  apart := by
    have letters : (figureVariants.map fun v => caseless v.name.toList).Nodup := by decide
    exact (List.pairwise_map.mp letters).imp .inl
  unnumbered := by decide
  fields := by
    simp only [figureVariants, List.forall_mem_cons, Payload.object.injEq, reduceCtorEq,
      forall_eq', FieldsNamed]
    exact ⟨by simp, by simp, by simp, by decide, by simp⟩

theorem generate_membersApart_figure :
    (∀ type, Needed (figureModel figureVariants) .empty [.declared figureRef] type →
      type.view.Named (figureModel figureVariants)) ∧
    ∃ classes, figureRun figureVariants = (.ok classes, (figureRun figureVariants).2) ∧
      (Schema.ofTypes .python (figureModel figureVariants) [.declared figureRef]).run.run .empty =
        (.ok (figureSchema figureParts), (figureRun figureVariants).2) ∧
      (figureSchema figureParts).generate .python = .ok classes ∧
      ∀ entity ∈ (figureSchema figureParts).entities, MembersApart entity := by
  have collected : ((Schema.ofTypes .python (figureModel figureVariants)
      [.declared figureRef]).run.run .empty).1.toOption = some (figureSchema figureParts) := by
    rw [Schema.ofTypes_eq_paired (by decide +kernel)]
    decide +kernel
  obtain ⟨classes, succeeds⟩ := exists_classes collected (by decide +kernel)
  have named : ∀ declared ∈ (figureModel figureVariants).classes, declared.Named := by
    intro declared member
    obtain rfl := List.mem_singleton.mp member
    exact ⟨by simp [figureClass], ⟨by simp [figureClass], .nil⟩, figureVariants_named⟩
  have needed : ∀ type, Needed (figureModel figureVariants) .empty [.declared figureRef] type →
      type.view.Named (figureModel figureVariants) := fun type _ => type.view.named_of_classes named
  obtain ⟨schema, found, generated, apart⟩ := generate_membersApart succeeds needed
  have same : schema = figureSchema figureParts := by
    rw [found] at collected
    exact Option.some.inj collected
  subst same
  exact ⟨needed, classes, succeeds, found, generated, apart⟩

/-- Two variants whose names differ in an underscore alone. -/
def numberedVariants : List Variant :=
  [⟨"A1", .unit, none⟩, ⟨"A_1", .unit, none⟩]

def numberedParts : List Schema.Variant :=
  [⟨.ofPascal "A1", "A1", .unit⟩, ⟨.ofPascal "A_1", "A_1", .unit⟩]

/-- A data enum is generated although two of its variants have one name in Pascal case, and so one
discriminant. -/
theorem not_membersApart_of_generate :
    ¬ ∀ (model : Model) (roots : List HostType) (before after : Memory)
      (classes : List GeneratedClass) (schema : Schema),
      (generate .python model roots).run.run before = (.ok classes, after) →
      ((Schema.ofTypes .python model roots).run.run before).1.toOption = some schema →
      ∀ entity ∈ schema.entities, MembersApart entity := by
  intro apart
  have collected : ((Schema.ofTypes .python (figureModel numberedVariants)
      [.declared figureRef]).run.run .empty).1.toOption = some (figureSchema numberedParts) := by
    rw [Schema.ofTypes_eq_paired (by decide +kernel)]
    decide +kernel
  obtain ⟨classes, succeeds⟩ := exists_classes collected (by decide +kernel)
  have members : DataEnumApart (figureEnum numberedParts) :=
    apart _ _ _ _ _ _ succeeds collected (.dataEnum (figureEnum numberedParts))
      (List.mem_cons_self ..)
  exact absurd members.pascals (by decide +kernel)

end Codec
end WireModel
