import WireModel.Proofs.Collection.Precedence
import WireModel.Proofs.Collection.Tags
import WireModel.Proofs.Identity

/-!
Generated classes refer to generated classes. A type expression is written from the type of a field
alone; the class that it names is the one that the walk, which comes to the parts of that type in
its own way, has collected for the same identity.
-/

namespace WireModel

variable {model : Model} {target : Target}

namespace Schema

/-- The type expressions of what a variant carries. -/
def Payload.types : Payload → List TypeExpr
  | .unit => []
  | .tuple slots => slots
  | .object fields => fields.map Field.type

/-- The type expressions of a class: those of its fields, or of the fields and slots of its
variants. -/
def Entity.types : Entity → List TypeExpr
  | .record entity => entity.fields.map Field.type
  | .enumeration _ => []
  | .dataEnum entity => entity.variants.flatMap fun declared => declared.payload.types

end Schema

/-- The type expression of a type in a target. -/
def HostType.WrittenAs (target : Target) (type : HostType) (expression : TypeExpr) : Prop :=
  type.view.typeExpr target = .ok expression

namespace Collect

theorem describeFields_written {fields : List (String × HostType)} {described : List Schema.Field}
    (found : fields.mapM (describeField target) = .ok described) :
    List.Forall₂ (HostType.WrittenAs target) (fields.map Prod.snd)
      (described.map Schema.Field.type) := by
  rw [Outcome.mapM_ok] at found
  rw [List.forall₂_map_left_iff, List.forall₂_map_right_iff]
  refine found.imp fun field result described => ?_
  obtain ⟨expression, written, same⟩ := Outcome.bind_ok.mp described
  obtain rfl := Outcome.pure_ok.mp same
  exact written

theorem describePayload_written {declared : Payload} {described : Schema.Payload}
    (found : describePayload target declared = .ok described) :
    List.Forall₂ (HostType.WrittenAs target) declared.types described.types := by
  cases declared with
  | unit =>
    cases found
    exact .nil
  | tuple slots =>
    obtain ⟨expressions, written, same⟩ := Outcome.bind_ok.mp found
    obtain rfl := Outcome.pure_ok.mp same
    exact Outcome.mapM_ok.mp written
  | object fields =>
    obtain ⟨parts, rfl, written⟩ := describeObject_ok found
    exact describeFields_written written

/-- A class has a type expression for each type that it is made of, in their order. -/
theorem describe_written {type : HostType} {content : Content} {entity : Schema.Entity}
    (found : describe model target type content = .ok (some entity)) :
    List.Forall₂ (HostType.WrittenAs target) content.dependencies entity.types := by
  cases content with
  | primitive => cases found
  | container args => cases found
  | enumeration ref =>
    simp only [describe, Outcome.bind_ok, Outcome.pure_ok, Option.some.injEq] at found
    obtain ⟨className, -, rfl⟩ := found
    exact .nil
  | record ref fields =>
    simp only [describe, Outcome.bind_ok, Outcome.pure_ok, Option.some.injEq] at found
    obtain ⟨className, -, described, written, rfl⟩ := found
    exact describeFields_written written
  | dataEnum ref variants =>
    simp only [describe, Outcome.bind_ok, Outcome.pure_ok, Option.some.injEq] at found
    obtain ⟨className, -, described, written, rfl⟩ := found
    exact List.rel_flatMap (Outcome.mapM_ok.mp written) fun _ _ one =>
      describePayload_written (describeVariant_ok one).2.2

/-- What is seen as a class has a class of that name. -/
theorem describe_class {type : HostType} {content : Content} {entity : Option Schema.Entity}
    {start : Memory} (isClass : type.view.class?.isSome)
    (made : HasContent model start type content)
    (found : describe model target type content = .ok entity) :
    ∃ described, entity = some described ∧ type.view.className target =
      .ok described.className := by
  cases made with
  | primitive seenAs =>
    rw [seenAs] at isClass
    cases isClass
  | container isContainer =>
    cases seenAs : type.view <;> simp [seenAs, View.class?, View.IsContainer] at isClass isContainer
  | record seenAs =>
    simp only [describe, Outcome.bind_ok, Outcome.pure_ok] at found
    obtain ⟨className, named, fields, -, rfl⟩ := found
    exact ⟨_, rfl, named⟩
  | enumeration seenAs =>
    simp only [describe, Outcome.bind_ok, Outcome.pure_ok] at found
    obtain ⟨className, named, rfl⟩ := found
    exact ⟨_, rfl, named⟩
  | dataEnum seenAs =>
    simp only [describe, Outcome.bind_ok, Outcome.pure_ok] at found
    obtain ⟨className, named, variants, -, rfl⟩ := found
    exact ⟨_, rfl, named⟩

end Collect

/-- A type expression spells a type: lists and maps with what they hold, optional types and boxes as
their content, primitive types by the word of the target, and classes by the name of the one of some
generated classes that a walk has collected for the very identity. -/
inductive Spells (target : Target) (walk : List Expansion) (names : List String) :
    View → TypeExpr → Prop
  | primitive {shown : Primitive} :
      Spells target walk names (.primitive shown) (.named (target.primitiveType shown))
  | collected {view : View} {expansion : Expansion} {entity : Schema.Entity} :
      view.class?.isSome → expansion ∈ walk → view.identity = .ok expansion.identity →
      expansion.entity = some entity → entity.className ∈ names →
      Spells target walk names view (.named entity.className)
  | list {item : View} {rest : List View} {written : TypeExpr} :
      Spells target walk names item written →
      Spells target walk names (.list (item :: rest)) (.list written)
  | map {key value : View} {rest : List View} {writtenKey writtenValue : TypeExpr} :
      Spells target walk names key writtenKey → Spells target walk names value writtenValue →
      Spells target walk names (.map (key :: value :: rest)) (.map writtenKey writtenValue)
  | optional {type : View} {written : TypeExpr} :
      Spells target walk names type written → Spells target walk names (.optional type) written
  | box {type : View} {rest : List View} {written : TypeExpr} :
      Spells target walk names type written →
      Spells target walk names (.box (type :: rest)) written

/-- A class is named in type expressions as it is when it is generated. -/
theorem View.typeExpr_class {view : View} {expression : TypeExpr} (isClass : view.class?.isSome)
    (written : view.typeExpr target = .ok expression) :
    ∃ name, expression = .named name ∧ view.className target = .ok name := by
  cases view with
  | record ref args | dataEnum ref args =>
    obtain ⟨fragments, found, same⟩ := Outcome.bind_ok.mp written
    obtain rfl := Outcome.pure_ok.mp same
    exact ⟨_, rfl, Outcome.bind_ok.mpr ⟨fragments, found, rfl⟩⟩
  | enumeration ref =>
    cases written
    exact ⟨_, rfl, rfl⟩
  | refused error | primitive shown | list args | map args | optional type | box args =>
    cases isClass

namespace Walked

variable {start : Memory} {roots : List HostType} {collection : Collection} {walk : List Expansion}
  {names : List String}

section Apart

variable (walked : Walked model start roots (.empty target) collection walk)
  (apart : model.NamesApart)
  (declares : ∀ type, Needed model start roots type → model.Declares type)

include walked apart declares

/-- A type that was met is seen as one that was walked for its identity. -/
theorem exists_seenAs {type : HostType} (needed : Needed model start roots type)
    (met : collection.Met type) : ∃ expansion ∈ walk, expansion.type.view = type.view ∧
      type.view.identity = .ok expansion.identity := by
  obtain ⟨identity, seen, identified⟩ := met
  obtain ⟨expansion, inside, rfl⟩ := walked.mem_seen.mp seen
  have known := walked.needed (walked.reached _ inside)
  exact ⟨expansion, inside, apart.view_eq (declares _ known) (declares _ needed)
    (walked.valid _ inside).identity identified, identified⟩

/-- What a container that was met holds was met. -/
theorem exists_part {type : HostType} (needed : Needed model start roots type)
    (met : collection.Met type) (isContainer : type.view.IsContainer) {args : List View}
    (kept : type.view.args? = some args) {arg : View} (member : arg ∈ args) :
    ∃ part, part.view = arg ∧ Needed model start roots part ∧ collection.Met part := by
  obtain ⟨expansion, inside, same, -⟩ := walked.exists_seenAs apart declares needed met
  have content := (walked.valid _ inside).content
  have holds : expansion.content = .container expansion.type.parts :=
    content.eq_container (same ▸ isContainer)
  have views : expansion.type.parts.map HostType.view = args := by
    rw [← same] at kept
    exact HostType.view_parts kept
  -- The walk went on to the parts of the type that it met; they are seen as the arguments of this
  -- one.
  obtain ⟨part, held, rfl⟩ := List.mem_map.mp (views ▸ member)
  have depends : part ∈ expansion.dependencies := by
    rwa [Expansion.dependencies, holds]
  exact ⟨part, rfl, .dependency (walked.needed (walked.reached _ inside)) content depends,
    walked.closed _ inside part depends⟩

/-- What is seen as a class and was met is named like the class that was collected for it. -/
theorem spells_class {type : HostType} (needed : Needed model start roots type)
    (met : collection.Met type) (isClass : type.view.class?.isSome)
    (named : ∀ expansion ∈ walk, ∀ entity, expansion.entity = some entity →
      entity.className ∈ names)
    {expression : TypeExpr} (written : type.view.typeExpr target = .ok expression) :
    Spells target walk names type.view expression := by
  obtain ⟨expansion, inside, same, identified⟩ := walked.exists_seenAs apart declares needed met
  obtain ⟨-, content, described⟩ := walked.valid _ inside
  obtain ⟨entity, collected, className⟩ :=
    Collect.describe_class (same ▸ isClass) content described
  obtain ⟨name, rfl, other⟩ := View.typeExpr_class isClass written
  rw [same] at className
  cases className.symm.trans other
  exact .collected isClass inside identified collected (named expansion inside entity collected)

/-- The type expression of a type that was met spells it; the type carries the induction, as the
expression was written from it. -/
theorem spells
    (named : ∀ expansion ∈ walk, ∀ entity, expansion.entity = some entity →
      entity.className ∈ names) :
    ∀ (view : View) {type : HostType} {expression : TypeExpr}, type.view = view →
      Needed model start roots type → collection.Met type → view.typeExpr target = .ok expression →
      Spells target walk names view expression
  | .refused _, _, _, _, _, _, written => by cases written
  | .primitive _, _, _, _, _, _, written => by
    cases written
    exact .primitive
  | .list [], _, _, _, _, _, written => by cases written
  | .list (item :: _), _, _, seenAs, needed, met, written => by
    obtain ⟨inner, same, spelled⟩ := Outcome.bind_ok.mp written
    obtain rfl := Outcome.pure_ok.mp spelled
    obtain ⟨part, seen, needs, found⟩ :=
      walked.exists_part apart declares needed met (seenAs ▸ trivial)
        (by rw [seenAs]; rfl) (.head _)
    exact .list (spells named item seen needs found same)
  | .map [], _, _, _, _, _, written => by cases written
  | .map [_], _, _, _, _, _, written => by
    obtain ⟨_, -, lacks⟩ := Outcome.bind_ok.mp written
    cases lacks
  | .map (key :: value :: _), _, _, seenAs, needed, met, written => by
    obtain ⟨first, sameKey, rest⟩ := Outcome.bind_ok.mp written
    obtain ⟨second, sameValue, spelled⟩ := Outcome.bind_ok.mp rest
    obtain rfl := Outcome.pure_ok.mp spelled
    obtain ⟨_, seenKey, needsKey, foundKey⟩ :=
      walked.exists_part apart declares needed met (seenAs ▸ trivial)
        (by rw [seenAs]; rfl) (.head _)
    obtain ⟨_, seenValue, needsValue, foundValue⟩ :=
      walked.exists_part apart declares needed met (seenAs ▸ trivial) (by rw [seenAs]; rfl)
        (.tail _ (.head _))
    exact .map (spells named key seenKey needsKey foundKey sameKey)
      (spells named value seenValue needsValue foundValue sameValue)
  | .optional type, _, _, seenAs, needed, met, written => by
    obtain ⟨part, seen, needs, found⟩ :=
      walked.exists_part apart declares needed met (seenAs ▸ trivial)
        (by rw [seenAs]; rfl) (.head _)
    exact .optional (spells named type seen needs found written)
  | .box [], _, _, _, _, _, written => by cases written
  | .box (type :: _), _, _, seenAs, needed, met, written => by
    obtain ⟨part, seen, needs, found⟩ :=
      walked.exists_part apart declares needed met (seenAs ▸ trivial)
        (by rw [seenAs]; rfl) (.head _)
    exact .box (spells named type seen needs found written)
  | .record _ _, _, _, seenAs, needed, met, written => by
    rw [← seenAs] at written ⊢
    exact walked.spells_class apart declares needed met (seenAs ▸ rfl) named written
  | .enumeration _, _, _, seenAs, needed, met, written => by
    rw [← seenAs] at written ⊢
    exact walked.spells_class apart declares needed met (seenAs ▸ rfl) named written
  | .dataEnum _ _, _, _, seenAs, needed, met, written => by
    rw [← seenAs] at written ⊢
    exact walked.spells_class apart declares needed met (seenAs ▸ rfl) named written

/-- The type expressions of a class that was collected spell what the class depends on. -/
theorem spells_entity
    (named : ∀ entity ∈ collection.schema.entities, entity.className ∈ names)
    {entity : Schema.Entity}
    (member : entity ∈ collection.schema.entities) :
    ∃ expansion ∈ walk, expansion.entity = some entity ∧
      List.Forall₂
        (fun type expression => Spells target walk names (HostType.view type) expression)
        expansion.dependencies entity.types := by
  have entities : collection.schema.entities.Perm (walk.filterMap Expansion.entity) :=
    walked.entities
  have among : ∀ expansion ∈ walk, ∀ entity, expansion.entity = some entity →
      entity.className ∈ names :=
    fun expansion inside entity made =>
      named entity (entities.mem_iff.mpr (List.mem_filterMap.mpr ⟨expansion, inside, made⟩))
  obtain ⟨expansion, inside, made⟩ := List.mem_filterMap.mp (entities.mem_iff.mp member)
  refine ⟨expansion, inside, made, ?_⟩
  -- Each type expression is written from a type that the class depends on, which the walk has met.
  have written := Collect.describe_written (made ▸ (walked.valid expansion inside).entity)
  have owner := walked.needed (walked.reached expansion inside)
  have known : ∀ type ∈ expansion.dependencies, Needed model start roots type ∧
      collection.Met type :=
    fun type carried => ⟨.dependency owner (walked.valid expansion inside).content carried,
      walked.closed expansion inside type carried⟩
  refine ((List.forall₂_and_left _ _).mpr ⟨known, written⟩).imp ?_
  rintro type expression ⟨⟨needed, met⟩, written⟩
  exact walked.spells apart declares among type.view rfl needed met written

end Apart

end Walked

/-- A generated class has the name of its entity. -/
theorem Target.generateEntity_name {entity : Schema.Entity} {generated : GeneratedClass}
    (succeeds : target.generateEntity entity = .ok generated) :
    generated.name = entity.className := by
  cases target with
  | java | python =>
    obtain ⟨lines, -, rest⟩ := Outcome.bind_ok.mp succeeds
    dsimp only at rest
    split at rest
    · cases rest
      rfl
    · cases rest

/-- Each class of a schema is generated, and their names are distinct. -/
theorem Schema.generate_each {schema : Schema} {classes : List GeneratedClass}
    (succeeds : schema.generate target = .ok classes) :
    List.Forall₂ (fun entity generated => target.generateEntity entity = .ok generated)
      schema.entities classes ∧ (schema.entities.map Entity.className).Nodup := by
  obtain ⟨entities, found, all⟩ := Outcome.bind_ok.mp succeeds
  obtain ⟨rfl, distinct⟩ := distinctEntities_ok found
  exact ⟨Outcome.mapM_ok.mp all, distinct⟩

/-- The generated classes have the names of the collected ones, which are distinct. -/
theorem Schema.generate_names {schema : Schema} {classes : List GeneratedClass}
    (succeeds : schema.generate target = .ok classes) :
    classes.map GeneratedClass.name = schema.entities.map Entity.className ∧
      (schema.entities.map Entity.className).Nodup := by
  obtain ⟨each, distinct⟩ := generate_each succeeds
  refine ⟨?_, distinct⟩
  have same := each.imp fun _ _ => Target.generateEntity_name
  rw [← List.forall₂_eq_eq_eq, List.forall₂_map_left_iff, List.forall₂_map_right_iff]
  exact same.flip

/-- Generated classes have distinct names, and whatever class stands in the type of a field or a
slot of one of them, at any depth, is named like the generated class that was collected for the
identity that stands there. The full names of the classes are to be apart. -/
theorem generate_references {model : Model} {target : Target} {roots : List HostType}
    {before after : Memory} {classes : List GeneratedClass} (apart : model.NamesApart)
    (declares : ∀ type, Needed model before roots type → model.Declares type)
    (succeeds : (generate target model roots).run.run before = (.ok classes, after)) :
    (classes.map GeneratedClass.name).Nodup ∧ ∃ collection walk,
      (Schema.ofTypes target model roots).run.run before = (.ok collection.schema, after) ∧
      Exact model before target roots collection walk ∧
      classes.map GeneratedClass.name = collection.schema.entities.map Schema.Entity.className ∧
      ∀ entity ∈ collection.schema.entities, ∃ expansion ∈ walk, expansion.entity = some entity ∧
        List.Forall₂
          (fun type expression => Spells target walk (classes.map GeneratedClass.name)
            (HostType.view type) expression)
          expansion.dependencies entity.types := by
  obtain ⟨schema, collects, generated⟩ := generate_ok.mp succeeds
  obtain ⟨collection, found, rfl⟩ := Schema.ofTypes_ok collects
  obtain ⟨walk, order, ordered⟩ := Collect.addAll_ordered found
  obtain ⟨names, distinct⟩ := Schema.generate_names generated
  refine ⟨names ▸ distinct, collection, walk, collects, ordered.exact, names,
    fun entity member => ?_⟩
  exact ordered.walked.spells_entity apart declares
    (fun other inside => names ▸ List.mem_map_of_mem inside) member

namespace Collect

/-- Classes that stand in fields by themselves, in a list and in a map. -/
def nestingClasses : List (ClassRef × List (String × HostType)) :=
  [(leafRef, []), (innerRef, [("e", .declared leafRef)]),
    (ownerRef, [("c", .applied (.list .native) [.declared innerRef]),
      ("d", .applied (.map .native) [.primitive .str, .declared leafRef])])]

def nestingModel : Model :=
  plainModel nestingClasses

/-- What the last class needs. -/
def nestingTypes : List HostType :=
  [.declared ownerRef, .declared innerRef, .declared leafRef, .primitive .str,
    .applied (.list .native) [.declared innerRef],
    .applied (.map .native) [.primitive .str, .declared leafRef]]

private theorem parts_nesting {type : HostType} {content : Content} (member : type ∈ nestingTypes)
    (made : HasContent nestingModel .empty type content) :
    ∀ part ∈ content.dependencies, part ∈ nestingTypes := by
  simp only [nestingTypes, List.mem_cons, List.not_mem_nil, or_false] at member
  rcases member with rfl | rfl | rfl | rfl | rfl | rfl
  · have owned : content = .record ownerRef [("c", .applied (.list .native) [.declared innerRef]),
        ("d", .applied (.map .native) [.primitive .str, .declared leafRef])] := by
      refine made.eq_record rfl (fun _ => rfl) ?_
      simp only [List.mem_cons, List.not_mem_nil, or_false, forall_eq_or_imp, forall_eq]
      exact ⟨fun _ _ => rfl, fun _ _ => rfl⟩
    rw [owned]
    simp [Content.dependencies, nestingTypes]
  · have inner : content = .record innerRef [("e", .declared leafRef)] :=
      made.eq_record rfl (fun _ => rfl) (List.forall_mem_singleton.mpr fun _ _ => rfl)
    rw [inner]
    simp [Content.dependencies, nestingTypes]
  · have leaf : content = .record leafRef [] :=
      made.eq_record rfl (fun _ => rfl) (by simp)
    rw [leaf]
    simp [Content.dependencies]
  · cases made with
    | primitive => simp [Content.dependencies]
    | container isContainer => exact isContainer.elim
    | record seenAs => cases (show View.primitive .str = .record _ _ from seenAs)
    | enumeration seenAs => cases (show View.primitive .str = .enumeration _ from seenAs)
    | dataEnum seenAs => cases (show View.primitive .str = .dataEnum _ _ from seenAs)
  · rw [made.eq_container trivial]
    simp [Content.dependencies, HostType.parts, nestingTypes]
  · rw [made.eq_container trivial]
    simp [Content.dependencies, HostType.parts, nestingTypes]

theorem needed_nesting {root type : HostType} (inside : root ∈ nestingTypes)
    (needed : Needed nestingModel .empty [root] type) : type ∈ nestingTypes := by
  induction needed with
  | root member => exact List.mem_singleton.mp member ▸ inside
  | dependency _ made inside ih => exact parts_nesting ih made _ inside

theorem declares_nesting {type : HostType} (member : type ∈ nestingTypes) :
    nestingModel.Declares type := by
  have held : ∀ type ∈ nestingTypes, ∀ part ∈ type.parts, part ∈ nestingTypes := by
    simp [nestingTypes, HostType.parts]
  have declared : ∀ type ∈ nestingTypes, ∀ ref, type.view.class? = some ref →
      ref ∈ nestingClasses.map Prod.fst := by
    intro type member ref seenAs
    simp only [nestingTypes, List.mem_cons, List.not_mem_nil, or_false] at member
    rcases member with rfl | rfl | rfl | rfl | rfl | rfl
    · cases (show some ownerRef = some ref from seenAs)
      simp [nestingClasses]
    · cases (show some innerRef = some ref from seenAs)
      simp [nestingClasses]
    · cases (show some leafRef = some ref from seenAs)
      simp [nestingClasses]
    all_goals cases seenAs
  intro ref mentions
  induction mentions with
  | self seenAs =>
    obtain ⟨found, inside, rfl⟩ := List.mem_map.mp (declared _ member _ seenAs)
    exact ⟨plainClass found.1 found.2, List.mem_map_of_mem inside, rfl⟩
  | part inside _ ih => exact ih (held _ member _ inside)

theorem nestingModel_namesApart : nestingModel.NamesApart where
  distinct := by decide
  foreign := by decide

/-- The classes that are collected: in a list and in a map, classes stand under their names. -/
def nestingSchema : Schema :=
  ⟨[⟨.ofPascal "E", "E", []⟩, ⟨.ofPascal "D", "D", [⟨.ofSnake "e", "e", .named "E"⟩]⟩,
    ⟨.ofPascal "S", "S", [⟨.ofSnake "c", "c", .list (.named "D")⟩,
      ⟨.ofSnake "d", "d", .map (.named "str") (.named "E")⟩]⟩], [], []⟩

theorem generate_references_nesting :
    nestingModel.NamesApart ∧
    (∀ type, Needed nestingModel .empty [.declared ownerRef] type → nestingModel.Declares type) ∧
    ∃ classes after,
      (generate .python nestingModel [.declared ownerRef]).run.run .empty = (.ok classes, after) ∧
      (classes.map GeneratedClass.name).Nodup ∧ ∃ (collection : Collection) (walk : List Expansion),
        collection.schema = nestingSchema ∧
        Exact nestingModel .empty .python [.declared ownerRef] collection walk ∧
        classes.map GeneratedClass.name =
          collection.schema.entities.map Schema.Entity.className ∧
        ∀ entity ∈ collection.schema.entities, ∃ expansion ∈ walk, expansion.entity = some entity ∧
          List.Forall₂
            (fun type expression => Spells .python walk (classes.map GeneratedClass.name)
              (HostType.view type) expression)
            expansion.dependencies entity.types := by
  have declares : ∀ type, Needed nestingModel .empty [.declared ownerRef] type →
      nestingModel.Declares type :=
    fun _ needed => declares_nesting (needed_nesting (.head _) needed)
  have collected :
      ((Schema.ofTypes .python nestingModel [.declared ownerRef]).run.run .empty).1.toOption =
      some nestingSchema := by
    rw [Schema.ofTypes_eq_paired (by decide +kernel)]
    decide +kernel
  obtain ⟨classes, succeeds⟩ := exists_classes collected (by decide +kernel)
  obtain ⟨distinct, collection, walk, collects, exact, names, spelled⟩ :=
    generate_references nestingModel_namesApart declares succeeds
  have same : collection.schema = nestingSchema := by
    rw [collects] at collected
    exact Option.some.inj collected
  exact ⟨nestingModel_namesApart, declares, classes, _, succeeds, distinct, collection, walk, same,
    exact, names, spelled⟩

/-- Classes of one full name may have different names. A field of the second one names a class that
is not generated. -/
theorem not_references_homonym :
    ¬ ∀ (model : Model) (target : Target) (roots : List HostType) (before after : Memory)
      (classes : List GeneratedClass) (schema : Schema),
      (model.classes.map fun declared =>
        (declared.ref.module, declared.ref.qualifiedName)).Nodup →
      (generate target model roots).run.run before = (.ok classes, after) →
      ((Schema.ofTypes target model roots).run.run before).1.toOption = some schema →
      ∀ entity ∈ schema.entities, ∀ name, .named name ∈ entity.types →
        (∃ shown, name = target.primitiveType shown) ∨ name ∈ classes.map GeneratedClass.name := by
  intro refers
  have collected : ((Schema.ofTypes .python homonymModel
      [.declared outerRef, .declared ownerRef]).run.run .empty).1.toOption =
        some ⟨[⟨.ofPascal "C", "C", []⟩, ownerRecord], [], []⟩ := by
    rw [Schema.ofTypes_eq_paired (by decide +kernel)]
    decide +kernel
  obtain ⟨classes, succeeds⟩ := exists_classes collected (by decide +kernel)
  obtain ⟨schema, found, generated⟩ := generate_ok.mp succeeds
  have same : schema = ⟨[⟨.ofPascal "C", "C", []⟩, ownerRecord], [], []⟩ := by
    rw [found] at collected
    exact Option.some.inj collected
  obtain ⟨names, -⟩ := Schema.generate_names generated
  have named :=
    refers homonymModel .python _ _ _ _ _ (by decide) succeeds collected (.record ownerRecord)
    (by simp [Schema.entities]) "D" (by simp [Schema.Entity.types, ownerRecord])
  rcases named with ⟨shown, word⟩ | member
  · revert word
    cases shown <;> decide
  · rw [names, same] at member
    revert member
    decide

end Collect

end WireModel
