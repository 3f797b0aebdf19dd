import Mathlib.Data.List.Nodup
import WireModel.Proofs.Collection.Run

/-!
The walk over the types that some roots need: what each type is made of once all types inside are
closed, the class that follows from that, and what a list of such expansions says about a collection
before and after it.
-/

namespace WireModel

variable {model : Model} {start : Memory} {target : Target}

/-- A memory that closing types of a model can leave behind. -/
inductive Arises (model : Model) (start : Memory) : Memory → Prop
  | start : Arises model start start
  | close {memory : Memory} (ref : ClassRef) (bindings : TypeBindings) (type : HostType) :
      Arises model start memory →
      Arises model start ((model.close ref bindings type).run.run memory).2
  | fields {memory : Memory} (ref : ClassRef) :
      Arises model start memory →
      Arises model start ((model.typedFields ref).run.run memory).2

/-- A type of a class closes to another one. -/
def ClosesTo (model : Model) (start : Memory) (ref : ClassRef) (bindings : TypeBindings)
    (type closed : HostType) : Prop :=
  ∃ memory, Arises model start memory ∧
    ((model.close ref bindings type).run.run memory).1 = .ok closed

/-- A field closes to one of the same name. -/
def FieldCloses (model : Model) (start : Memory) (ref : ClassRef) (bindings : TypeBindings)
    (field closed : String × HostType) : Prop :=
  closed.1 = field.1 ∧ ClosesTo model start ref bindings field.2 closed.2

/-- What a variant carries closes part by part. -/
inductive PayloadCloses (model : Model) (start : Memory) (ref : ClassRef)
    (bindings : TypeBindings) : Payload → Payload → Prop
  | unit : PayloadCloses model start ref bindings .unit .unit
  | tuple {slots closed : List HostType} :
      List.Forall₂ (ClosesTo model start ref bindings) slots closed →
      PayloadCloses model start ref bindings (.tuple slots) (.tuple closed)
  | object {fields closed : List (String × HostType)} :
      List.Forall₂ (FieldCloses model start ref bindings) fields closed →
      PayloadCloses model start ref bindings (.object fields) (.object closed)

/-- A variant closes to one of the same name and tag. -/
def VariantCloses (model : Model) (start : Memory) (ref : ClassRef) (bindings : TypeBindings)
    (declared closed : Variant) : Prop :=
  closed.name = declared.name ∧ closed.rename = declared.rename ∧
    PayloadCloses model start ref bindings declared.payload closed.payload

/-- The types that a variant carries. -/
def Payload.types : Payload → List HostType
  | .unit => []
  | .tuple slots => slots
  | .object fields => fields.map Prod.snd

/-- What a type is made of, with all types inside closed. -/
inductive Content where
  | primitive
  | container (args : List HostType)
  | record (ref : ClassRef) (fields : List (String × HostType))
  | enumeration (ref : ClassRef)
  | dataEnum (ref : ClassRef) (variants : List Variant)

/-- The types that a type depends on. -/
def Content.dependencies : Content → List HostType
  | .primitive | .enumeration _ => []
  | .container args => args
  | .record _ fields => fields.map Prod.snd
  | .dataEnum _ variants => variants.flatMap fun declared => declared.payload.types

/-- A type is seen as a container: a list, a map, an optional type or a box. -/
def View.IsContainer : View → Prop
  | .list _ | .map _ | .optional _ | .box _ => True
  | _ => False

/-- What the declarations of a model say that a type is made of. The types of a class are closed in
memories that closing other types may have left behind. -/
inductive HasContent (model : Model) (start : Memory) (type : HostType) : Content → Prop
  | primitive {shown : Primitive} :
      type.view = .primitive shown → HasContent model start type .primitive
  | container :
      type.view.IsContainer → HasContent model start type (.container type.parts)
  | record {ref : ClassRef} {args : List View} {bindings : TypeBindings} {memory : Memory}
      {fields closed : List (String × HostType)} :
      type.view = .record ref args →
      Collect.bindings model ref type = .ok bindings →
      Arises model start memory →
      ((model.typedFields ref).run.run memory).1 = .ok fields →
      List.Forall₂ (FieldCloses model start ref bindings) fields closed →
      HasContent model start type (.record ref closed)
  | enumeration {ref : ClassRef} :
      type.view = .enumeration ref → HasContent model start type (.enumeration ref)
  | dataEnum {ref : ClassRef} {args : List View} {bindings : TypeBindings}
      {closed : List Variant} :
      type.view = .dataEnum ref args →
      Collect.bindings model ref type = .ok bindings →
      List.Forall₂ (VariantCloses model start ref bindings) (model.variants ref) closed →
      HasContent model start type (.dataEnum ref closed)

/-- Types that close to themselves whatever was built before close to nothing else. -/
theorem ClosesTo.forall_eq {ref : ClassRef} {bindings : TypeBindings} {hints closed : List HostType}
    (closes : List.Forall₂ (ClosesTo model start ref bindings) hints closed)
    (steady : ∀ hint ∈ hints, ∀ memory,
      ((model.close ref bindings hint).run.run memory).1 = .ok hint) :
    hints = closed := by
  have same := ((List.forall₂_and_left _ _).mpr ⟨steady, closes⟩).imp
    fun hint closed ⟨kept, memory, _, found⟩ => Except.ok.inj ((kept memory).symm.trans found)
  rwa [List.forall₂_eq_eq_eq] at same

theorem FieldCloses.forall_eq {ref : ClassRef} {bindings : TypeBindings}
    {fields closed : List (String × HostType)}
    (closes : List.Forall₂ (FieldCloses model start ref bindings) fields closed)
    (steady : ∀ field ∈ fields, ∀ memory,
      ((model.close ref bindings field.2).run.run memory).1 = .ok field.2) : fields = closed := by
  have same := ((List.forall₂_and_left _ _).mpr ⟨steady, closes⟩).imp
    fun field closed ⟨kept, named, memory, _, found⟩ =>
      Prod.ext named.symm (Except.ok.inj ((kept memory).symm.trans found))
  rwa [List.forall₂_eq_eq_eq] at same

theorem PayloadCloses.eq_of_steady {ref : ClassRef} {bindings : TypeBindings}
    {payload closed : Payload} (closes : PayloadCloses model start ref bindings payload closed)
    (steady : ∀ hint ∈ payload.types, ∀ memory,
      ((model.close ref bindings hint).run.run memory).1 = .ok hint) : payload = closed := by
  cases closes with
  | unit => rfl
  | tuple slots => rw [ClosesTo.forall_eq slots steady]
  | object fields =>
    rw [FieldCloses.forall_eq fields fun field inside =>
      steady field.2 (List.mem_map_of_mem inside)]

namespace HasContent

variable {type : HostType} {content : Content} {ref : ClassRef}

/-- A container is made of what it holds. -/
theorem eq_container (made : HasContent model start type content)
    (isContainer : type.view.IsContainer) : content = .container type.parts := by
  cases made with
  | container => rfl
  | primitive seenAs | record seenAs | enumeration seenAs | dataEnum seenAs =>
    rw [seenAs] at isContainer
    exact isContainer.elim

/-- Whatever was built before, a record is made of its fields and of nothing else, if their types
close to themselves. -/
theorem eq_record {fields : List (String × HostType)} (made : HasContent model start type content)
    (seenAs : type.view = .record ref [])
    (typed : ∀ memory, ((model.typedFields ref).run.run memory).1 = .ok fields)
    (steady : ∀ field ∈ fields, ∀ bindings memory,
      ((model.close ref bindings field.2).run.run memory).1 = .ok field.2) :
    content = .record ref fields := by
  cases made with
  | primitive other | enumeration other | dataEnum other => cases seenAs.symm.trans other
  | container isContainer =>
    rw [seenAs] at isContainer
    exact isContainer.elim
  | @record _ _ bindings _ _ closed other _ _ declares closes =>
    cases seenAs.symm.trans other
    cases (typed _).symm.trans declares
    rw [FieldCloses.forall_eq closes fun field inside => steady field inside bindings]

/-- Whatever was built before, a data enum is made of its variants, if the types in these close to
themselves. -/
theorem eq_dataEnum (made : HasContent model start type content)
    (seenAs : type.view = .dataEnum ref [])
    (steady : ∀ offered ∈ model.variants ref, ∀ hint ∈ offered.payload.types, ∀ bindings memory,
      ((model.close ref bindings hint).run.run memory).1 = .ok hint) :
    content = .dataEnum ref (model.variants ref) := by
  cases made with
  | primitive other | enumeration other | record other => cases seenAs.symm.trans other
  | container isContainer =>
    rw [seenAs] at isContainer
    exact isContainer.elim
  | @dataEnum _ _ bindings closed other _ closes =>
    cases seenAs.symm.trans other
    have same : List.Forall₂ Eq (model.variants ref) closed := by
      refine ((List.forall₂_and_left _ _).mpr ⟨steady, closes⟩).imp ?_
      rintro offered closed ⟨kept, named, renamed, carries⟩
      have payload := carries.eq_of_steady fun hint inside => kept hint inside bindings
      obtain ⟨name, payload, rename⟩ := offered
      cases closed
      cases named
      cases renamed
      cases payload
      rfl
    rw [List.forall₂_eq_eq_eq] at same
    rw [same]

end HasContent

namespace Collect

/-- The field of a class that a closed field describes. -/
def describeField (target : Target) (field : String × HostType) : Except Failure Schema.Field := do
  return ⟨.ofSnake field.1, fieldTag field.1 field.2, ← field.2.view.typeExpr target⟩

def describePayload (target : Target) : Payload → Except Failure Schema.Payload
  | .unit => return .unit
  | .tuple slots => return .tuple (← slots.mapM fun type => type.view.typeExpr target)
  | .object fields => return .object (← fields.mapM (describeField target))

def describeVariant (target : Target) (declared : Variant) : Except Failure Schema.Variant := do
  return ⟨.ofPascal declared.name, declared.tag, ← describePayload target declared.payload⟩

/-- The class that a type and what it is made of describe, unless the type needs none. -/
def describe (model : Model) (target : Target) (type : HostType) :
    Content → Except Failure (Option Schema.Entity)
  | .primitive | .container _ => return none
  | .record ref fields => do
    let className ← type.view.className target
    let fields ← fields.mapM (describeField target)
    return some (.record ⟨.ofPascal ref.name, className, fields⟩)
  | .enumeration ref => do
    return some (.enumeration (enumeration model ref (← type.view.className target)))
  | .dataEnum ref variants => do
    let className ← type.view.className target
    let variants ← variants.mapM (describeVariant target)
    return some (.dataEnum ⟨.ofPascal ref.name, className, .external, variants⟩)

end Collect

/-- A type that was walked: its identity, what it is made of, and its class. -/
structure Expansion where
  type : HostType
  identity : Identity
  content : Content
  entity : Option Schema.Entity

namespace Expansion

/-- The expansion says what the declarations of a model say. -/
structure Valid (model : Model) (start : Memory) (target : Target) (expansion : Expansion) :
    Prop where
  identity : expansion.type.view.identity = .ok expansion.identity
  content : HasContent model start expansion.type expansion.content
  entity : Collect.describe model target expansion.type expansion.content = .ok expansion.entity

def dependencies (expansion : Expansion) : List HostType :=
  expansion.content.dependencies

end Expansion

/-- The types that a walk comes to from some roots. -/
inductive Reached (roots : List HostType) (walk : List Expansion) : HostType → Prop
  | root {type : HostType} : type ∈ roots → Reached roots walk type
  | dependency {expansion : Expansion} {type : HostType} :
      expansion ∈ walk → Reached roots walk expansion.type →
      type ∈ expansion.dependencies → Reached roots walk type

/-- The identity of the type was met. -/
def Collection.Met (collection : Collection) (type : HostType) : Prop :=
  ∃ identity ∈ collection.seen, type.view.identity = .ok identity

/-- The walk from some roots leads from one collection to another: its types are new, each identity
occurs once, nothing that it comes to is left out, and it comes to nothing else. -/
structure Walked (model : Model) (start : Memory) (roots : List HostType)
    (before after : Collection) (walk : List Expansion) : Prop where
  target : after.target = before.target
  seen : after.seen = before.seen ++ walk.map Expansion.identity
  entities : after.schema.entities.Perm
    (before.schema.entities ++ walk.filterMap Expansion.entity)
  valid : ∀ expansion ∈ walk, expansion.Valid model start before.target
  fresh : ∀ expansion ∈ walk, expansion.identity ∉ before.seen
  distinct : (walk.map Expansion.identity).Nodup
  rooted : ∀ type ∈ roots, after.Met type
  closed : ∀ expansion ∈ walk, ∀ type ∈ expansion.dependencies, after.Met type
  reached : ∀ expansion ∈ walk, Reached roots walk expansion.type

theorem Reached.mono {roots others : List HostType} {walk longer : List Expansion}
    {type : HostType} (reached : Reached roots walk type)
    (rootsIn : ∀ root ∈ roots, Reached others longer root)
    (walkIn : ∀ expansion ∈ walk, expansion ∈ longer) : Reached others longer type := by
  induction reached with
  | root member => exact rootsIn _ member
  | dependency walked _ member ih => exact .dependency (walkIn _ walked) ih member

theorem Collection.Met.mono {collection extended : Collection} {type : HostType}
    (found : collection.Met type) (kept : ∀ identity ∈ collection.seen, identity ∈ extended.seen) :
    extended.Met type := by
  obtain ⟨identity, member, same⟩ := found
  exact ⟨identity, kept identity member, same⟩

theorem Collection.mark_target (collection : Collection) (identity : Identity) :
    (collection.mark identity).target = collection.target := by
  unfold mark
  split <;> rfl

theorem Collection.mark_old {collection : Collection} {identity : Identity}
    (old : identity ∈ collection.seen) : collection.mark identity = collection := by
  simp [mark, hasSeen, old]

theorem Collection.mark_new {collection : Collection} {identity : Identity}
    (new : identity ∉ collection.seen) :
    collection.mark identity = { collection with seen := collection.seen ++ [identity] } := by
  simp [mark, hasSeen, new]

namespace Walked

variable {roots others : List HostType} {before between after : Collection}
  {walk rest : List Expansion}

theorem refl (collection : Collection) : Walked model start [] collection collection [] where
  target := rfl
  seen := by simp
  entities := by simp
  valid := by simp
  fresh := by simp
  distinct := by simp
  rooted := by simp
  closed := by simp
  reached := by simp

theorem keeps (walked : Walked model start roots before after walk) :
    ∀ identity ∈ before.seen, identity ∈ after.seen := by
  intro identity member
  rw [walked.seen]
  exact List.mem_append_left _ member

theorem append (first : Walked model start roots before between walk)
    (second : Walked model start others between after rest) :
    Walked model start (roots ++ others) before after (walk ++ rest) where
  target := second.target.trans first.target
  seen := by rw [second.seen, first.seen, List.map_append, List.append_assoc]
  entities := by
    rw [List.filterMap_append, ← List.append_assoc]
    exact second.entities.trans (first.entities.append_right _)
  valid := by
    intro expansion member
    rcases List.mem_append.mp member with member | member
    · exact first.valid expansion member
    · exact first.target ▸ second.valid expansion member
  fresh := by
    intro expansion member
    rcases List.mem_append.mp member with member | member
    · exact first.fresh expansion member
    · intro old
      exact second.fresh expansion member (first.keeps _ old)
  distinct := by
    rw [List.map_append]
    refine first.distinct.append second.distinct ?_
    intro identity member later
    obtain ⟨expansion, walked, rfl⟩ := List.mem_map.mp later
    apply second.fresh expansion walked
    rw [first.seen]
    exact List.mem_append_right _ member
  rooted := by
    intro type member
    rcases List.mem_append.mp member with member | member
    · exact (first.rooted type member).mono second.keeps
    · exact second.rooted type member
  closed := by
    intro expansion member type needed
    rcases List.mem_append.mp member with member | member
    · exact (first.closed expansion member type needed).mono second.keeps
    · exact second.closed expansion member type needed
  reached := by
    intro expansion member
    rcases List.mem_append.mp member with member | member
    · refine (first.reached expansion member).mono (fun root inside => ?_) (fun _ inside => ?_)
      · exact .root (List.mem_append_left _ inside)
      · exact List.mem_append_left _ inside
    · refine (second.reached expansion member).mono (fun root inside => ?_) (fun _ inside => ?_)
      · exact .root (List.mem_append_right _ inside)
      · exact List.mem_append_right _ inside

/-- A type that was met before is walked already. -/
theorem old {type : HostType} {identity : Identity} {collection : Collection}
    (identified : type.view.identity = .ok identity) (met : identity ∈ collection.seen) :
    Walked model start [type] collection collection [] :=
  { refl collection with
    rooted := List.forall_mem_singleton.mpr ⟨identity, met, identified⟩
    reached := by simp }

/-- A new type is walked when all that it depends on is walked behind its mark. -/
theorem node {expansion : Expansion} (valid : expansion.Valid model start before.target)
    (new : expansion.identity ∉ before.seen)
    (inner : Walked model start expansion.dependencies
      (before.mark expansion.identity) between walk)
    (target : after.target = between.target) (seen : after.seen = between.seen)
    (entities : after.schema.entities.Perm (between.schema.entities ++ expansion.entity.toList)) :
    Walked model start [expansion.type] before after (expansion :: walk) := by
  rw [Collection.mark_new new] at inner
  have keeps : ∀ identity ∈ between.seen, identity ∈ after.seen := by
    intro identity member
    rwa [seen]
  have found : expansion.identity ∈ after.seen := by
    rw [seen, inner.seen]
    simp
  constructor
  case target => exact target.trans inner.target
  case seen =>
    rw [seen, inner.seen, List.map_cons, List.append_assoc, List.singleton_append]
  case entities =>
    have reordered : (expansion :: walk).filterMap Expansion.entity =
        expansion.entity.toList ++ walk.filterMap Expansion.entity := by
      rw [List.filterMap_cons]
      cases expansion.entity <;> rfl
    rw [reordered]
    refine entities.trans ((inner.entities.append_right _).trans ?_)
    rw [List.append_assoc]
    exact List.perm_append_comm.append_left _
  case valid =>
    intro other member
    rcases List.mem_cons.mp member with rfl | member
    · exact valid
    · exact inner.valid other member
  case fresh =>
    intro other member
    rcases List.mem_cons.mp member with rfl | member
    · exact new
    · intro old
      exact inner.fresh other member (List.mem_append_left _ old)
  case distinct =>
    rw [List.map_cons, List.nodup_cons]
    refine ⟨?_, inner.distinct⟩
    intro repeated
    obtain ⟨other, member, same⟩ := List.mem_map.mp repeated
    apply inner.fresh other member
    rw [same]
    simp
  case rooted =>
    intro type member
    rw [List.mem_singleton] at member
    exact ⟨expansion.identity, found, member ▸ valid.identity⟩
  case closed =>
    intro other member type needed
    rcases List.mem_cons.mp member with rfl | member
    · exact (inner.rooted type needed).mono keeps
    · exact (inner.closed other member type needed).mono keeps
  case reached =>
    have root : Reached [expansion.type] (expansion :: walk) expansion.type :=
      .root (List.mem_singleton_self _)
    intro other member
    rcases List.mem_cons.mp member with rfl | member
    · exact root
    · refine (inner.reached other member).mono (fun type needed => ?_) (fun _ inside => ?_)
      · exact .dependency (List.mem_cons_self ..) root needed
      · exact List.mem_cons_of_mem _ inside

end Walked

end WireModel
