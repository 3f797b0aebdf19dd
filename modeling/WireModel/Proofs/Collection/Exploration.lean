import WireModel.Proofs.Collection.Visit

/-!
The order of a walk: which spelling of an identity is met first, and so stands for it, and in which
order the walk is done with the types that it meets, which is the order of the classes that are
added.
-/

namespace WireModel

namespace Schema

def Entity.record? : Entity → Option Record
  | .record entity => some entity
  | _ => none

def Entity.enumeration? : Entity → Option Enumeration
  | .enumeration entity => some entity
  | _ => none

def Entity.dataEnum? : Entity → Option DataEnum
  | .dataEnum entity => some entity
  | _ => none

theorem records_eq (schema : Schema) :
    schema.records = schema.entities.filterMap Entity.record? := by
  simp [entities, List.filterMap_append, List.filterMap_map, Function.comp_def, Entity.record?]

theorem enumerations_eq (schema : Schema) :
    schema.enumerations = schema.entities.filterMap Entity.enumeration? := by
  simp [entities, List.filterMap_append, List.filterMap_map, Function.comp_def,
    Entity.enumeration?]

theorem dataEnums_eq (schema : Schema) :
    schema.dataEnums = schema.entities.filterMap Entity.dataEnum? := by
  simp [entities, List.filterMap_append, List.filterMap_map, Function.comp_def, Entity.dataEnum?]

end Schema

/-- A walk from some roots, past some identities that are seen: the types in the order in which they
are met, and in the order in which they are done. -/
inductive Explores : List Identity → List HostType → List Expansion → List Expansion → Prop
  | done {seen : List Identity} : Explores seen [] [] []
  | old {seen : List Identity} {type : HostType} {rest : List HostType}
    {walk order : List Expansion}
      {identity : Identity} :
      type.view.identity = .ok identity → identity ∈ seen → Explores seen rest walk order →
      Explores seen (type :: rest) walk order
  | new {seen : List Identity} {expansion : Expansion} {rest : List HostType}
      {inner innerOrder walk order : List Expansion} :
      expansion.type.view.identity = .ok expansion.identity → expansion.identity ∉ seen →
      Explores (seen ++ [expansion.identity]) expansion.dependencies inner innerOrder →
      Explores (seen ++ (expansion :: inner).map Expansion.identity) rest walk order →
      Explores seen (expansion.type :: rest) (expansion :: inner ++ walk)
        (innerOrder ++ expansion :: order)

namespace Explores

variable {seen : List Identity} {roots others : List HostType}
  {full walk order more moreOrder : List Expansion}

theorem append (first : Explores seen roots walk order)
    (second : Explores (seen ++ walk.map Expansion.identity) others more moreOrder) :
    Explores seen (roots ++ others) (walk ++ more) (order ++ moreOrder) := by
  induction first with
  | done => simpa using second
  | old identified old _ ih => exact .old identified old (ih second)
  | new identified new inner _ _ ih =>
    rw [List.append_assoc, List.append_assoc]
    refine .new identified new inner (ih ?_)
    simpa [List.append_assoc] using second

/-- The walk is done with all that it meets. -/
theorem perm (explores : Explores seen roots walk order) : order.Perm walk := by
  induction explores with
  | done => exact .nil
  | old _ _ _ ih => exact ih
  | new _ _ _ _ ihInner ih => exact List.perm_middle.trans ((ihInner.append ih).cons _)

/-- All roots are seen or met. -/
theorem rooted (explores : Explores seen roots walk order) :
    ∀ root ∈ roots, ∀ identity, root.view.identity = .ok identity →
      identity ∈ seen ++ walk.map Expansion.identity := by
  induction explores with
  | done => simp
  | old identified old _ ih =>
    refine List.forall_mem_cons.mpr ⟨fun identity same => ?_, ih⟩
    cases identified.symm.trans same
    exact List.mem_append_left _ old
  | new identified _ _ _ _ ih =>
    refine List.forall_mem_cons.mpr ⟨fun identity same => ?_, fun root member identity same => ?_⟩
    · cases identified.symm.trans same
      simp
    · simpa [List.append_assoc] using ih root member identity same

end Explores

/-- The classes of a schema are those of another one, and some classes behind, in their order. -/
structure Schema.Appends (before after : Schema) (entities : List Schema.Entity) : Prop where
  records : after.records = before.records ++ entities.filterMap Entity.record?
  enumerations : after.enumerations = before.enumerations ++ entities.filterMap Entity.enumeration?
  dataEnums : after.dataEnums = before.dataEnums ++ entities.filterMap Entity.dataEnum?

namespace Schema.Appends

variable {before between after : Schema} {entities others : List Schema.Entity}

theorem refl (schema : Schema) : schema.Appends schema [] := by
  constructor <;> simp

theorem trans (first : before.Appends between entities) (second : between.Appends after others) :
    before.Appends after (entities ++ others) where
  records := by rw [second.records, first.records, List.filterMap_append, List.append_assoc]
  enumerations := by
    rw [second.enumerations, first.enumerations, List.filterMap_append, List.append_assoc]
  dataEnums := by rw [second.dataEnums, first.dataEnums, List.filterMap_append, List.append_assoc]

theorem addTo (collection : Collection) (entity : Option Schema.Entity) :
    collection.schema.Appends (collection.addTo entity).schema entity.toList := by
  rcases entity with _ | (entity | entity | entity)
  · exact refl _
  all_goals constructor <;>
    simp [Collection.addTo, Collection.add, Schema.add, Entity.record?, Entity.enumeration?,
      Entity.dataEnum?]

end Schema.Appends

variable {model : Model} {start : Memory} {target : Target}

/-- The walk from some roots leads from one collection to another, and adds the classes in the order
in which it is done with their types. -/
structure Ordered (model : Model) (start : Memory) (roots : List HostType)
    (before after : Collection) (walk order : List Expansion) : Prop where
  walked : Walked model start roots before after walk
  explores : Explores before.seen roots walk order
  appends : before.schema.Appends after.schema (order.filterMap Expansion.entity)

namespace Ordered

variable {roots others : List HostType} {before between after : Collection}
  {walk order rest restOrder : List Expansion}

theorem refl (collection : Collection) : Ordered model start [] collection collection [] [] :=
  ⟨.refl collection, .done, .refl _⟩

theorem append (first : Ordered model start roots before between walk order)
    (second : Ordered model start others between after rest restOrder) :
    Ordered model start (roots ++ others) before after (walk ++ rest) (order ++ restOrder) where
  walked := first.walked.append second.walked
  explores := first.explores.append (first.walked.seen ▸ second.explores)
  appends := by
    rw [List.filterMap_append]
    exact first.appends.trans second.appends

/-- A type that was met before is no new one. -/
theorem old {type : HostType} {identity : Identity} {collection : Collection}
    (identified : type.view.identity = .ok identity) (met : identity ∈ collection.seen) :
    Ordered model start [type] collection collection [] [] where
  walked := .old identified met
  explores := .old identified met .done
  appends := .refl _

/-- A new type is met before all that it depends on, and done after it. -/
theorem node {expansion : Expansion} (valid : expansion.Valid model start before.target)
    (new : expansion.identity ∉ before.seen)
    (inner : Ordered model start expansion.dependencies (before.mark expansion.identity)
      between walk
      order) :
    Ordered model start [expansion.type] before (between.addTo expansion.entity) (expansion :: walk)
      (order ++ [expansion]) := by
  have explores := inner.explores
  have appends := inner.appends
  rw [Collection.mark_new new] at explores appends
  constructor
  case walked =>
    exact .node valid new inner.walked (Collection.addTo_target ..) (Collection.addTo_seen ..)
      (Collection.addTo_entities ..)
  case explores =>
    have explored := Explores.new valid.identity new explores .done
    rwa [List.append_nil] at explored
  case appends =>
    have own : [expansion].filterMap Expansion.entity = expansion.entity.toList := by
      cases known : expansion.entity <;> simp [known]
    rw [List.filterMap_append, own]
    exact appends.trans (.addTo between expansion.entity)

end Ordered

namespace Collect

variable {before after : Collection × Memory}

/-- Visits that keep the order of a walk from each type keep it from all of them. -/
theorem Visits.ordered {visit : HostType → Collect Unit} {roots : List HostType}
    (visits : Visits (Arises model start) visit roots before after)
    (walks : ∀ {type : HostType} {before after : Collection × Memory}, Arises model start before.2 →
      Yields (visit type) before () after →
      ∃ walk order, Ordered model start [type] before.1 after.1 walk order) :
    ∃ walk order, Ordered model start roots before.1 after.1 walk order := by
  induction visits with
  | done _ => exact ⟨[], [], .refl _⟩
  | build _ ih => exact ih
  | visit arises found _ _ ih =>
    obtain ⟨walk, order, first⟩ := walks arises found
    obtain ⟨rest, restOrder, more⟩ := ih
    exact ⟨walk ++ rest, order ++ restOrder, first.append more⟩

/-- Each step of the walk keeps its order; the depth that is left carries the induction. -/
theorem addAt_ordered (depth : Nat) {type : HostType} (arises : Arises model start before.2)
    (found : Yields (addAt model depth type) before () after) :
    ∃ walk order, Ordered model start [type] before.1 after.1 walk order := by
  induction depth using Nat.strongRecOn generalizing type before after with
  | _ depth ih =>
  cases addAt_added (confines_arises model start) trivial arises found with
  | old identified met => exact ⟨[], [], .old identified met⟩
  | @new identity less content entity between identified new shallower unfolds described visits =>
    obtain ⟨walk, order, inner⟩ := visits.ordered (ih less shallower)
    let expansion : Expansion := ⟨type, identity, content, entity⟩
    have valid : expansion.Valid model start before.1.target :=
      ⟨identified, unfolds.hasContent fun _ arises => arises, described⟩
    exact ⟨expansion :: walk, order ++ [expansion], .node valid new inner⟩

/-- A successful run over some roots adds the classes in the order of a walk. -/
theorem addAll_ordered {memory : Memory} {roots : List HostType} {collection : Collection}
    (succeeds : ((addAll model roots).run.run (.empty target)).run start =
      ((.ok (), collection), memory)) :
    ∃ walk order, Ordered model start roots (.empty target) collection walk order := by
  have run : Yields (addAll model roots) (.empty target, start) () (collection, memory) := succeeds
  exact (forM_yields (addAt_keeps (confines_arises model start) maxDepth) (fun _ _ => trivial)
    .start run).ordered (addAt_ordered maxDepth)

end Collect

end WireModel
