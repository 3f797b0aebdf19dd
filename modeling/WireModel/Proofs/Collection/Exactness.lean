import Mathlib.Logic.Relation
import WireModel.Proofs.Collection.Exploration

/-!
Collecting is exact: a successful run has walked just the types that the roots need, each identity
once, and has collected just the classes of those.
-/

namespace WireModel

namespace Expansion

def record? (expansion : Expansion) : Option Schema.Record :=
  expansion.entity.bind Schema.Entity.record?

def enumeration? (expansion : Expansion) : Option Schema.Enumeration :=
  expansion.entity.bind Schema.Entity.enumeration?

def dataEnum? (expansion : Expansion) : Option Schema.DataEnum :=
  expansion.entity.bind Schema.Entity.dataEnum?

variable {model : Model} {start : Memory} {target : Target} {expansion : Expansion}

/-- The kind of a type tells the kind of its class. -/
theorem Valid.kinds (valid : expansion.Valid model start target) :
    (expansion.record?.isSome ↔ expansion.type.view.kind = .ok .record) ∧
    (expansion.enumeration?.isSome ↔ expansion.type.view.kind = .ok .enumeration) ∧
    (expansion.dataEnum?.isSome ↔ expansion.type.view.kind = .ok .dataEnum) := by
  obtain ⟨-, content, described⟩ := valid
  obtain ⟨type, identity, made, entity⟩ := expansion
  simp only [record?, enumeration?, dataEnum?]
  dsimp only at content described
  cases content with
  | primitive seenAs =>
    cases described
    simp [seenAs, View.kind]
  | container isContainer =>
    cases described
    revert isContainer
    cases type.view <;> simp [View.IsContainer, View.kind]
  | record seenAs _ _ _ _ =>
    simp only [Collect.describe, Outcome.bind_ok, Outcome.pure_ok] at described
    obtain ⟨_, -, _, -, rfl⟩ := described
    simp [seenAs, View.kind, Schema.Entity.record?, Schema.Entity.enumeration?,
      Schema.Entity.dataEnum?]
  | enumeration seenAs =>
    simp only [Collect.describe, Outcome.bind_ok, Outcome.pure_ok] at described
    obtain ⟨_, -, rfl⟩ := described
    simp [seenAs, View.kind, Schema.Entity.record?, Schema.Entity.enumeration?,
      Schema.Entity.dataEnum?]
  | dataEnum seenAs _ _ =>
    simp only [Collect.describe, Outcome.bind_ok, Outcome.pure_ok] at described
    obtain ⟨_, -, _, -, rfl⟩ := described
    simp [seenAs, View.kind, Schema.Entity.record?, Schema.Entity.enumeration?,
      Schema.Entity.dataEnum?]

end Expansion

/-- Classes that are the same but for their order are so kind by kind. -/
theorem Schema.perm_of_entities {schema another : Schema}
    (same : schema.entities.Perm another.entities) : schema.records.Perm another.records ∧
      schema.enumerations.Perm another.enumerations ∧ schema.dataEnums.Perm another.dataEnums := by
  simp only [records_eq, enumerations_eq, dataEnums_eq]
  exact ⟨same.filterMap _, same.filterMap _, same.filterMap _⟩

/-- The classes of a walk, kind by kind. -/
theorem Schema.perm_of_walk {schema : Schema} {walk : List Expansion}
    (collected : schema.entities.Perm (walk.filterMap Expansion.entity)) :
    schema.records.Perm (walk.filterMap Expansion.record?) ∧
    schema.enumerations.Perm (walk.filterMap Expansion.enumeration?) ∧
    schema.dataEnums.Perm (walk.filterMap Expansion.dataEnum?) := by
  have records := collected.filterMap Entity.record?
  have enumerations := collected.filterMap Entity.enumeration?
  have dataEnums := collected.filterMap Entity.dataEnum?
  rw [List.filterMap_filterMap] at records enumerations dataEnums
  rw [records_eq, enumerations_eq, dataEnums_eq]
  exact ⟨records, enumerations, dataEnums⟩

/-- The identity depends on the other one in a walk: the type by which it was met first does. -/
def DependsIn (walk : List Expansion) (identity needed : Identity) : Prop :=
  ∃ expansion ∈ walk, expansion.identity = identity ∧
    ∃ type ∈ expansion.dependencies, type.view.identity = .ok needed

/-- The types that the declarations of a model make some roots need, whatever spelling stands for an
identity. -/
inductive Needed (model : Model) (start : Memory) (roots : List HostType) : HostType → Prop
  | root {type : HostType} : type ∈ roots → Needed model start roots type
  | dependency {owner type : HostType} {content : Content} :
      Needed model start roots owner → HasContent model start owner content →
      type ∈ content.dependencies → Needed model start roots type

/-- Needed types of one identity depend on types of the same identities. -/
def Coherent (model : Model) (start : Memory) (roots : List HostType) : Prop :=
  ∀ type other, Needed model start roots type → Needed model start roots other →
    type.view.identity = other.view.identity →
    ∀ content otherContent, HasContent model start type content →
      HasContent model start other otherContent →
      ∀ needed ∈ content.dependencies, ∃ same ∈ otherContent.dependencies,
        same.view.identity = needed.view.identity

/-- The collection holds just what some roots need: the identities that a walk reaches, each once,
and one class for each record, enumeration and data enum among them. The walk takes the roots in
their order, each with all that it depends on before the next one, so that of several spellings of
an identity the one that is met first stands for it. -/
structure Exact (model : Model) (start : Memory) (target : Target) (roots : List HostType)
    (collection : Collection) (walk : List Expansion) : Prop where
  valid : ∀ expansion ∈ walk, expansion.Valid model start target
  reached : ∀ expansion ∈ walk, Reached roots walk expansion.type
  explores : ∃ order, Explores [] roots walk order
  seen : collection.seen = walk.map Expansion.identity
  distinct : collection.seen.Nodup
  reachable : ∀ identity, identity ∈ collection.seen ↔
    ∃ root ∈ roots, ∃ first, root.view.identity = .ok first ∧
      Relation.ReflTransGen (DependsIn walk) first identity
  records : collection.schema.records.Perm (walk.filterMap Expansion.record?)
  enumerations : collection.schema.enumerations.Perm (walk.filterMap Expansion.enumeration?)
  dataEnums : collection.schema.dataEnums.Perm (walk.filterMap Expansion.dataEnum?)
  kinds : ∀ expansion ∈ walk,
    (expansion.record?.isSome ↔ expansion.type.view.kind = .ok .record) ∧
    (expansion.enumeration?.isSome ↔ expansion.type.view.kind = .ok .enumeration) ∧
    (expansion.dataEnum?.isSome ↔ expansion.type.view.kind = .ok .dataEnum)

section Walked

variable {model : Model} {start : Memory} {target : Target} {roots : List HostType}
  {collection : Collection} {walk : List Expansion}

theorem Walked.needed (walked : Walked model start roots (.empty target) collection walk)
    {type : HostType} (reached : Reached roots walk type) : Needed model start roots type := by
  induction reached with
  | root member => exact .root member
  | dependency member _ needed ih =>
    exact .dependency ih (walked.valid _ member).content needed

theorem Walked.mem_seen (walked : Walked model start roots (.empty target) collection walk)
    {identity : Identity} : identity ∈ collection.seen ↔
      ∃ expansion ∈ walk, expansion.identity = identity := by
  rw [walked.seen, Collection.empty, List.nil_append, List.mem_map]

/-- What the walk comes to is what the edges between identities lead to. -/
theorem Walked.reachable (walked : Walked model start roots (.empty target) collection walk)
    (identity : Identity) : identity ∈ collection.seen ↔
      ∃ root ∈ roots, ∃ first, root.view.identity = .ok first ∧
        Relation.ReflTransGen (DependsIn walk) first identity := by
  constructor
  · intro member
    obtain ⟨expansion, inside, rfl⟩ := walked.mem_seen.mp member
    have known := (walked.valid _ inside).identity
    have reached := walked.reached _ inside
    generalize expansion.type = type at known reached
    generalize expansion.identity = identity at known
    induction reached generalizing identity with
    | root member => exact ⟨_, member, identity, known, .refl⟩
    | dependency member reached needed ih =>
      obtain ⟨root, rooted, first, same, path⟩ := ih _ (walked.valid _ member).identity
      exact ⟨root, rooted, first, same, path.tail ⟨_, member, rfl, _, needed, known⟩⟩
  · rintro ⟨root, member, first, known, path⟩
    induction path with
    | refl =>
      obtain ⟨identity, seen, same⟩ := walked.rooted root member
      rw [known] at same
      cases same
      exact seen
    | tail _ edge _ =>
      obtain ⟨expansion, inside, -, type, needed, same⟩ := edge
      obtain ⟨identity, seen, other⟩ := walked.closed expansion inside type needed
      rw [same] at other
      cases other
      exact seen

/-- Where needed types of one identity agree, the walk meets all of them. -/
theorem Walked.met_of_needed (walked : Walked model start roots (.empty target) collection walk)
    (coherent : Coherent model start roots) {type : HostType}
    (needed : Needed model start roots type) : collection.Met type := by
  induction needed with
  | root member => exact walked.rooted _ member
  | dependency owner content member ih =>
    obtain ⟨identity, seen, known⟩ := ih
    obtain ⟨expansion, inside, rfl⟩ := walked.mem_seen.mp seen
    have valid := walked.valid _ inside
    obtain ⟨same, depends, identical⟩ := coherent _ _ owner
      (walked.needed (walked.reached _ inside)) (known.trans valid.identity.symm) _ _ content
      valid.content _ member
    obtain ⟨identity, met, identified⟩ := walked.closed _ inside same depends
    exact ⟨identity, met, identical ▸ identified⟩

theorem Ordered.exact {order : List Expansion}
    (ordered : Ordered model start roots (.empty target) collection walk order) :
    Exact model start target roots collection walk := by
  obtain ⟨walked, explores, -⟩ := ordered
  have seen : collection.seen = walk.map Expansion.identity := by
    rw [walked.seen, Collection.empty, List.nil_append]
  obtain ⟨records, enumerations, dataEnums⟩ := Schema.perm_of_walk walked.entities
  exact {
    valid := walked.valid
    reached := walked.reached
    explores := ⟨order, explores⟩
    seen := seen
    distinct := seen ▸ walked.distinct
    reachable := walked.reachable
    records := records
    enumerations := enumerations
    dataEnums := dataEnums
    kinds := fun _ member => (walked.valid _ member).kinds }

end Walked

namespace Collect

/-- Collecting the classes of some roots is exact. The types of one identity count as the one that
was met first; where they need types of the same identities, all that the declarations make the
roots need is met. -/
theorem addAll_exact {model : Model} {target : Target} {start memory : Memory}
    {roots : List HostType} {collection : Collection}
    (succeeds : ((addAll model roots).run.run (.empty target)).run start =
      ((.ok (), collection), memory)) :
    ∃ walk, Exact model start target roots collection walk ∧
      (Coherent model start roots → ∀ identity, identity ∈ collection.seen ↔
        ∃ type, Needed model start roots type ∧ type.view.identity = .ok identity) := by
  obtain ⟨walk, order, ordered⟩ := addAll_ordered succeeds
  have walked := ordered.walked
  refine ⟨walk, ordered.exact, fun coherent identity => ⟨?_, ?_⟩⟩
  · intro member
    obtain ⟨expansion, inside, rfl⟩ := walked.mem_seen.mp member
    exact ⟨expansion.type, walked.needed (walked.reached _ inside),
      (walked.valid _ inside).identity⟩
  · rintro ⟨type, needed, known⟩
    obtain ⟨met, seen, same⟩ := walked.met_of_needed coherent needed
    rw [known] at same
    cases same
    exact seen

def pairRef : ClassRef where
  serial := 0
  module := "models"
  qualifiedName := "Pair"
  name := "Pair"
  category := .record
  parameters := ["K"]
  brackets := .parameters

/-- The declaration of that record with a field of a type. -/
def pairClass (field : HostType) : ClassDecl where
  ref := pairRef
  bases := [.applied .generic [.variable "K"]]
  parents := [.language "Generic"]
  ancestry := [.declared pairRef, .language "Generic", .language "object"]
  annotations := some [("x", field)]
  entries := some [⟨"x", .field, field, none⟩]
  memberNames := []
  members := []
  variants := []

def pairField : HostType :=
  .union .qualified [.variable "K", .noneType]

/-- The model of that record alone. -/
def pairModel : Model where
  classes := [pairClass pairField]
  bindings := [⟨"models", "Pair", pairRef⟩]
  typeVariables := ["K"]

def optionalInt : HostType :=
  .union .qualified [.primitive .int, .noneType]

/-- An optional number with an annotation, which keeps it apart inside an optional type. -/
def annotatedOptional : HostType :=
  .annotated optionalInt [.text "m"]

/-- One instantiation in two spellings. -/
def pairRoots : List HostType :=
  [.applied (.declared pairRef) [optionalInt], .applied (.declared pairRef) [annotatedOptional]]

/-- The run over both spellings. -/
def pairRun : (Except Failure Unit × Collection) × Memory :=
  ((addAll pairModel pairRoots).run.run (.empty .python)).run .empty

private theorem pairRun_succeeds : pairRun = ((.ok (), pairRun.1.2), pairRun.2) := by
  have succeeds : pairRun.1.1 = .ok () := rfl
  rw [← succeeds]

theorem addAll_exact_pair :
    ∃ walk, Exact pairModel .empty .python pairRoots pairRun.1.2 walk := by
  obtain ⟨walk, exact, -⟩ := addAll_exact pairRun_succeeds
  exact ⟨walk, exact⟩

/-- Types of one identity may need different ones: an optional type right inside another one is one
with it, but not behind an annotation. Only the spelling that was met first is walked. -/
theorem not_met_behind_second_spelling :
    ¬ ∀ (model : Model) (target : Target) (start memory : Memory) (roots : List HostType)
      (collection : Collection),
      (model.classes.map fun declared =>
        (declared.ref.module, declared.ref.qualifiedName)).Nodup →
      ((addAll model roots).run.run (.empty target)).run start = ((.ok (), collection), memory) →
      ∀ type identity, Needed model start roots type → type.view.identity = .ok identity →
        identity ∈ collection.seen := by
  intro exact
  have second : Needed pairModel .empty pairRoots
      (.applied (.declared pairRef) [annotatedOptional]) := .root (by simp [pairRoots])
  have closes : ClosesTo pairModel .empty pairRef [("K", annotatedOptional)] pairField
      (.union .qualified [annotatedOptional, .noneType]) := ⟨.empty, .start, rfl⟩
  have content : HasContent pairModel .empty (.applied (.declared pairRef) [annotatedOptional])
      (.record pairRef [("x", .union .qualified [annotatedOptional, .noneType])]) :=
    .record rfl rfl .start rfl (.cons ⟨rfl, closes⟩ .nil)
  have needed : Needed pairModel .empty pairRoots
      (.union .qualified [annotatedOptional, .noneType]) := .dependency second content (by
        simp [Content.dependencies])
  have member := exact pairModel .python .empty pairRun.2 pairRoots pairRun.1.2 (by decide)
    pairRun_succeeds _ _ needed rfl
  exact absurd member (by decide)

end Collect

end WireModel
