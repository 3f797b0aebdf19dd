import Mathlib.Logic.Relation
import WireModel.Proofs.Collection.Exactness
import WireModel.Proofs.Collection.Pairing

/-!
Dependencies come first. The classes are added in the order in which the walk is done with their
types, and a type that is on no cycle is done after all that it depends on, directly or not.
-/

namespace WireModel

open Relation (TransGen)

/-- Each identity of a list that is on no cycle stands behind all that it leads to, which may also
be among some that are done. -/
def ComeFirst (edges : Identity → Identity → Prop) : List Identity → List Identity → Prop
  | _, [] => True
  | done, identity :: rest =>
    (¬ TransGen edges identity identity →
      ∀ needed, TransGen edges identity needed → needed ∈ done) ∧
    ComeFirst edges (done ++ [identity]) rest

theorem comeFirst_append {edges : Identity → Identity → Prop} {done earlier later : List Identity} :
    ComeFirst edges done (earlier ++ later) ↔
      ComeFirst edges done earlier ∧ ComeFirst edges (done ++ earlier) later := by
  induction earlier generalizing done with
  | nil => simp [ComeFirst]
  | cons identity rest ih =>
    rw [List.cons_append, ComeFirst, ComeFirst, ih, and_assoc, List.append_assoc,
      List.singleton_append]

theorem ComeFirst.mem_of_split {edges : Identity → Identity → Prop}
    {done earlier later : List Identity} {owner needed : Identity}
    (first : ComeFirst edges done (earlier ++ owner :: later))
    (acyclic : ¬ TransGen edges owner owner) (path : TransGen edges owner needed) :
    needed ∈ done ++ earlier :=
  (comeFirst_append.mp first).2.1 acyclic needed path

/-- How far a walk has come: what is seen is done or still pending, and what is done depends on
nothing else. -/
structure Progress (edges : Identity → Identity → Prop)
    (seen done pending : List Identity) : Prop where
  split : ∀ identity ∈ seen, identity ∈ done ∨ identity ∈ pending
  closed : ∀ identity ∈ done, ∀ needed, edges identity needed → needed ∈ seen

namespace Progress

variable {edges : Identity → Identity → Prop} {seen done pending : List Identity} {owner : Identity}

theorem start (progress : Progress edges seen done pending) :
    Progress edges (seen ++ [owner]) done (owner :: pending) where
  split := by
    refine List.forall_mem_append.mpr ⟨fun identity old => ?_, by simp⟩
    exact (progress.split identity old).imp_right (List.mem_cons_of_mem _)
  closed := fun identity member needed edge =>
    List.mem_append_left _ (progress.closed identity member needed edge)

theorem finish (progress : Progress edges seen done (owner :: pending))
    (depends : ∀ needed, edges owner needed → needed ∈ seen) :
    Progress edges seen (done ++ [owner]) pending where
  split := by
    intro identity member
    rcases progress.split identity member with member | member
    · exact .inl (List.mem_append_left _ member)
    · rcases List.mem_cons.mp member with rfl | member
      · exact .inl (by simp)
      · exact .inr member
  closed := by
    refine List.forall_mem_append.mpr ⟨progress.closed, ?_⟩
    simpa using depends

/-- All that an identity leads to is done when the identity is, unless the identity is on a cycle:
whatever is pending leads to it. -/
theorem mem_done (progress : Progress edges seen done (owner :: pending))
    (above : ∀ identity ∈ pending, TransGen edges identity owner)
    (acyclic : ¬ TransGen edges owner owner) (depends : ∀ needed, edges owner needed →
      needed ∈ seen)
    {needed : Identity} (path : TransGen edges owner needed) : needed ∈ done := by
  have settled {needed : Identity} (path : TransGen edges owner needed) (member : needed ∈ seen) :
      needed ∈ done := by
    rcases progress.split needed member with member | member
    · exact member
    -- A pending identity leads back to the owner, which would then be on a cycle.
    · rcases List.mem_cons.mp member with rfl | member
      · exact (acyclic path).elim
      · exact (acyclic (path.trans (above needed member))).elim
  induction path with
  | single edge => exact settled (.single edge) (depends _ edge)
  | tail path edge ih => exact settled (path.tail edge) (progress.closed _ ih _ edge)

end Progress

/-- A walk keeps its order: what is done is done after all that it leads to. The identities that are
pending lead to the roots; the recursion of the walk carries the induction. -/
theorem Explores.comeFirst {full walk order : List Expansion} {seen done pending : List Identity}
    {roots : List HostType} (distinct : (full.map Expansion.identity).Nodup)
    (explores : Explores seen roots walk order) (inside : ∀ expansion ∈ walk, expansion ∈ full)
    (progress : Progress (DependsIn full) seen done pending)
    (above : ∀ identity ∈ pending, ∀ root ∈ roots, ∀ first, root.view.identity = .ok first →
      TransGen (DependsIn full) identity first) :
    ComeFirst (DependsIn full) done (order.map Expansion.identity) ∧
      Progress (DependsIn full) (seen ++ walk.map Expansion.identity)
        (done ++ order.map Expansion.identity) pending := by
  induction explores generalizing done pending with
  | done => simpa [ComeFirst] using progress
  | old _ _ _ ih =>
    exact ih inside progress fun identity member root later =>
      above identity member root (List.mem_cons_of_mem _ later)
  | @new seen expansion rest inner innerOrder walk order identified new explored _ ihInner ih =>
    obtain ⟨here, later⟩ := List.forall_mem_append.mp inside
    obtain ⟨known, within⟩ := List.forall_mem_cons.mp here
    have reaches : ∀ identity ∈ pending, TransGen (DependsIn full) identity expansion.identity :=
      fun identity member => above identity member _ (List.mem_cons_self ..) _ identified
    have edge {type : HostType} {first : Identity} (member : type ∈ expansion.dependencies)
        (same : type.view.identity = .ok first) : DependsIn full expansion.identity first :=
      ⟨expansion, known, rfl, type, member, same⟩
    have innerAbove : ∀ identity ∈ expansion.identity :: pending, ∀ type ∈ expansion.dependencies,
        ∀ first, type.view.identity = .ok first → TransGen (DependsIn full) identity first := by
      refine List.forall_mem_cons.mpr ⟨fun type member first same => .single (edge member same), ?_⟩
      exact fun identity old type member first same =>
        (reaches identity old).tail (edge member same)
    obtain ⟨firstInner, progressInner⟩ := ihInner within progress.start innerAbove
    -- The identity was walked once, so that its edges are those that the inner walk has followed.
    have depends : ∀ needed, DependsIn full expansion.identity needed →
        needed ∈ seen ++ [expansion.identity] ++ inner.map Expansion.identity := by
      rintro needed ⟨other, member, same, type, carried, found⟩
      obtain rfl := List.inj_on_of_nodup_map distinct member known same
      exact explored.rooted type carried needed found
    have finished : Progress (DependsIn full) (seen ++ (expansion :: inner).map Expansion.identity)
        (done ++ innerOrder.map Expansion.identity ++ [expansion.identity]) pending := by
      rw [List.map_cons, List.append_cons]
      exact progressInner.finish depends
    obtain ⟨firstRest, progressRest⟩ := ih later finished
      fun identity member root inside => above identity member root (List.mem_cons_of_mem _ inside)
    refine ⟨?_, by simpa using progressRest⟩
    rw [List.map_append, List.map_cons, comeFirst_append]
    refine ⟨firstInner, fun acyclic needed path => ?_, firstRest⟩
    exact progressInner.mem_done reaches acyclic depends path

variable {model : Model} {start : Memory} {target : Target}

/-- The identity depends on the other one in the whole graph: some needed type of the first does,
whatever its spelling. -/
def Depends (model : Model) (start : Memory) (roots : List HostType)
    (identity needed : Identity) : Prop :=
  ∃ owner content, Needed model start roots owner ∧ owner.view.identity = .ok identity ∧
    HasContent model start owner content ∧
    ∃ type ∈ content.dependencies, type.view.identity = .ok needed

/-- Where needed types of one identity agree, the edges of a walk are all edges. -/
theorem Walked.dependsIn_iff {roots : List HostType} {collection : Collection}
    {walk : List Expansion} (walked : Walked model start roots (.empty target) collection walk)
    (coherent : Coherent model start roots) (identity needed : Identity) :
    DependsIn walk identity needed ↔ Depends model start roots identity needed := by
  constructor
  · rintro ⟨expansion, inside, rfl, type, member, identified⟩
    exact ⟨expansion.type, expansion.content, walked.needed (walked.reached _ inside),
      (walked.valid _ inside).identity, (walked.valid _ inside).content, type, member, identified⟩
  · rintro ⟨owner, content, needs, identified, made, type, member, same⟩
    obtain ⟨met, seen, found⟩ := walked.met_of_needed coherent needs
    cases identified.symm.trans found
    obtain ⟨expansion, inside, rfl⟩ := walked.mem_seen.mp seen
    have valid := walked.valid _ inside
    obtain ⟨other, depends, alike⟩ := coherent _ _ needs (walked.needed (walked.reached _ inside))
      (identified.trans valid.identity.symm) _ _ made valid.content _ member
    exact ⟨expansion, inside, rfl, other, depends, alike.trans same⟩

namespace Collect

/-- The classes of each kind stand in one order of all types that are collected, in which a type on
no cycle comes behind all that it depends on, directly or not. The types of one identity count as
the one that was met first; where they need types of the same identities, their edges are all that
the declarations make. -/
theorem addAll_dependencies_first {model : Model} {target : Target} {start memory : Memory}
    {roots : List HostType} {collection : Collection}
    (succeeds : ((addAll model roots).run.run (.empty target)).run start =
      ((.ok (), collection), memory)) :
    ∃ walk order, Exact model start target roots collection walk ∧
      Explores [] roots walk order ∧ order.Perm walk ∧
      collection.schema.records = order.filterMap Expansion.record? ∧
      collection.schema.enumerations = order.filterMap Expansion.enumeration? ∧
      collection.schema.dataEnums = order.filterMap Expansion.dataEnum? ∧
      (∀ earlier owner later, order = earlier ++ owner :: later →
        ¬ TransGen (DependsIn walk) owner.identity owner.identity →
        ∀ expansion ∈ walk, TransGen (DependsIn walk) owner.identity expansion.identity →
          expansion ∈ earlier) ∧
      (Coherent model start roots → ∀ identity needed,
        DependsIn walk identity needed ↔ Depends model start roots identity needed) := by
  obtain ⟨walk, order, ordered⟩ := addAll_ordered succeeds
  have exact := ordered.exact
  obtain ⟨walked, explores, appends⟩ := ordered
  refine ⟨walk, order, exact, explores, explores.perm, ?_, ?_, ?_, ?_, walked.dependsIn_iff⟩
  · rw [appends.records, List.filterMap_filterMap]
    rfl
  · rw [appends.enumerations, List.filterMap_filterMap]
    rfl
  · rw [appends.dataEnums, List.filterMap_filterMap]
    rfl
  rintro earlier owner later rfl acyclic expansion inside path
  have begins : Progress (DependsIn walk) [] [] [] := ⟨by simp, by simp⟩
  obtain ⟨first, -⟩ := explores.comeFirst walked.distinct (fun _ inside => inside) begins (by simp)
  rw [List.map_append, List.map_cons] at first
  obtain ⟨other, member, same⟩ := List.mem_map.mp (first.mem_of_split acyclic path)
  have met : other ∈ walk := explores.perm.mem_iff.mp (List.mem_append_left _ member)
  exact List.inj_on_of_nodup_map walked.distinct met inside same ▸ member

/-- A record without type parameters. -/
def plainRef (serial : Nat) (module qualifiedName name : String) : ClassRef where
  serial := serial
  module := module
  qualifiedName := qualifiedName
  name := name
  category := .record
  parameters := []
  brackets := .none

/-- The declaration of such a record with some fields. -/
def plainClass (ref : ClassRef) (fields : List (String × HostType)) : ClassDecl where
  ref := ref
  bases := []
  parents := [.language "object"]
  ancestry := [.declared ref, .language "object"]
  annotations := some fields
  entries := some (fields.map fun field => ⟨field.1, .field, field.2, none⟩)
  memberNames := []
  members := []
  variants := []

def plainModel (declared : List (ClassRef × List (String × HostType))) : Model where
  classes := declared.map fun found => plainClass found.1 found.2
  bindings := declared.map fun found => ⟨found.1.module, found.1.name, found.1⟩
  typeVariables := []

/-- A class of an inner module. -/
def outerRef : ClassRef :=
  plainRef 0 "a.b" "C" "C"

/-- A class inside a class of the outer module, with the same full name. -/
def innerRef : ClassRef :=
  plainRef 1 "a" "b.C" "D"

/-- What the inner class depends on. -/
def leafRef : ClassRef :=
  plainRef 2 "m" "E" "E"

/-- What depends on the inner class. -/
def ownerRef : ClassRef :=
  plainRef 3 "m" "S" "S"

/-- The four classes and their fields. -/
def homonymClasses : List (ClassRef × List (String × HostType)) :=
  [(outerRef, []), (innerRef, [("e", .declared leafRef)]), (leafRef, []),
    (ownerRef, [("c", .declared innerRef)])]

def homonymModel : Model :=
  plainModel homonymClasses

/-- The first class stands for the second one, so that the third one is met as a root only. -/
def homonymRoots : List HostType :=
  [.declared outerRef, .declared ownerRef, .declared leafRef]

/-- The record of the class that depends on the inner one, which is named but was not collected. -/
def ownerRecord : Schema.Record :=
  ⟨.ofPascal "S", "S", [⟨.ofSnake "c", "c", .named "D"⟩]⟩

/-- What the roots come to. -/
def homonymSchema : Schema :=
  ⟨[⟨.ofPascal "C", "C", []⟩, ownerRecord, ⟨.ofPascal "E", "E", []⟩], [], []⟩

private theorem exists_homonymRun : ∃ collection memory,
    ((addAll homonymModel homonymRoots).run.run (.empty .python)).run .empty =
      ((.ok (), collection), memory) ∧ collection.schema = homonymSchema := by
  have collected : (Schema.outcome .python homonymModel .empty homonymRoots).toOption =
      some homonymSchema := by
    rw [Schema.outcome, Schema.ofTypes_eq_paired (by decide +kernel)]
    decide +kernel
  cases outcome : Schema.outcome .python homonymModel .empty homonymRoots with
  | error failure =>
    rw [outcome] at collected
    cases collected
  | ok schema =>
    rw [outcome] at collected
    obtain ⟨⟨collection, memory⟩, found, same⟩ := outcome_ok.mp outcome
    exact ⟨collection, memory, found, same.trans (Option.some.inj collected)⟩

theorem addAll_dependencies_first_homonym : ∃ collection memory walk order,
    ((addAll homonymModel homonymRoots).run.run (.empty .python)).run .empty =
      ((.ok (), collection), memory) ∧ collection.schema = homonymSchema ∧
    Exact homonymModel .empty .python homonymRoots collection walk ∧
    Explores [] homonymRoots walk order ∧ order.Perm walk ∧
    collection.schema.records = order.filterMap Expansion.record? ∧
    ∀ earlier owner later, order = earlier ++ owner :: later →
      ¬ TransGen (DependsIn walk) owner.identity owner.identity →
      ∀ expansion ∈ walk, TransGen (DependsIn walk) owner.identity expansion.identity →
        expansion ∈ earlier := by
  obtain ⟨collection, memory, succeeds, collected⟩ := exists_homonymRun
  obtain ⟨walk, order, exact, explores, perm, records, -, -, first, -⟩ :=
    addAll_dependencies_first succeeds
  exact ⟨collection, memory, walk, order, succeeds, collected, exact, explores, perm,
    records, first⟩

/-- Whatever was built before, the classes bind nothing and have their declared fields. -/
private theorem fields_homonym {declared : ClassRef × List (String × HostType)}
    (member : declared ∈ homonymClasses) :
    Collect.bindings homonymModel declared.1 (.declared declared.1) = .ok [] ∧
      ∀ memory, ((homonymModel.typedFields declared.1).run.run memory).1 = .ok declared.2 := by
  have shown : homonymModel.ParametersShown := by decide +kernel
  simp only [homonymClasses, List.mem_cons, List.not_mem_nil, or_false] at member
  rcases member with rfl | rfl | rfl | rfl
  all_goals exact ⟨bindings_eq_pairing shown _ _, fun _ => rfl⟩

private theorem content_homonym {declared : ClassRef × List (String × HostType)} {content : Content}
    (member : declared ∈ homonymClasses)
    (made : HasContent homonymModel .empty (.declared declared.1) content) :
    content = .record declared.1 declared.2 := by
  have typed := (fields_homonym member).2
  simp only [homonymClasses, List.mem_cons, List.not_mem_nil, or_false] at member
  rcases member with rfl | rfl | rfl | rfl
  · exact made.eq_record rfl typed (by simp)
  · exact made.eq_record rfl typed (List.forall_mem_singleton.mpr fun _ _ => rfl)
  · exact made.eq_record rfl typed (by simp)
  · exact made.eq_record rfl typed (List.forall_mem_singleton.mpr fun _ _ => rfl)

private theorem needed_homonym {type : HostType}
    (needed : Needed homonymModel .empty homonymRoots type) :
    ∃ declared ∈ homonymClasses, type = .declared declared.1 := by
  induction needed with
  | root member =>
    simp only [homonymRoots, List.mem_cons, List.not_mem_nil, or_false] at member
    rcases member with rfl | rfl | rfl
    · exact ⟨(outerRef, []), by simp [homonymClasses], rfl⟩
    · exact ⟨(ownerRef, [("c", .declared innerRef)]), by simp [homonymClasses], rfl⟩
    · exact ⟨(leafRef, []), by simp [homonymClasses], rfl⟩
  | dependency _ made inside ih =>
    obtain ⟨declared, member, rfl⟩ := ih
    rw [content_homonym member made] at inside
    simp only [homonymClasses, List.mem_cons, List.not_mem_nil, or_false] at member
    rcases member with rfl | rfl | rfl | rfl
    · cases inside
    · rw [List.mem_singleton.mp inside]
      exact ⟨(leafRef, []), by simp [homonymClasses], rfl⟩
    · cases inside
    · rw [List.mem_singleton.mp inside]
      exact ⟨(innerRef, [("e", .declared leafRef)]), by simp [homonymClasses], rfl⟩

/-- Nothing depends on the owner. -/
private theorem not_depends_owner {identity : Identity} :
    ¬ Depends homonymModel .empty homonymRoots identity (.node "m.S" []) := by
  rintro ⟨type, content, needed, -, made, part, inside, identified⟩
  obtain ⟨declared, member, rfl⟩ := needed_homonym needed
  rw [content_homonym member made] at inside
  simp only [homonymClasses, List.mem_cons, List.not_mem_nil, or_false] at member
  rcases member with rfl | rfl | rfl | rfl
  · cases inside
  · rw [List.mem_singleton.mp inside] at identified
    have same : Identity.node "m.E" [] = .node "m.S" [] := Except.ok.inj identified
    exact absurd same (by decide)
  · cases inside
  · rw [List.mem_singleton.mp inside] at identified
    have same : Identity.node "a.b.C" [] = .node "m.S" [] := Except.ok.inj identified
    exact absurd same (by decide)

/-- A class describes the types of an identity. -/
def Describes (model : Model) (target : Target) (start : Memory) (roots : List HostType)
    (identity : Identity) (entity : Schema.Entity) : Prop :=
  ∃ type content, Needed model start roots type ∧ type.view.identity = .ok identity ∧
    HasContent model start type content ∧ describe model target type content = .ok (some entity)

/-- Classes of one full name are one to the walk, although they may depend on different types. What
only the second one depends on may come behind what depends on that one. -/
theorem not_dependencies_first_homonym :
    ¬ ∀ (model : Model) (target : Target) (start memory : Memory) (roots : List HostType)
      (collection : Collection),
      (model.classes.map fun declared =>
        (declared.ref.module, declared.ref.qualifiedName)).Nodup →
      ((addAll model roots).run.run (.empty target)).run start = ((.ok (), collection), memory) →
      ∀ (identity needed : Identity) (owner dependency : Schema.Record),
        Describes model target start roots identity (.record owner) →
        Describes model target start roots needed (.record dependency) →
        ¬ TransGen (Depends model start roots) identity identity →
        TransGen (Depends model start roots) identity needed →
        ∀ earlier later, collection.schema.records = earlier ++ owner :: later →
          dependency ∈ earlier := by
  intro first
  have closes (ref other : ClassRef) (name : String) :
      FieldCloses homonymModel .empty ref [] (name, .declared other) (name, .declared other) :=
    ⟨rfl, .empty, .start, rfl⟩
  have inner : (innerRef, [("e", HostType.declared leafRef)]) ∈ homonymClasses := by
    simp [homonymClasses]
  have owns : (ownerRef, [("c", HostType.declared innerRef)]) ∈ homonymClasses := by
    simp [homonymClasses]
  have owner : Needed homonymModel .empty homonymRoots (.declared ownerRef) :=
    .root (by simp [homonymRoots])
  have ownerContent : HasContent homonymModel .empty (.declared ownerRef)
      (.record ownerRef [("c", .declared innerRef)]) :=
    .record rfl (fields_homonym owns).1 .start ((fields_homonym owns).2 _) (.cons (closes ..) .nil)
  have innerContent : HasContent homonymModel .empty (.declared innerRef)
      (.record innerRef [("e", .declared leafRef)]) :=
    .record rfl (fields_homonym inner).1 .start ((fields_homonym inner).2 _)
      (.cons (closes ..) .nil)
  have leaf : Describes homonymModel .python .empty homonymRoots (.node "m.E" [])
      (.record ⟨.ofPascal "E", "E", []⟩) := by
    have made : (leafRef, []) ∈ homonymClasses := by simp [homonymClasses]
    exact ⟨.declared leafRef, .record leafRef [], .root (by simp [homonymRoots]), rfl,
      .record rfl (fields_homonym made).1 .start ((fields_homonym made).2 _) .nil, rfl⟩
  have toInner : Depends homonymModel .empty homonymRoots (.node "m.S" []) (.node "a.b.C" []) :=
    ⟨_, _, owner, rfl, ownerContent, .declared innerRef, List.mem_singleton_self _, rfl⟩
  have toLeaf : Depends homonymModel .empty homonymRoots (.node "a.b.C" []) (.node "m.E" []) :=
    ⟨_, _, .dependency owner ownerContent (List.mem_singleton_self _), rfl, innerContent,
      .declared leafRef, List.mem_singleton_self _, rfl⟩
  have acyclic : ¬ TransGen (Depends homonymModel .empty homonymRoots) (.node "m.S" [])
      (.node "m.S" []) := by
    intro cycle
    cases cycle with
    | single edge => exact not_depends_owner edge
    | tail _ edge => exact not_depends_owner edge
  obtain ⟨collection, memory, succeeds, collected⟩ := exists_homonymRun
  have records : collection.schema.records =
      [⟨.ofPascal "C", "C", []⟩] ++ ownerRecord :: [⟨.ofPascal "E", "E", []⟩] :=
    congrArg Schema.records collected
  have member :=
    first homonymModel .python .empty memory homonymRoots collection (by decide) succeeds
    _ _ _ _ ⟨_, _, owner, rfl, ownerContent, rfl⟩ leaf acyclic (.tail (.single toInner) toLeaf) _ _
    records
  exact absurd member (by decide)

end Collect

end WireModel
