import Mathlib.Data.List.Induction
import WireModel.Proofs.Collection.Exactness

/-!
What calls on one collection add up to, those that fail included: nothing is taken back, each
identity gets its class at most once, and an identity that a failing call has met stays marked
without a class.
-/

namespace WireModel

variable {model : Model} {start : Memory} {target : Target}

/-- The other collection is the first one and what was added behind. -/
structure Collection.Extends (before after : Collection) : Prop where
  target : after.target = before.target
  records : before.schema.records <+: after.schema.records
  enumerations : before.schema.enumerations <+: after.schema.enumerations
  dataEnums : before.schema.dataEnums <+: after.schema.dataEnums
  seen : before.seen <+: after.seen

namespace Collection.Extends

variable {before between after : Collection}

theorem refl (collection : Collection) : collection.Extends collection :=
  ⟨rfl, List.prefix_rfl, List.prefix_rfl, List.prefix_rfl, List.prefix_rfl⟩

theorem trans (first : before.Extends between) (second : between.Extends after) :
    before.Extends after where
  target := second.target.trans first.target
  records := first.records.trans second.records
  enumerations := first.enumerations.trans second.enumerations
  dataEnums := first.dataEnums.trans second.dataEnums
  seen := first.seen.trans second.seen

theorem mark (collection : Collection) (identity : Identity) :
    collection.Extends (collection.mark identity) := by
  unfold Collection.mark
  split
  · exact refl collection
  · exact { refl collection with seen := List.prefix_append _ _ }

theorem addTo (collection : Collection) (entity : Option Schema.Entity) :
    collection.Extends (collection.addTo entity) := by
  rcases entity with _ | (entity | entity | entity)
  · exact refl collection
  · exact { refl collection with records := List.prefix_append _ _ }
  · exact { refl collection with enumerations := List.prefix_append _ _ }
  · exact { refl collection with dataEnums := List.prefix_append _ _ }

end Collection.Extends

/-- Calls lead from one collection to another: the types of a walk get their classes, and some
identities are marked and left without. Whatever they mark was not marked before, and each identity
is marked once. -/
structure Advances (model : Model) (start : Memory) (before after : Collection)
    (walk : List Expansion) (left : List Identity) : Prop where
  grows : before.Extends after
  seen : after.seen.Perm (before.seen ++ (left ++ walk.map Expansion.identity))
  entities : after.schema.entities.Perm
    (before.schema.entities ++ walk.filterMap Expansion.entity)
  valid : ∀ expansion ∈ walk, expansion.Valid model start before.target
  fresh : ∀ identity ∈ left ++ walk.map Expansion.identity, identity ∉ before.seen
  distinct : (left ++ walk.map Expansion.identity).Nodup
  closed : ∀ expansion ∈ walk, ∀ type ∈ expansion.dependencies, after.Met type

namespace Advances

variable {before between after : Collection} {walk rest : List Expansion}
  {left more : List Identity}

theorem refl (collection : Collection) : Advances model start collection collection [] [] where
  grows := .refl collection
  seen := by simp
  entities := by simp
  valid := by simp
  fresh := by simp
  distinct := by simp
  closed := by simp

/-- A walk gives all its types their classes. -/
theorem ofWalked {roots : List HostType} (grows : before.Extends after)
    (walked : Walked model start roots before after walk) :
    Advances model start before after walk [] where
  grows := grows
  seen := by rw [walked.seen, List.nil_append]
  entities := walked.entities
  valid := walked.valid
  fresh := by simpa using walked.fresh
  distinct := by simpa using walked.distinct
  closed := walked.closed

/-- A mark leaves an identity without a class. -/
theorem mark {identity : Identity} (new : identity ∉ before.seen) :
    Advances model start before (before.mark identity) [] [identity] where
  grows := .mark before identity
  seen := by simp [Collection.mark_new new]
  entities := by simp [Collection.mark_new new]
  valid := by simp
  fresh := by simpa using new
  distinct := by simp
  closed := by simp

theorem append (first : Advances model start before between walk left)
    (second : Advances model start between after rest more) :
    Advances model start before after (walk ++ rest) (left ++ more) := by
  have regrouped : ((left ++ walk.map Expansion.identity) ++
      (more ++ rest.map Expansion.identity)).Perm
      ((left ++ more) ++ (walk ++ rest).map Expansion.identity) := by
    rw [List.map_append, List.append_assoc, List.append_assoc]
    refine List.Perm.append_left left ?_
    rw [← List.append_assoc, ← List.append_assoc]
    exact List.perm_append_comm.append_right _
  have apart : ∀ identity ∈ left ++ walk.map Expansion.identity,
      identity ∉ more ++ rest.map Expansion.identity := by
    intro identity member later
    exact second.fresh identity later
      (first.seen.mem_iff.mpr (List.mem_append_right _ member))
  constructor
  case grows => exact first.grows.trans second.grows
  case seen =>
    refine (second.seen.trans (first.seen.append_right _)).trans ?_
    rw [List.append_assoc]
    exact regrouped.append_left _
  case entities =>
    rw [List.filterMap_append, ← List.append_assoc]
    exact second.entities.trans (first.entities.append_right _)
  case valid =>
    exact List.forall_mem_append.mpr ⟨first.valid, first.grows.target ▸ second.valid⟩
  case fresh =>
    intro identity member old
    rcases List.mem_append.mp (regrouped.mem_iff.mpr member) with member | member
    · exact first.fresh identity member old
    · exact second.fresh identity member (first.grows.seen.subset old)
  case distinct =>
    exact regrouped.nodup_iff.mp (first.distinct.append second.distinct apart)
  case closed =>
    refine List.forall_mem_append.mpr ⟨fun expansion member type needed => ?_, second.closed⟩
    exact (first.closed expansion member type needed).mono fun _ old => second.grows.seen.subset old

end Advances

section Ledger

variable {collection : Collection} {walk : List Expansion} {left : List Identity}

/-- What a collection holds: the classes of a walk, each identity once, and the marks of those and
of some identities that are left without a class. -/
structure Ledger (model : Model) (start : Memory) (target : Target) (collection : Collection)
    (walk : List Expansion) (left : List Identity) : Prop where
  valid : ∀ expansion ∈ walk, expansion.Valid model start target
  seen : collection.seen.Perm (left ++ walk.map Expansion.identity)
  distinct : collection.seen.Nodup
  records : collection.schema.records.Perm (walk.filterMap Expansion.record?)
  enumerations : collection.schema.enumerations.Perm (walk.filterMap Expansion.enumeration?)
  dataEnums : collection.schema.dataEnums.Perm (walk.filterMap Expansion.dataEnum?)
  kinds : ∀ expansion ∈ walk,
    (expansion.record?.isSome ↔ expansion.type.view.kind = .ok .record) ∧
    (expansion.enumeration?.isSome ↔ expansion.type.view.kind = .ok .enumeration) ∧
    (expansion.dataEnum?.isSome ↔ expansion.type.view.kind = .ok .dataEnum)

theorem Advances.ledger
    (advances : Advances model start (.empty target) collection walk left) :
    Ledger model start target collection walk left where
  valid := advances.valid
  seen := advances.seen
  distinct := advances.seen.nodup_iff.mpr advances.distinct
  records := (Schema.perm_of_walk advances.entities).1
  enumerations := (Schema.perm_of_walk advances.entities).2.1
  dataEnums := (Schema.perm_of_walk advances.entities).2.2
  kinds := fun _ member => (advances.valid _ member).kinds

/-- What a marked identity depends on is marked. -/
theorem Advances.seen_of_depends {before : Collection}
    (advances : Advances model start before collection walk left) {first identity : Identity}
    (seen : first ∈ collection.seen)
    (path : Relation.ReflTransGen (DependsIn walk) first identity) :
    identity ∈ collection.seen := by
  induction path with
  | refl => exact seen
  | tail _ edge _ =>
    obtain ⟨expansion, inside, -, type, needed, identified⟩ := edge
    obtain ⟨met, marked, same⟩ := advances.closed expansion inside type needed
    rw [identified] at same
    cases same
    exact marked

/-- A marked identity has exactly one place in the walk, or is left without. -/
theorem Ledger.once (ledger : Ledger model start target collection walk left) {identity : Identity}
    (seen : identity ∈ collection.seen) :
    identity ∈ left ∨ ∃! expansion, expansion ∈ walk ∧ expansion.identity = identity := by
  rcases List.mem_append.mp (ledger.seen.mem_iff.mp seen) with member | member
  · exact .inl member
  · obtain ⟨expansion, inside, rfl⟩ := List.mem_map.mp member
    have distinct := (List.nodup_append.mp (ledger.seen.nodup_iff.mp ledger.distinct)).2.1
    refine .inr ⟨expansion, ⟨inside, rfl⟩, fun other ⟨found, same⟩ => ?_⟩
    exact List.inj_on_of_nodup_map distinct found inside same

end Ledger

namespace Collect

variable {before after : Collection × Memory} {type : HostType}

/-- Collecting is confined to all types and all memories. -/
theorem confines_all (model : Model) : Confines model (fun _ => True) (fun _ => True) :=
  ⟨fun _ _ => trivial, fun _ _ _ => trivial, fun _ _ _ => trivial⟩

theorem Visits.grows {held : Memory → Prop} {visit : HostType → Collect Unit}
    {roots : List HostType} (visits : Visits held visit roots before after)
    (grows : ∀ {type : HostType} {before after : Collection × Memory},
      Yields (visit type) before () after → before.1.Extends after.1) :
    before.1.Extends after.1 := by
  induction visits with
  | done _ => exact .refl _
  | build _ ih => exact ih
  | visit _ found _ _ ih => exact (grows found).trans ih

/-- Collecting takes nothing back; the depth that is left carries the induction. -/
theorem addAt_grows {depth : Nat} (found : Yields (addAt model depth type) before () after) :
    before.1.Extends after.1 := by
  induction depth using Nat.strongRecOn generalizing type before after with
  | _ depth ih =>
  cases addAt_added (confines_all model) trivial trivial found with
  | old _ _ => exact .refl _
  | new _ _ shallower _ _ visits =>
    have inner := visits.grows (ih _ shallower)
    exact ((Collection.Extends.mark _ _).trans inner).trans (.addTo _ _)

theorem Visits.advances {depth : Nat} {roots : List HostType}
    (visits : Visits (Arises model start) (addAt model depth) roots before after) :
    ∃ walk, Advances model start before.1 after.1 walk [] := by
  obtain ⟨walk, walked, -⟩ := visits.spans (fun _ _ => trivial)
    (addAt_spans (confines_arises model start) (fun _ arises => arises) depth)
  exact ⟨walk, .ofWalked (visits.grows addAt_grows) walked⟩

/-- A visit that fails leaves no class behind for the types that it was inside of, and for all
others that it has marked their classes. -/
theorem addAt_advances_of_fails {depth : Nat} {failure : Failure}
    (arises : Arises model start before.2)
    (failed : Fails (addAt model depth type) before failure after) :
    ∃ walk left, Advances model start before.1 after.1 walk left := by
  induction depth using Nat.strongRecOn generalizing type before after with
  | _ depth ih =>
  cases addAt_refused (confines_arises model start) trivial arises failed with
  | tooDeep => exact ⟨[], [], .refl _⟩
  | unidentified _ => exact ⟨[], [], .refl _⟩
  | @inside identity less _ _ identified new shallower breaks =>
    have marked : Advances model start before.1 (before.1.mark identity) [] [identity] := .mark new
    cases breaks with
    | stuck _ visits _ same _ =>
      obtain ⟨walk, inner⟩ := visits.advances
      rw [same]
      exact ⟨_, _, marked.append inner⟩
    | inside _ visits _ arises failed =>
      obtain ⟨walk, inner⟩ := visits.advances
      obtain ⟨rest, left, broken⟩ := ih less shallower arises failed
      exact ⟨_, _, (marked.append inner).append broken⟩

/-- What a step leaves behind, whether it fails or not. -/
def leaves {α : Type} (step : Collect α) (state : Collection × Memory) : Collection × Memory :=
  let run := (step.run.run state.1).run state.2
  (run.1.2, run.2)

theorem Yields.leaves_eq {α : Type} {step : Collect α} {value : α}
    (found : Yields step before value after) : leaves step before = after := by
  rw [Yields] at found
  simp only [leaves, found]

theorem Fails.leaves_eq {α : Type} {step : Collect α} {failure : Failure}
    (failed : Fails step before failure after) : leaves step before = after := by
  rw [Fails] at failed
  simp only [leaves, failed]

/-- What a visit does, whether it fails or not. -/
theorem addAt_advances (depth : Nat) (type : HostType) (arises : Arises model start before.2) :
    ∃ walk left, Advances model start before.1 (leaves (addAt model depth type) before).1
      walk left := by
  rcases yields_or_fails (addAt model depth type) before with
    ⟨_, after, found⟩ | ⟨failure, after, failed⟩
  · have keeps := addAt_keeps (confines_arises model start) depth
    obtain ⟨next, same⟩ := keeps.yields trivial arises found
    obtain ⟨walk, advances⟩ := (Visits.visit arises found same (.done next)).advances
    rw [found.leaves_eq]
    exact ⟨walk, [], advances⟩
  · rw [failed.leaves_eq]
    exact addAt_advances_of_fails arises failed

/-- A type that was met is not collected again. -/
theorem leaves_addAt_of_seen (depth : Nat) {identity : Identity}
    (identified : type.view.identity = .ok identity) (old : identity ∈ before.1.seen) :
    leaves (addAt model depth type) before = before := by
  have never {other : Identity} (same : type.view.identity = .ok other) :
      ¬ other ∉ before.1.seen := by
    rw [identified] at same
    cases same
    exact not_not_intro old
  rcases yields_or_fails (addAt model depth type) before with
    ⟨_, after, found⟩ | ⟨failure, after, failed⟩
  · rw [found.leaves_eq]
    cases addAt_added (confines_all model) trivial trivial found with
    | old _ _ => rfl
    | new same new _ _ _ _ => exact absurd new (never same)
  · rw [failed.leaves_eq]
    cases addAt_refused (confines_all model) trivial trivial failed with
    | tooDeep => rfl
    | unidentified _ => rfl
    | inside same new _ _ => exact absurd new (never same)

end Collect

/-- A call on a collection. -/
inductive Request where
  | add (type : HostType)
  | addAll (types : List HostType)
  | mark (identity : Identity)

namespace Request

def step (model : Model) : Request → Collect Unit
  | .add type => Collect.add model type
  | .addAll types => Collect.addAll model types
  | .mark identity => modify (·.mark identity)

/-- What the call leaves behind, whether it fails or not. -/
def leaves (model : Model) (state : Collection × Memory) (request : Request) :
    Collection × Memory :=
  Collect.leaves (request.step model) state

/-- The call returns. -/
def Returns (model : Model) (state : Collection × Memory) (request : Request) : Prop :=
  Collect.Yields (request.step model) state () (request.leaves model state)

theorem Returns.of_yields {model : Model} {state after : Collection × Memory} {request : Request}
    (found : Collect.Yields (request.step model) state () after) : request.Returns model state := by
  rw [Returns, leaves, found.leaves_eq]
  exact found

/-- The call marks an identity that was not marked, by hand or before it fails. -/
def Abandons (model : Model) (state : Collection × Memory) (request : Request)
    (identity : Identity) : Prop :=
  identity ∉ state.1.seen ∧ identity ∈ (request.leaves model state).1.seen ∧
    (request = .mark identity ∨ ¬ request.Returns model state)

end Request

namespace Request

variable {state : Collection × Memory}

private theorem advances_of {request : Request}
    (succeeds : ∀ {after : Collection × Memory},
      Collect.Yields (request.step model) state () after →
      Arises model start after.2 ∧ ∃ walk, Advances model start state.1 after.1 walk [])
    (fails : ∀ {failure : Failure} {after : Collection × Memory},
      Collect.Fails (request.step model) state failure after →
      Arises model start after.2 ∧ ∃ walk left, Advances model start state.1 after.1 walk left) :
    Arises model start (request.leaves model state).2 ∧
      ∃ walk left, Advances model start state.1 (request.leaves model state).1 walk left ∧
        ∀ identity ∈ left, request.Abandons model state identity := by
  rcases Collect.yields_or_fails (request.step model) state with
    ⟨_, after, found⟩ | ⟨failure, after, failed⟩
  · obtain ⟨arises, walk, advances⟩ := succeeds found
    rw [leaves, found.leaves_eq]
    exact ⟨arises, walk, [], advances, by simp⟩
  · obtain ⟨arises, walk, left, advances⟩ := fails failed
    rw [leaves, failed.leaves_eq]
    refine ⟨arises, walk, left, advances, fun identity member => ?_⟩
    have raised : ¬ request.Returns model state := fun returns => returns.not_fails failed
    have new := List.mem_append_left (walk.map Expansion.identity) member
    refine ⟨advances.fresh identity new, ?_, .inr raised⟩
    rw [leaves, failed.leaves_eq]
    exact advances.seen.mem_iff.mpr (List.mem_append_right _ new)

/-- What one call does; what it leaves without a class it has abandoned. -/
theorem advances (request : Request) (arises : Arises model start state.2) :
    Arises model start (request.leaves model state).2 ∧
      ∃ walk left, Advances model start state.1 (request.leaves model state).1 walk left ∧
        ∀ identity ∈ left, request.Abandons model state identity := by
  have keeps := Collect.addAt_keeps (Collect.confines_arises model start) Collect.maxDepth
  cases request with
  | add type =>
    refine advances_of (fun found => ?_) (fun failed => ?_)
    · obtain ⟨next, same⟩ := keeps.yields trivial arises found
      exact ⟨next, (Collect.Visits.visit arises found same (.done next)).advances⟩
    · exact ⟨(keeps.fails trivial arises failed).1, Collect.addAt_advances_of_fails arises failed⟩
  | addAll roots =>
    refine advances_of (fun found => ?_) (fun failed => ?_)
    · have visits := Collect.forM_yields keeps (fun _ _ => trivial) arises found
      exact ⟨visits.held_after, visits.advances⟩
    · obtain ⟨_, _, _, _, -, visits, failed⟩ :=
        Collect.forM_fails keeps (fun _ _ => trivial) arises failed
      obtain ⟨walk, inner⟩ := visits.advances
      obtain ⟨rest, left, broken⟩ := Collect.addAt_advances_of_fails visits.held_after failed
      exact ⟨(keeps.fails trivial visits.held_after failed).1, _, _, inner.append broken⟩
  | mark identity =>
    refine ⟨arises, ?_⟩
    by_cases old : identity ∈ state.1.seen
    · have same : (Request.mark identity).leaves model state = state := by
        show (state.1.mark identity, state.2) = state
        rw [Collection.mark_old old]
      rw [same]
      exact ⟨[], [], .refl _, by simp⟩
    · refine ⟨[], [identity], .mark old, fun other member => ?_⟩
      rw [List.mem_singleton] at member
      subst member
      refine ⟨old, ?_, .inl rfl⟩
      show other ∈ (state.1.mark other).seen
      simp [Collection.mark_new old]

end Request

/-- What some calls on a new collection leave behind, whether they fail or not. -/
def Collection.history (model : Model) (target : Target) (start : Memory) (calls : List Request) :
    Collection × Memory :=
  calls.foldl (Request.leaves model) (.empty target, start)

namespace Collection

variable (model : Model) (target : Target) (start : Memory)

theorem history_append (calls : List Request) (call : Request) :
    history model target start (calls ++ [call]) =
      call.leaves model (history model target start calls) := by
  simp [history]

/-- What some calls add up to; what they leave without a class one of them has abandoned. -/
theorem history_advances (calls : List Request) :
    Arises model start (history model target start calls).2 ∧
      ∃ walk left,
        Advances model start (.empty target) (history model target start calls).1 walk left ∧
        ∀ identity ∈ left, ∃ earlier call later, calls = earlier ++ call :: later ∧
          call.Abandons model (history model target start earlier) identity := by
  induction calls using List.reverseRecOn with
  | nil => exact ⟨.start, [], [], .refl _, by simp⟩
  | append_singleton calls call ih =>
    obtain ⟨arises, walk, left, advances, abandoned⟩ := ih
    obtain ⟨next, rest, more, further, given⟩ := call.advances arises
    rw [history_append]
    refine ⟨next, walk ++ rest, left ++ more, advances.append further, ?_⟩
    refine List.forall_mem_append.mpr ⟨fun identity member => ?_, fun identity member => ?_⟩
    · obtain ⟨earlier, other, later, rfl, found⟩ := abandoned identity member
      exact ⟨earlier, other, later ++ [call], by simp, found⟩
    · exact ⟨calls, call, [], rfl, given identity member⟩

/-- Classes are collected at most once and never taken back, over all calls, those that fail
included. Each call, and each visit inside one, adds behind what is there, gives no class to an
identity that was marked before it, and does nothing for a type that was met. -/
theorem history_registers (calls : List Request) (call : Request) :
    let before := history model target start calls
    let after := history model target start (calls ++ [call])
    (∃ walk left rest more,
      Ledger model start target before.1 walk left ∧
      Advances model start before.1 after.1 rest more ∧
      Ledger model start target after.1 (walk ++ rest) (left ++ more)) ∧
    (∀ type identity, call = .add type → type.view.identity = .ok identity →
      identity ∈ before.1.seen → after = before) ∧
    ∀ (depth : Nat) (type : HostType) (state : Collection × Memory), Arises model start state.2 →
      (∃ rest more, Advances model start state.1
        (Collect.leaves (Collect.addAt model depth type) state).1 rest more) ∧
      ∀ identity, type.view.identity = .ok identity → identity ∈ state.1.seen →
        Collect.leaves (Collect.addAt model depth type) state = state := by
  obtain ⟨arises, walk, left, advances, -⟩ := history_advances model target start calls
  obtain ⟨-, rest, more, further, -⟩ := call.advances arises
  simp only [history_append]
  refine ⟨⟨walk, left, rest, more, advances.ledger, further, (advances.append further).ledger⟩,
    ?_, fun depth type state arises => ⟨?_, ?_⟩⟩
  · rintro type identity rfl identified old
    exact Collect.leaves_addAt_of_seen Collect.maxDepth identified old
  · exact Collect.addAt_advances depth type arises
  · exact fun identity identified old => Collect.leaves_addAt_of_seen depth identified old

/-- Where collecting a type returns, every identity that it depends on has exactly one class, or
needs none, unless an earlier call has abandoned the identity: such a call has marked it by hand, or
has failed after it was marked. -/
theorem history_add_collects (calls : List Request) (type : HostType)
    (returns : (Request.add type).Returns model (history model target start calls)) :
    ∃ walk left first,
      Ledger model start target (history model target start (calls ++ [.add type])).1 walk left ∧
      (∀ identity ∈ left, ∃ earlier call later, calls = earlier ++ call :: later ∧
        call.Abandons model (history model target start earlier) identity) ∧
      type.view.identity = .ok first ∧
      ∀ identity, Relation.ReflTransGen (DependsIn walk) first identity →
        identity ∈ left ∨
          ∃! expansion, expansion ∈ walk ∧ expansion.identity = identity := by
  obtain ⟨arises, walk, left, advances, abandoned⟩ := history_advances model target start calls
  obtain ⟨-, rest, more, further, given⟩ := (Request.add type).advances arises
  have nothing : more = [] := by
    refine List.eq_nil_iff_forall_not_mem.mpr fun identity member => ?_
    obtain ⟨-, -, marked | raised⟩ := given identity member
    · cases marked
    · exact raised returns
  subst nothing
  have all := advances.append further
  rw [List.append_nil] at all
  obtain ⟨walked, found, -⟩ := Collect.addAt_spans (Collect.confines_arises model start)
    (fun _ arises => arises) Collect.maxDepth trivial arises returns
  obtain ⟨first, seen, identified⟩ := found.rooted type (List.mem_singleton_self type)
  simp only [history_append]
  exact ⟨walk ++ rest, left, first, all.ledger, abandoned, identified,
    fun identity path => all.ledger.once (all.seen_of_depends seen path)⟩

/-- Another record with a parameter. -/
def looseRef : ClassRef :=
  { Collect.pairRef with serial := 1, qualifiedName := "Loose", name := "Loose" }

/-- The declaration of that record: its field may be anything, so that no class can be generated for
it. -/
def looseClass : ClassDecl :=
  { Collect.pairClass (.builtin .any) with
    ref := looseRef
    ancestry := [.declared looseRef, .language "Generic", .language "object"] }

/-- The model of that record and of one that is generated. -/
def looseModel : Model where
  classes := [Collect.pairClass (.variable "K"), looseClass]
  bindings := [⟨"models", "Pair", Collect.pairRef⟩, ⟨"models", "Loose", looseRef⟩]
  typeVariables := ["K"]

/-- An instantiation that cannot be collected. -/
def looseInt : HostType :=
  .applied (.declared looseRef) [.primitive .int]

def pairInt : HostType :=
  .applied (.declared Collect.pairRef) [.primitive .int]

/-- What a call for the first one leaves behind: its mark. -/
def looseState : Collection × Memory :=
  (⟨.python, .empty, [.node "models.Loose" [.node "builtins.int" []]]⟩, .empty)

/-- What a call for the other one leaves behind then. -/
def pairState : Collection × Memory :=
  (⟨.python, ⟨[⟨.ofPascal "Pair", "PairInt", [⟨.ofSnake "x", "x", .named "int"⟩]⟩], [], []⟩,
    looseState.1.seen ++ [.node "models.Pair" [.node "builtins.int" []], .node "builtins.int" []]⟩,
    .empty)

private theorem looseInt_fails : Collect.Fails ((Request.add looseInt).step looseModel)
    (.empty .python, .empty) (.generation (.unsupportedType (.builtin .any))) looseState := rfl

private theorem history_looseInt :
    history looseModel .python .empty [.add looseInt] = looseState :=
  looseInt_fails.leaves_eq

private theorem looseInt_returns :
    (Request.add looseInt).Returns looseModel
      (history looseModel .python .empty [.add looseInt]) := by
  rw [history_looseInt]
  have found : Collect.Yields ((Request.add looseInt).step looseModel) looseState
      () looseState := rfl
  exact .of_yields found

private theorem pairInt_returns :
    (Request.add pairInt).Returns looseModel
      (history looseModel .python .empty [.add looseInt]) := by
  rw [history_looseInt]
  have found : Collect.Yields ((Request.add pairInt).step looseModel) looseState () pairState := rfl
  exact .of_yields found

theorem history_add_collects_after_failure :
    ¬ (Request.add looseInt).Returns looseModel (.empty .python, .empty) ∧
    ∃ walk left first,
      Ledger looseModel .empty .python
        (history looseModel .python .empty [.add looseInt, .add pairInt]).1 walk left ∧
      pairInt.view.identity = .ok first ∧
      (first ∈ left ∨ ∃! expansion, expansion ∈ walk ∧ expansion.identity = first) := by
  obtain ⟨walk, left, first, ledger, -, identified, once⟩ :=
    history_add_collects looseModel .python .empty [.add looseInt] pairInt pairInt_returns
  exact ⟨fun returns => returns.not_fails looseInt_fails, walk, left, first, ledger, identified,
    once first .refl⟩

/-- A call that fails leaves its type marked, and the next call for that type returns without a
class for it. -/
theorem not_collected_after_failure :
    ¬ ∀ (model : Model) (target : Target) (start : Memory) (calls : List Request) (type : HostType)
      (ref : ClassRef) (args : List View), type.view = .record ref args →
      (Request.add type).Returns model (history model target start calls) →
      ∃ record ∈ (history model target start (calls ++ [.add type])).1.schema.records,
        record.name = .ofPascal ref.name := by
  intro collects
  obtain ⟨record, member, -⟩ := collects looseModel .python .empty [.add looseInt] looseInt looseRef
    [.primitive .int] rfl looseInt_returns
  have kept : (history looseModel .python .empty ([.add looseInt] ++ [.add looseInt])) =
      looseState := by
    rw [history_append, history_looseInt]
    exact Collect.leaves_addAt_of_seen Collect.maxDepth rfl (List.mem_singleton_self _)
  rw [kept] at member
  cases member

end Collection

end WireModel
