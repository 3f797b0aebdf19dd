import WireModel.Proofs.Collection.History
import WireModel.Proofs.Collection.Wire

/-!
Two runs side by side: for two targets, or with two depths. They do the same, step by step, and come
to classes that are one on the wire; and if their targets are one, to the same classes.
-/

namespace WireModel

/-- The collection with an identity marked once more, whether it was marked before or not. -/
def Collection.log (collection : Collection) (identity : Identity) : Collection :=
  { collection with seen := collection.seen ++ [identity] }

namespace Collect

variable {α β γ δ : Type} {cut : Prop} {linked : Collection × Memory → Collection × Memory → Prop}

/-- Two steps from two states keep pace: both succeed, with related results, or both fail with one
failure, and lead to states that are linked again. Where the first one may be cut, it may run out of
depth whatever the other one does, in a state that is linked to some other one. -/
inductive Pace (cut : Prop) (linked : Collection × Memory → Collection × Memory → Prop)
    (relates : α → β → Prop) (step : Collect α) (other : Collect β)
    (before another : Collection × Memory) : Prop
  | succeed {value : α} {result : β} {after afterOther : Collection × Memory} :
      Yields step before value after → Yields other another result afterOther →
      relates value result → linked after afterOther →
      Pace cut linked relates step other before another
  | fail {failure : Failure} {after afterOther : Collection × Memory} :
      Fails step before failure after → Fails other another failure afterOther →
      linked after afterOther → Pace cut linked relates step other before another
  | cut {after afterOther : Collection × Memory} :
      cut → Fails step before (.fault .tooDeep) after → linked after afterOther →
      Pace cut linked relates step other before another

/-- Two steps keep pace from all states that are linked. -/
def Lockstep (cut : Prop) (linked : Collection × Memory → Collection × Memory → Prop)
    (relates : α → β → Prop) (step : Collect α) (other : Collect β) : Prop :=
  ∀ before another, linked before another → Pace cut linked relates step other before another

section Pace

variable {relates : α → β → Prop} {relatesNext : γ → δ → Prop} {step : Collect α}
    {other : Collect β}
  {next : α → Collect γ} {nextOther : β → Collect δ} {before another : Collection × Memory}

/-- What keeps pace after two steps that succeed keeps pace with them in front. -/
theorem Pace.after {value : α} {result : β} {between betweenOther : Collection × Memory}
    (found : Yields step before value between)
    (foundOther : Yields other another result betweenOther)
    (rest : Pace cut linked relatesNext (next value) (nextOther result) between betweenOther) :
    Pace cut linked relatesNext (step >>= next) (other >>= nextOther) before another := by
  cases rest with
  | succeed more moreOther related link =>
    exact .succeed (yields_bind.mpr ⟨_, _, found, more⟩)
      (yields_bind.mpr ⟨_, _, foundOther, moreOther⟩)
      related link
  | fail failed failedOther link =>
    exact .fail (fails_bind.mpr (.inr ⟨_, _, found, failed⟩))
      (fails_bind.mpr (.inr ⟨_, _, foundOther, failedOther⟩)) link
  | cut may failed link => exact .cut may (fails_bind.mpr (.inr ⟨_, _, found, failed⟩)) link

theorem Pace.mono {wider : Collection × Memory → Collection × Memory → Prop}
    (pace : Pace cut linked relates step other before another)
    (widen : ∀ after afterOther, linked after afterOther → wider after afterOther) :
    Pace cut wider relates step other before another := by
  cases pace with
  | succeed found foundOther related link =>
    exact .succeed found foundOther related (widen _ _ link)
  | fail failed failedOther link => exact .fail failed failedOther (widen _ _ link)
  | cut may failed link => exact .cut may failed (widen _ _ link)

namespace Lockstep

theorem pure {value : α} {result : β} (related : relates value result) :
    Lockstep cut linked relates (pure value) (pure result) :=
  fun _ _ link =>
    .succeed (yields_pure.mpr ⟨rfl, rfl⟩) (yields_pure.mpr ⟨rfl, rfl⟩) related link

theorem throw (failure : Failure) : Lockstep cut linked relates (throw failure) (throw failure) :=
  fun _ _ link => .fail (fails_throw.mpr ⟨rfl, rfl⟩) (fails_throw.mpr ⟨rfl, rfl⟩) link

theorem bind (first : Lockstep cut linked relates step other)
    (rest : ∀ value result, relates value result →
      Lockstep cut linked relatesNext (next value) (nextOther result)) :
    Lockstep cut linked relatesNext (step >>= next) (other >>= nextOther) := by
  intro before another link
  cases first before another link with
  | succeed found foundOther related link =>
    exact .after found foundOther (rest _ _ related _ _ link)
  | fail failed failedOther link =>
    exact .fail (fails_bind.mpr (.inl failed)) (fails_bind.mpr (.inl failedOther)) link
  | cut may failed link => exact .cut may (fails_bind.mpr (.inl failed)) link

theorem lift {outcome : Except Failure α} {result : Except Failure β}
    (alike : Outcome.Alike relates outcome result) :
    Lockstep cut linked relates (liftM outcome) (liftM result) := by
  intro before another link
  cases alike with
  | succeed related =>
    exact .succeed (yields_lift.mpr ⟨rfl, rfl⟩) (yields_lift.mpr ⟨rfl, rfl⟩) related link
  | fail => exact .fail (fails_lift.mpr ⟨rfl, rfl⟩) (fails_lift.mpr ⟨rfl, rfl⟩) link

theorem mono {weaker : α → β → Prop} (first : Lockstep cut linked relates step other)
    (weaken : ∀ value result, relates value result → weaker value result) :
    Lockstep cut linked weaker step other := by
  intro before another link
  cases first before another link with
  | succeed found foundOther related link =>
    exact .succeed found foundOther (weaken _ _ related) link
  | fail failed failedOther link => exact .fail failed failedOther link
  | cut may failed link => exact .cut may failed link

/-- An outcome that both steps come to. -/
theorem same (outcome : Except Failure α) :
    Lockstep cut linked (fun value result => value = result ∧ outcome = .ok value) (liftM outcome)
      (liftM outcome) := by
  refine lift ?_
  cases outcome with
  | ok value => exact .succeed ⟨rfl, rfl⟩
  | error failure => exact .fail

theorem discard (first : Lockstep cut linked relates step other) :
    Lockstep cut linked (fun _ _ => True) (discard step) (discard other) :=
  first.bind fun _ _ _ => pure trivial

theorem mapM {items : List γ} {step : γ → Collect α} {other : γ → Collect β}
    (each : ∀ item ∈ items, Lockstep cut linked relates (step item) (other item)) :
    Lockstep cut linked (List.Forall₂ relates) (items.mapM step) (items.mapM other) := by
  induction items with
  | nil => exact pure .nil
  | cons item rest ih =>
    rw [List.mapM_cons, List.mapM_cons]
    refine (each item (List.mem_cons_self ..)).bind fun _ _ related => ?_
    refine (ih fun other later => each other (List.mem_cons_of_mem _ later)).bind
      fun _ _ relatedAll => ?_
    exact pure (.cons related relatedAll)

theorem forM {items : List γ} {step other : γ → Collect Unit}
    (each : ∀ item ∈ items, Lockstep cut linked (fun _ _ => True) (step item) (other item)) :
    Lockstep cut linked (fun _ _ => True) (items.forM step) (items.forM other) := by
  induction items with
  | nil => exact pure trivial
  | cons item rest ih =>
    exact (each item (List.mem_cons_self ..)).bind fun _ _ _ =>
      ih fun other later => each other (List.mem_cons_of_mem _ later)

end Lockstep

end Pace

/-- Walks the parts of a type, unless its identity was marked. Each walk adds a mark. -/
def walkOnce (model : Model) (visit visitArgument : HostType → Collect Unit) (type : HostType)
    (identity : Identity) : Collect Unit := do
  if (← get).hasSeen identity then return
  modify (·.log identity)
  visitParts model visit visitArgument type

/-- The marks are a log of the walks over the parts of types: no walk goes without a mark of its
own. -/
theorem addAt_eq (model : Model) (depth : Nat) (type : HostType) :
    addAt model (depth + 3) type = (do
      let identity ← ofRule type.view.identity
      if depth < 2 * identity.height then throw (.fault .tooDeep)
      walkOnce model (addAt model depth) (addAt model (depth + 2)) type identity) := by
  have marks (identity : Identity) (next : Collect Unit) :
      (do if (← get).hasSeen identity then return
          modify (·.mark identity)
          next : Collect Unit) = (do
        if (← get).hasSeen identity then return
        modify (·.log identity)
        next) := by
    refine ExceptT.ext (StateT.ext fun collection => StateT.ext fun memory => ?_)
    have read (next : Collection → Collect Unit) :
        ((get >>= next).run.run collection).run memory =
          ((next collection).run.run collection).run memory := rfl
    have change (update : Collection → Collection) (next : Collect Unit) :
        (((modify update : Collect Unit) >>= fun _ => next).run.run collection).run memory =
          (next.run.run (update collection)).run memory := rfl
    rw [read, read]
    -- Marking and logging differ on a marked identity only, and there neither program comes to it.
    by_cases old : collection.hasSeen identity
    · rw [if_pos old, if_pos old]
    · rw [if_neg old, if_neg old, change, change, Collection.mark, if_neg old, Collection.log]
  rw [addAt]
  simp only [walkOnce, marks]

/-- The marks have grown by new identities of a set, each of them once. -/
def Logs (reach : Set Identity) (before after : List Identity) : Prop :=
  ∃ walked, after = before ++ walked ∧ walked.Nodup ∧
    ∀ identity ∈ walked, identity ∈ reach ∧ identity ∉ before

section Logs

variable {reach : Set Identity} {before between after : List Identity}

theorem Logs.refl (reach : Set Identity) (marks : List Identity) : Logs reach marks marks :=
  ⟨[], by simp, .nil, by simp⟩

theorem Logs.trans (first : Logs reach before between) (second : Logs reach between after) :
    Logs reach before after := by
  obtain ⟨walked, rfl, distinct, new⟩ := first
  obtain ⟨more, rfl, distinctMore, newMore⟩ := second
  refine ⟨walked ++ more, by rw [List.append_assoc], distinct.append distinctMore ?_, ?_⟩
  · exact fun identity member later => (newMore identity later).2 (List.mem_append_right _ member)
  · refine List.forall_mem_append.mpr ⟨new, fun identity member => ?_⟩
    exact (newMore identity member).imp_right (mt (List.mem_append_left _))

theorem Logs.mark {identity : Identity} (reached : identity ∈ reach) (new : identity ∉ before) :
    Logs reach before (before ++ [identity]) :=
  ⟨[identity], rfl, List.nodup_singleton _, by simp [reached, new]⟩

end Logs

/-- Two runs for two targets have come to the same: they have built the same, collected classes that
are one on the wire, and marked the same identities, those behind some given ones once each. -/
structure Abreast (target other : Target) (held : Memory → Prop) (reach : Set Identity)
    (marked : List Identity) (state another : Collection × Memory) : Prop where
  memory : another.2 = state.2
  classes : Agrees target other Schema.wire state.1.schema another.1.schema
  seen : another.1.seen = state.1.seen
  logs : Logs reach marked state.1.seen
  held : held state.2
  target : state.1.target = target
  targetOther : another.1.target = other

section Abreast

variable {target other : Target} {held : Memory → Prop} {reach : Set Identity}
  {marked : List Identity} {state another : Collection × Memory}

theorem Abreast.refl (holds : held state.2) :
    Abreast state.1.target state.1.target held reach state.1.seen state state :=
  ⟨rfl, ⟨rfl, fun _ => rfl⟩, rfl, .refl _ _, holds, rfl, rfl⟩

/-- Runs for one target come to one state. -/
theorem Abreast.eq (abreast : Abreast target target held reach marked state another) :
    another = state := by
  obtain ⟨⟨_, _, _⟩, _⟩ := state
  obtain ⟨⟨_, _, _⟩, _⟩ := another
  obtain ⟨rfl, classes, rfl, -, -, rfl, rfl⟩ := abreast
  obtain rfl := classes.same rfl
  rfl

/-- From here on, what is marked now is given. -/
theorem Abreast.restart (abreast : Abreast target other held reach marked state another) :
    Abreast target other held reach state.1.seen state another :=
  { abreast with logs := .refl _ _ }

theorem Abreast.log (abreast : Abreast target other held reach marked state another)
    {identity : Identity} (reached : identity ∈ reach) (new : identity ∉ state.1.seen) :
    Abreast target other held reach marked (state.1.log identity, state.2)
      (another.1.log identity, another.2) :=
  { abreast with
    seen := congrArg (· ++ [identity]) abreast.seen
    logs := abreast.logs.trans (.mark reached new) }

variable {relates : α → α → Prop}

/-- Types are closed side by side. -/
theorem Lockstep.resolve {step : Resolving α}
    (keeps : ∀ memory, held memory → held (step.run.run memory).2) :
    Lockstep cut (Abreast target other held reach marked)
      (fun value result => value = result ∧ ∃ memory, held memory ∧
        (step.run.run memory).1 = .ok value) (resolve step) (resolve step) := by
  rintro ⟨collection, memory⟩ ⟨collectionOther, memoryOther⟩ abreast
  obtain rfl : memoryOther = memory := abreast.memory
  have holds : held memoryOther := abreast.held
  have left := keeps memoryOther holds
  rcases run : step.run.run memoryOther with ⟨outcome | value, after⟩
  · rw [run] at left
    have failed (collection : Collection) :
        Fails (Collect.resolve step) (collection, memoryOther) outcome (collection, after) :=
      fails_resolve.mpr ⟨run, rfl⟩
    exact .fail (failed _) (failed _) { abreast with memory := rfl, held := left }
  · rw [run] at left
    have found (collection : Collection) :
        Yields (Collect.resolve step) (collection, memoryOther) value (collection, after) :=
      yields_resolve.mpr ⟨run, rfl⟩
    exact .succeed (found _) (found _) ⟨rfl, memoryOther, holds, by rw [run]⟩
      { abreast with memory := rfl, held := left }

theorem Lockstep.ofRule (outcome : Except GenerationError α) :
    Lockstep cut (Abreast target other held reach marked)
      (fun value result => value = result ∧ outcome = .ok value) (ofRule outcome)
        (ofRule outcome) := by
  intro before another abreast
  cases outcome with
  | ok value =>
    exact .succeed (yields_ofRule.mpr ⟨rfl, rfl⟩) (yields_ofRule.mpr ⟨rfl, rfl⟩) ⟨rfl, rfl⟩ abreast
  | error error =>
    have failed (state : Collection × Memory) :
        Fails (Collect.ofRule (.error error) : Collect α) state (.generation error) state :=
      fails_ofRule.mpr ⟨⟨error, rfl, rfl⟩, rfl⟩
    exact .fail (failed _) (failed _) abreast

/-- What is looked up for the target is looked up for both. -/
theorem Lockstep.ofTarget (rule : Target → Except Failure α)
    (written : View.Written (rule target) (rule other)) :
    Lockstep cut (Abreast target other held reach marked) (Spelled target other)
      (do rule (← get).target : Collect α) (do rule (← get).target) := by
  intro before another abreast
  refine .after (yields_get.mpr ⟨rfl, rfl⟩) (yields_get.mpr ⟨rfl, rfl⟩) ?_
  rw [abreast.target, abreast.targetOther]
  exact lift (.spelled written) before another abreast

theorem className_lockstep (type : HostType) :
    Lockstep cut (Abreast target other held reach marked) (Spelled target other) (className type)
      (className type) :=
  .ofTarget (fun target => type.view.className target) (View.className_written _ _ _)

theorem typeExpr_lockstep (type : HostType) :
    Lockstep cut (Abreast target other held reach marked) (Spelled target other) (typeExpr type)
      (typeExpr type) :=
  .ofTarget (fun target => type.view.typeExpr target) (View.typeExpr_written _ _ _)

/-- Classes that are one on the wire are added side by side. -/
theorem Lockstep.add {entity result : Schema.Entity}
    (agree : Agrees target other Schema.Entity.wire entity result) :
    Lockstep cut (Abreast target other held reach marked) (fun _ _ => True) (modify (·.add entity))
      (modify (·.add result)) := by
  intro before another abreast
  have added (entity : Schema.Entity) (state : Collection × Memory) :
      Yields (modify (·.add entity)) state ⟨⟩ (state.1.add entity, state.2) :=
    yields_modify.mpr rfl
  refine .succeed (added entity before) (added result another) trivial
    { abreast with classes := ⟨?_, fun same => ?_⟩ }
  · show (another.1.schema.add result).wire = (before.1.schema.add entity).wire
    rw [Schema.wire_add, Schema.wire_add, abreast.classes.wire, agree.wire]
  · show another.1.schema.add result = before.1.schema.add entity
    rw [abreast.classes.same same, agree.same same]

end Abreast

/-- Visits to some types keep pace. -/
def VisitsAbreast (cut : Prop) (linked : Collection × Memory → Collection × Memory → Prop)
    (types : HostType → Prop) (visit visitOther : HostType → Collect Unit) : Prop :=
  ∀ {type : HostType}, types type →
    Lockstep cut linked (fun _ _ => True) (visit type) (visitOther type)

variable {model : Model} {types : HostType → Prop} {held : Memory → Prop} {target other : Target}
  {reach : Set Identity} {marked : List Identity}
  {visit visitOther visitArgument visitArgumentOther : HostType → Collect Unit}
  {type : HostType}

section Parts

variable {ref : ClassRef} {bindings : TypeBindings} (confines : Confines model types held)
  (visits : VisitsAbreast cut (Abreast target other held reach marked) types visit visitOther)
  (member : types type)

include confines visits member

theorem dependency_lockstep {hint : HostType} (known : HasHint model held type ref bindings hint) :
    Lockstep cut (Abreast target other held reach marked) Eq
      (dependency model visit ref bindings hint)
        (dependency model visitOther ref bindings hint) := by
  unfold dependency
  refine (Lockstep.resolve fun _ => confines.closing member known).bind ?_
  rintro closed _ ⟨rfl, memory, holds, closes⟩
  exact (visits (confines.offered member (.part known ⟨memory, holds, closes⟩))).bind
    fun _ _ _ => .pure rfl

theorem field_lockstep {declared : String × HostType}
    (known : HasHint model held type ref bindings declared.2) :
    Lockstep cut (Abreast target other held reach marked) (Agrees target other Schema.Field.wire)
      (field model visit ref bindings declared) (field model visitOther ref bindings declared) := by
  unfold field
  refine (dependency_lockstep confines visits member known).bind ?_
  rintro closed _ rfl
  refine (typeExpr_lockstep closed).bind fun expression result spelled =>
    .pure ⟨rfl, fun same => ?_⟩
  rw [spelled same]

theorem fields_lockstep {declared : List (String × HostType)}
    (known : ∀ field ∈ declared, HasHint model held type ref bindings field.2) :
    Lockstep cut (Abreast target other held reach marked)
      (Agrees target other (List.map Schema.Field.wire))
      (declared.mapM (field model visit ref bindings))
      (declared.mapM (field model visitOther ref bindings)) :=
  (Lockstep.mapM fun field inside =>
    field_lockstep confines visits member (known field inside)).mono
    fun _ _ => Agrees.forall₂

theorem payload_lockstep {declared : Payload}
    (known : ∀ hint ∈ declared.types, HasHint model held type ref bindings hint) :
    Lockstep cut (Abreast target other held reach marked) (Agrees target other Schema.Payload.wire)
      (payload model visit ref bindings declared)
        (payload model visitOther ref bindings declared) := by
  cases declared with
  | unit => exact .pure ⟨rfl, fun _ => rfl⟩
  | tuple slots =>
    refine (Lockstep.mapM fun hint inside =>
      dependency_lockstep confines visits member (known hint inside)).bind fun closed _ same => ?_
    rw [List.forall₂_eq_eq_eq] at same
    subst same
    refine (Lockstep.mapM fun type _ => (typeExpr_lockstep type).mono
      fun _ _ spelled => spelled.agrees (TypeExpr.named "")).bind fun expressions
        results agree => ?_
    refine .pure ⟨?_, fun same => ?_⟩
    · rw [Schema.Payload.wire, Schema.Payload.wire, (Agrees.forall₂ agree).wire]
    · rw [(Agrees.forall₂ agree).same same]
  | object fields =>
    refine (fields_lockstep confines visits member (List.forall_mem_map.mp known)).bind
      fun collected result agree => .pure ⟨?_, fun same => ?_⟩
    · rw [Schema.Payload.wire, Schema.Payload.wire, agree.wire]
    · rw [agree.same same]

theorem variant_lockstep {declared : Variant}
    (known : ∀ hint ∈ declared.payload.types, HasHint model held type ref bindings hint) :
    Lockstep cut (Abreast target other held reach marked) (Agrees target other Schema.Variant.wire)
      («variant» model visit ref bindings declared)
      («variant» model visitOther ref bindings declared) := by
  unfold «variant»
  refine (payload_lockstep confines visits member known).bind
    fun carried result agree => .pure ⟨?_, fun same => ?_⟩
  · rw [Schema.Variant.wire, Schema.Variant.wire, agree.wire]
  · rw [agree.same same]

end Parts

section Visit

variable {ref : ClassRef} {args : List View} (confines : Confines model types held)
  (visits : VisitsAbreast cut (Abreast target other held reach marked) types visit visitOther)
  (member : types type)

include confines visits member

theorem record_lockstep (seenAs : type.view = .record ref args) :
    Lockstep cut (Abreast target other held reach marked) (Agrees target other Schema.Record.wire)
      (record model visit ref type) (record model visitOther ref type) := by
  unfold record
  refine (Lockstep.same _).bind ?_
  rintro bound _ ⟨rfl, binds⟩
  refine (Lockstep.resolve fun _ => confines.fields member seenAs).bind ?_
  rintro declared _ ⟨rfl, memory, holds, typed⟩
  refine (className_lockstep type).bind fun className nameOther spelled => ?_
  refine (fields_lockstep confines visits member fun _ inside =>
    .field seenAs binds holds typed inside).bind fun fields result agree =>
      .pure ⟨?_, fun same => ?_⟩
  · rw [Schema.Record.wire, Schema.Record.wire, agree.wire]
  · rw [spelled same, agree.same same]

theorem dataEnum_lockstep (seenAs : type.view = .dataEnum ref args) :
    Lockstep cut (Abreast target other held reach marked) (Agrees target other Schema.DataEnum.wire)
      (dataEnum model visit ref type) (dataEnum model visitOther ref type) := by
  unfold dataEnum
  refine (Lockstep.same _).bind ?_
  rintro bound _ ⟨rfl, binds⟩
  refine (className_lockstep type).bind fun className nameOther spelled => ?_
  have each : ∀ declared ∈ model.variants ref,
      Lockstep cut (Abreast target other held reach marked)
        (Agrees target other Schema.Variant.wire)
        («variant» model visit ref bound declared)
          («variant» model visitOther ref bound declared) :=
    fun declared inside => variant_lockstep confines visits member
      fun _ carried => .slot seenAs binds inside carried
  refine (Lockstep.mapM each).bind fun variants result agree => .pure ⟨?_, fun same => ?_⟩
  · rw [Schema.DataEnum.wire, Schema.DataEnum.wire, (Agrees.forall₂ agree).wire]
  · rw [spelled same, (Agrees.forall₂ agree).same same]

theorem visitParts_lockstep (visitsArgument :
      VisitsAbreast cut (Abreast target other held reach marked) types visitArgument
        visitArgumentOther) :
    Lockstep cut (Abreast target other held reach marked) (fun _ _ => True)
      (visitParts model visit visitArgument type)
      (visitParts model visitOther visitArgumentOther type) := by
  have container (isContainer : type.view.IsContainer) :
      Lockstep cut (Abreast target other held reach marked) (fun _ _ => True)
        (type.parts.forM visitArgument) (type.parts.forM visitArgumentOther) :=
    .forM fun part inside => visitsArgument (confines.offered member (.argument isContainer inside))
  unfold visitParts
  cases seenAs : type.view with
  | refused error => exact .throw _
  | primitive shown => exact .pure trivial
  | list args => exact container (seenAs ▸ trivial)
  | map args => exact container (seenAs ▸ trivial)
  | optional part => exact container (seenAs ▸ trivial)
  | box args => exact container (seenAs ▸ trivial)
  | record ref args =>
    refine (className_lockstep type).discard.bind fun _ _ _ => ?_
    refine (record_lockstep confines visits member seenAs).bind fun collected result
      agree => .add ?_
    exact ⟨congrArg Schema.Entity.record agree.wire, fun same => congrArg _ (agree.same same)⟩
  | enumeration ref =>
    refine (className_lockstep type).bind fun className nameOther spelled =>
      .add ⟨rfl, fun same => ?_⟩
    rw [spelled same]
  | dataEnum ref args =>
    refine (className_lockstep type).discard.bind fun _ _ _ => ?_
    refine (dataEnum_lockstep confines visits member seenAs).bind fun collected result
      agree => .add ?_
    exact ⟨congrArg Schema.Entity.dataEnum agree.wire, fun same => congrArg _ (agree.same same)⟩

end Visit

/-- A walk over the parts of a type keeps pace where the visits inside do, with one more identity
marked. -/
theorem walkOnce_lockstep {identity : Identity} (confines : Confines model types held)
    (member : types type) (reached : identity ∈ reach)
    (inner : ∀ seen, Logs reach marked seen → identity ∉ seen →
      VisitsAbreast cut (Abreast target other held reach (seen ++ [identity])) types visit
        visitOther ∧
      VisitsAbreast cut (Abreast target other held reach (seen ++ [identity])) types visitArgument
        visitArgumentOther) :
    Lockstep cut (Abreast target other held reach marked) (fun _ _ => True)
      (walkOnce model visit visitArgument type identity)
      (walkOnce model visitOther visitArgumentOther type identity) := by
  intro before another abreast
  refine .after (yields_get.mpr ⟨rfl, rfl⟩) (yields_get.mpr ⟨rfl, rfl⟩) ?_
  simp only [Collection.hasSeen, abreast.seen, decide_eq_true_eq]
  by_cases old : identity ∈ before.1.seen
  · rw [if_pos old, if_pos old]
    exact Lockstep.pure trivial before another abreast
  rw [if_neg old, if_neg old]
  have logged (state : Collection × Memory) : Yields (modify (·.log identity)) state ⟨⟩
      (state.1.log identity, state.2) := yields_modify.mpr rfl
  refine .after (logged before) (logged another) ?_
  -- The parts start from the new mark; what they log goes behind it.
  obtain ⟨visits, visitsArgument⟩ := inner before.1.seen abreast.logs old
  have parts := visitParts_lockstep confines visits member visitsArgument
  refine (parts _ _ (abreast.log reached old).restart).mono fun after afterOther link => ?_
  exact { link with logs := abreast.logs.trans ((Logs.mark reached old).trans link.logs) }

/-- Visits for two targets keep pace; the depth that is left carries the induction. -/
theorem addAt_lockstep (confines : Confines model types held)
    (within : ∀ {type : HostType} {identity : Identity}, types type →
      type.view.identity = .ok identity → identity ∈ reach) (depth : Nat) :
    VisitsAbreast cut (Abreast target other held reach marked) types (addAt model depth)
      (addAt model depth) := by
  induction depth using Nat.strongRecOn generalizing marked with
  | _ depth ih =>
  intro type member
  rcases depth with _ | _ | _ | depth
  · exact .throw _
  · exact .throw _
  · exact .throw _
  rw [addAt_eq]
  refine (Lockstep.ofRule _).bind ?_
  rintro identity _ ⟨rfl, identified⟩
  split
  · have never : Lockstep cut (Abreast target other held reach marked) (fun (_ _ : PUnit) => False)
        (throw (.fault .tooDeep)) (throw (.fault .tooDeep)) := .throw _
    exact never.bind fun _ _ impossible => impossible.elim
  exact walkOnce_lockstep confines member (within member identified)
    fun _ _ _ => ⟨ih depth (by omega), ih (depth + 2) (by omega)⟩

end Collect

/-- Runs for two targets fail both, with one failure, or collect classes that are one on the wire:
as many of each kind, in one order, with the same names, tags, shapes and numbers of slots. Both
build the same. -/
theorem Schema.outcome_wire (target other : Target) (model : Model) (start : Memory)
    (roots : List HostType) :
    (Schema.outcome target model start roots).map Schema.wire =
        (Schema.outcome other model start roots).map Schema.wire ∧
      ((Schema.ofTypes target model roots).run.run start).2 =
        ((Schema.ofTypes other model roots).run.run start).2 := by
  have begins : Collect.Abreast target other (fun _ => True) Set.univ [] (.empty target, start)
      (.empty other, start) := ⟨rfl, ⟨rfl, fun _ => rfl⟩, rfl, .refl _ _, trivial, rfl, rfl⟩
  have run : Collect.Lockstep False (Collect.Abreast target other (fun _ => True) Set.univ [])
      (fun _ _ => True) (Collect.addAll model roots) (Collect.addAll model roots) :=
    .forM fun _ _ => Collect.addAt_lockstep (Collect.confines_all model) (fun _ _ =>
      trivial) _ trivial
  have memory (target : Target) : ((Schema.ofTypes target model roots).run.run start).2 =
      (Collect.leaves (Collect.addAll model roots) (.empty target, start)).2 := rfl
  rw [memory, memory]
  cases run _ _ begins with
  | succeed found foundOther _ link =>
    rw [found.outcome, foundOther.outcome, found.leaves_eq, foundOther.leaves_eq]
    exact ⟨congrArg Except.ok link.classes.wire.symm, link.memory.symm⟩
  | fail failed failedOther link =>
    rw [failed.outcome, failedOther.outcome, failed.leaves_eq, failedOther.leaves_eq]
    exact ⟨rfl, link.memory.symm⟩
  | cut impossible _ _ => exact impossible.elim

end WireModel
