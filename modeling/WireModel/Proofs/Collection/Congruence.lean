import WireModel.Proofs.Collection.Declared
import WireModel.Proofs.Collection.Spelling

/-!
Collecting two types of one identity. If no class that a run comes to tells their spellings apart,
the runs over both types keep pace: they fail both, or collect the same classes.
-/

namespace WireModel

namespace Collect

variable {α β γ δ : Type} {held : Memory → Prop}

/-- Two steps keep pace from one collection and some memories: they fail both, or succeed both, with
related results, and leave one collection behind. -/
inductive KeepPace (held : Memory → Prop) (relates : α → β → Prop) (step : Collect α)
    (other : Collect β) (collection : Collection) (memory later : Memory) : Prop
  | succeed {value : α} {another : β} {next : Collection} {left leftLater : Memory} :
      Yields step (collection, memory) value (next, left) →
      Yields other (collection, later) another (next, leftLater) →
      relates value another → held left → held leftLater →
      KeepPace held relates step other collection memory later
  | fail {failure otherFailure : Failure} {after otherAfter : Collection × Memory} :
      Fails step (collection, memory) failure after →
      Fails other (collection, later) otherFailure otherAfter →
      KeepPace held relates step other collection memory later

/-- Two steps keep pace wherever they start from. -/
def InStep (held : Memory → Prop) (relates : α → β → Prop) (step : Collect α) (other : Collect β) :
    Prop :=
  ∀ collection memory later, held memory → held later →
    KeepPace held relates step other collection memory later

namespace InStep

variable {relates : α → β → Prop} {relatesNext : γ → δ → Prop} {step : Collect α}
    {other : Collect β}

theorem pure {value : α} {another : β} (related : relates value another) :
    InStep held relates (pure value) (pure another) :=
  fun _ _ _ holds holdsLater =>
    .succeed (yields_pure.mpr ⟨rfl, rfl⟩) (yields_pure.mpr ⟨rfl, rfl⟩) related holds holdsLater

theorem throw {failure otherFailure : Failure} :
    InStep held relates (throw failure) (throw otherFailure) :=
  fun _ _ _ _ _ => .fail (fails_throw.mpr ⟨rfl, rfl⟩) (fails_throw.mpr ⟨rfl, rfl⟩)

theorem bind {next : α → Collect γ} {otherNext : β → Collect δ}
    (first : InStep held relates step other)
    (rest : ∀ value another, relates value another →
      InStep held relatesNext (next value) (otherNext another)) :
    InStep held relatesNext (step >>= next) (other >>= otherNext) := by
  intro collection memory later holds holdsLater
  cases first collection memory later holds holdsLater with
  | succeed found otherFound related left leftLater =>
    cases rest _ _ related _ _ _ left leftLater with
    | succeed more otherMore relatedMore last lastLater =>
      exact .succeed (yields_bind.mpr ⟨_, _, found, more⟩)
        (yields_bind.mpr ⟨_, _, otherFound, otherMore⟩) relatedMore last lastLater
    | fail failed otherFailed =>
      exact .fail (fails_bind.mpr (.inr ⟨_, _, found, failed⟩))
        (fails_bind.mpr (.inr ⟨_, _, otherFound, otherFailed⟩))
  | fail failed otherFailed =>
    exact .fail (fails_bind.mpr (.inl failed)) (fails_bind.mpr (.inl otherFailed))

theorem mono {weaker : α → β → Prop} (first : InStep held relates step other)
    (weaken : ∀ value another, relates value another → weaker value another) :
    InStep held weaker step other := by
  intro collection memory later holds holdsLater
  cases first collection memory later holds holdsLater with
  | succeed found otherFound related left leftLater =>
    exact .succeed found otherFound (weaken _ _ related) left leftLater
  | fail failed otherFailed => exact .fail failed otherFailed

theorem get : InStep held Eq MonadState.get MonadState.get :=
  fun _ _ _ holds holdsLater =>
    .succeed (yields_get.mpr ⟨rfl, rfl⟩) (yields_get.mpr ⟨rfl, rfl⟩) rfl holds holdsLater

theorem change (change : Collection → Collection) :
    InStep held (fun _ _ => True) (modify change) (modify change) := by
  intro collection memory later holds holdsLater
  have changed (memory : Memory) :
      Yields (modify change) (collection, memory) ⟨⟩ (change collection, memory) :=
    yields_modify.mpr rfl
  exact .succeed (changed memory) (changed later) trivial holds holdsLater

theorem lift {outcome : Except Failure α} {another : Except Failure β}
    (agree : Outcome.Agree relates outcome another) :
    InStep held relates (liftM outcome) (liftM another) := by
  intro collection memory later holds holdsLater
  cases agree with
  | succeed related =>
    exact .succeed (yields_lift.mpr ⟨rfl, rfl⟩) (yields_lift.mpr ⟨rfl, rfl⟩) related
      holds holdsLater
  | fail => exact .fail (fails_lift.mpr ⟨rfl, rfl⟩) (fails_lift.mpr ⟨rfl, rfl⟩)

/-- What is looked up for the target is the same for both. -/
theorem ofTarget (rule : Target → Except Failure α) :
    InStep held Eq (do rule (← MonadState.get).target : Collect α)
      (do rule (← MonadState.get).target) := by
  refine get.bind fun collection _ equal => ?_
  rw [equal]
  exact lift (.refl _)

theorem ofRule {outcome : Except GenerationError α} {another : Except GenerationError β}
    (agree : Outcome.Agree relates outcome another) :
    InStep held relates (ofRule outcome) (ofRule another) := by
  intro collection memory later holds holdsLater
  cases agree with
  | succeed related =>
    exact .succeed (yields_ofRule.mpr ⟨rfl, rfl⟩) (yields_ofRule.mpr ⟨rfl, rfl⟩) related holds
      holdsLater
  | fail =>
    exact .fail (fails_ofRule.mpr ⟨⟨_, rfl, rfl⟩, rfl⟩) (fails_ofRule.mpr ⟨⟨_, rfl, rfl⟩, rfl⟩)

theorem resolve {step : Resolving α} {other : Resolving β}
    (agree : ∀ memory later, held memory → held later →
      Outcome.Agree relates (step.run.run memory).1 (other.run.run later).1)
    (keeps : ∀ memory, held memory → held (step.run.run memory).2)
    (keepsOther : ∀ memory, held memory → held (other.run.run memory).2) :
    InStep held relates (resolve step) (resolve other) := by
  intro collection memory later holds holdsLater
  have left := keeps memory holds
  have leftLater := keepsOther later holdsLater
  have agreed := agree memory later holds holdsLater
  rcases run : step.run.run memory with ⟨outcome, after⟩
  rcases otherRun : other.run.run later with ⟨otherOutcome, otherAfter⟩
  rw [run] at left agreed
  rw [otherRun] at leftLater agreed
  cases agreed with
  | succeed related =>
    exact .succeed (yields_resolve.mpr ⟨run, rfl⟩) (yields_resolve.mpr ⟨otherRun, rfl⟩) related left
      leftLater
  | @fail failure otherFailure =>
    have failed : Fails (Collect.resolve step) (collection, memory) failure (collection, after) :=
      fails_resolve.mpr ⟨run, rfl⟩
    have otherFailed : Fails (Collect.resolve other) (collection, later) otherFailure
        (collection, otherAfter) := fails_resolve.mpr ⟨otherRun, rfl⟩
    exact .fail failed otherFailed

theorem mapM {linked : α → β → Prop} {step : α → Collect γ} {other : β → Collect δ} {items : List α}
    {others : List β} (link : List.Forall₂ linked items others)
    (each : ∀ item ∈ items, ∀ another ∈ others, linked item another →
      InStep held relatesNext (step item) (other another)) :
    InStep held (List.Forall₂ relatesNext) (items.mapM step) (others.mapM other) := by
  induction link with
  | nil =>
    rw [List.mapM_nil, List.mapM_nil]
    exact pure .nil
  | cons first _ ih =>
    rw [List.mapM_cons, List.mapM_cons]
    refine (each _ (List.mem_cons_self ..) _ (List.mem_cons_self ..) first).bind
      fun _ _ related => ?_
    refine (ih fun item member another memberOther =>
      each item (List.mem_cons_of_mem _ member) another
      (List.mem_cons_of_mem _ memberOther)).bind fun _ _ relatedAll => ?_
    exact pure (.cons related relatedAll)

theorem mapM_eq {linked : α → β → Prop} {step : α → Collect γ} {other : β → Collect γ}
    {items : List α} {others : List β} (link : List.Forall₂ linked items others)
    (each : ∀ item ∈ items, ∀ another ∈ others, linked item another →
      InStep held Eq (step item) (other another)) :
    InStep held Eq (items.mapM step) (others.mapM other) := by
  refine (mapM link each).mono fun results anothers same => ?_
  rwa [List.forall₂_eq_eq_eq] at same

theorem forM {linked : α → β → Prop} {step : α → Collect Unit} {other : β → Collect Unit}
    {items : List α} {others : List β} (link : List.Forall₂ linked items others)
    (each : ∀ item ∈ items, ∀ another ∈ others, linked item another →
      InStep held (fun _ _ => True) (step item) (other another)) :
    InStep held (fun _ _ => True) (items.forM step) (others.forM other) := by
  induction link with
  | nil => exact pure trivial
  | cons first _ ih =>
    refine (each _ (List.mem_cons_self ..) _ (List.mem_cons_self ..) first).bind fun _ _ _ => ?_
    exact ih fun item member another memberOther =>
      each item (List.mem_cons_of_mem _ member) another
      (List.mem_cons_of_mem _ memberOther)

end InStep

variable {model : Model} {types : HostType → Prop} {visit visitArgument : HostType → Collect Unit}
  {type other : HostType}

/-- Visits to types of one identity keep pace, and come to types that are seen alike. -/
def VisitsInStep (types : HostType → Prop) (held : Memory → Prop)
    (visit : HostType → Collect Unit) :
    Prop :=
  ∀ {type other : HostType}, types type → types other → type.SameIdentity other →
    InStep held (fun _ _ => type.view = other.view) (visit type) (visit other)

theorem className_inStep (same : type.view = other.view) :
    InStep held Eq (className type) (className other) := by
  unfold className
  rw [same]
  exact .ofTarget fun target => other.view.className target

theorem typeExpr_inStep (same : type.view = other.view) :
    InStep held Eq (typeExpr type) (typeExpr other) := by
  unfold typeExpr
  rw [same]
  exact .ofTarget fun target => other.view.typeExpr target

section Parts

variable {ref : ClassRef} {bindings others : TypeBindings} (confines : Confines model types held)
  (visits : VisitsInStep types held visit) (member : types type) (memberOther : types other)

include confines visits member memberOther

theorem dependency_inStep {relates : HostType → HostType → Prop} {hint another : HostType}
    (known : HasHint model held type ref bindings hint)
    (knownOther : HasHint model held other ref others another)
    (alike : ClosesAlike model held ref bindings others relates hint another)
    (identified : ∀ closed closedOther, relates closed closedOther →
      closed.SameIdentity closedOther) :
    InStep held (fun closed closedOther => relates closed closedOther ∧
      closed.view = closedOther.view)
      (dependency model visit ref bindings hint) (dependency model visit ref others another) := by
  have agree (memory later : Memory) (holds : held memory) (holdsLater : held later) :
      Outcome.Agree (fun closed closedOther =>
          relates closed closedOther ∧ types closed ∧ types closedOther)
        ((model.close ref bindings hint).run.run memory).1
        ((model.close ref others another).run.run later).1 :=
    (alike memory later holds holdsLater).mono fun closed closedOther related closes closesOther =>
      ⟨related, confines.offered member (.part known ⟨memory, holds, closes⟩),
        confines.offered memberOther (.part knownOther ⟨later, holdsLater, closesOther⟩)⟩
  unfold dependency
  refine (InStep.resolve agree (fun _ => confines.closing member known)
    (fun _ => confines.closing memberOther knownOther)).bind
    fun closed closedOther ⟨related, inside, insideOther⟩ => ?_
  refine (visits inside insideOther (identified _ _ related)).bind fun _ _ same => ?_
  exact .pure ⟨related, same⟩

theorem field_inStep {declared another : String × HostType}
    (known : HasHint model held type ref bindings declared.2)
    (knownOther : HasHint model held other ref others another.2)
    (alike : FieldsAlike model held ref bindings others declared another) :
    InStep held Eq (field model visit ref bindings declared)
      (field model visit ref others another) := by
  unfold field
  refine (dependency_inStep confines visits member memberOther known knownOther alike.2
    fun _ _ related => related.1).bind fun closed closedOther ⟨related, same⟩ => ?_
  refine (typeExpr_inStep same).bind fun expression _ equal => .pure ?_
  rw [alike.1, related.2, equal]

theorem fields_inStep {declared anothers : List (String × HostType)}
    (known : ∀ field ∈ declared, HasHint model held type ref bindings field.2)
    (knownOther : ∀ field ∈ anothers, HasHint model held other ref others field.2)
    (alike : List.Forall₂ (FieldsAlike model held ref bindings others) declared anothers) :
    InStep held Eq (declared.mapM (field model visit ref bindings))
      (anothers.mapM (field model visit ref others)) := by
  exact InStep.mapM_eq alike fun field inside another insideOther same =>
    field_inStep confines visits member memberOther (known field inside)
      (knownOther another insideOther)
      same

theorem payload_inStep {declared : Payload}
    (known : ∀ hint ∈ declared.types, HasHint model held type ref bindings hint)
    (knownOther : ∀ hint ∈ declared.types, HasHint model held other ref others hint)
    (alike : PayloadAlike model held ref bindings others declared) :
    InStep held Eq (payload model visit ref bindings declared)
      (payload model visit ref others declared) := by
  cases declared with
  | unit => exact .pure rfl
  | tuple slots =>
    refine (InStep.mapM (List.forall₂_same.mpr alike) fun hint inside another insideOther same =>
      dependency_inStep confines visits member memberOther (known hint inside)
        (knownOther another insideOther) same fun _ _ related => related).bind
      fun closed closedOther seen => ?_
    refine (InStep.mapM_eq seen fun _ _ _ _ same => typeExpr_inStep same.2).bind
      fun expressions _ equal => .pure ?_
    rw [equal]
  | object fields =>
    refine (fields_inStep confines visits member memberOther (List.forall_mem_map.mp known)
      (List.forall_mem_map.mp knownOther) (List.forall₂_same.mpr alike)).bind
      fun collected _ equal => .pure ?_
    rw [equal]

theorem variant_inStep {declared : Variant}
    (known : ∀ hint ∈ declared.payload.types, HasHint model held type ref bindings hint)
    (knownOther : ∀ hint ∈ declared.payload.types, HasHint model held other ref others hint)
    (alike : PayloadAlike model held ref bindings others declared.payload) :
    InStep held Eq («variant» model visit ref bindings declared)
      («variant» model visit ref others declared) := by
  refine (payload_inStep confines visits member memberOther known knownOther alike).bind
    fun carried _ equal => .pure ?_
  rw [equal]

end Parts

section Visit

variable {ref : ClassRef} {args : List View} {identity : Identity}
    (confines : Confines model types held)
  (respects : Respects model types held) (visits : VisitsInStep types held visit)
    (member : types type)
  (memberOther : types other) (identified : type.view.identity = .ok identity)
  (same : type.view = other.view)

include confines respects visits member memberOther identified same

theorem record_inStep (seenAs : type.view = .record ref args) :
    InStep held Eq (record model visit ref type) (record model visit ref other) := by
  have seenAsOther : other.view = .record ref args := same ▸ seenAs
  have identifiedOther : other.view.identity = .ok identity := same ▸ identified
  unfold record
  refine (InStep.lift (bindings_agree (by rw [seenAs]; rfl) same ref)).bind
    fun bound boundOther ⟨binds, bindsOther⟩ => ?_
  have agree (memory later : Memory) (holds : held memory) (holdsLater : held later) :=
    (respects.fields member memberOther identified identifiedOther seenAs binds bindsOther
      memory later
      holds holdsLater).mono fun declared anothers alike typed typedOther =>
        (⟨alike, fun _ inside => .field seenAs binds holds typed inside,
          fun _ inside => .field seenAsOther bindsOther holdsLater typedOther inside⟩ :
          List.Forall₂ (FieldsAlike model held ref bound boundOther) declared anothers ∧
          (∀ field ∈ declared, HasHint model held type ref bound field.2) ∧
          ∀ field ∈ anothers, HasHint model held other ref boundOther field.2)
  refine (InStep.resolve agree (fun _ => confines.fields member seenAs)
    (fun _ => confines.fields memberOther seenAsOther)).bind
    fun declared anothers ⟨alike, known, knownOther⟩ => ?_
  refine (className_inStep same).bind fun className _ equal => ?_
  refine (fields_inStep confines visits member memberOther known knownOther alike).bind
    fun fields _ equalAll => .pure ?_
  rw [equal, equalAll]

theorem dataEnum_inStep (seenAs : type.view = .dataEnum ref args) :
    InStep held Eq (dataEnum model visit ref type) (dataEnum model visit ref other) := by
  have seenAsOther : other.view = .dataEnum ref args := same ▸ seenAs
  have identifiedOther : other.view.identity = .ok identity := same ▸ identified
  unfold dataEnum
  refine (InStep.lift (bindings_agree (by rw [seenAs]; rfl) same ref)).bind
    fun bound boundOther ⟨binds, bindsOther⟩ => ?_
  refine (className_inStep same).bind fun className _ equal => ?_
  have alike :=
    respects.variants member memberOther identified identifiedOther seenAs binds bindsOther
  have each : ∀ declared ∈ model.variants ref, InStep held Eq
      («variant» model visit ref bound declared) («variant» model visit ref boundOther declared) :=
    fun declared inside => variant_inStep confines visits member memberOther
      (fun _ carried => .slot seenAs binds inside carried)
      (fun _ carried => .slot seenAsOther bindsOther inside carried) (alike declared inside)
  refine (InStep.mapM_eq (List.forall₂_same.mpr each) fun _ _ _ _ kept => kept).bind
    fun variants _ equalAll => .pure ?_
  rw [equal, equalAll]

omit respects visits identified in
theorem container_inStep (visitsArgument : VisitsInStep types held visitArgument)
    (isContainer : type.view.IsContainer) :
    InStep held (fun _ _ => True) (type.parts.forM visitArgument)
      (other.parts.forM visitArgument) := by
  obtain ⟨args, kept⟩ := isContainer.exists_args
  have views := HostType.map_view_parts same kept
  have link : List.Forall₂ (fun part another => HostType.view part = another.view)
      type.parts other.parts := by
    rwa [← List.forall₂_eq_eq_eq, List.forall₂_map_left_iff, List.forall₂_map_right_iff] at views
  refine InStep.forM link fun part inside another insideOther alike => ?_
  have identified : part.SameIdentity another := by rw [HostType.SameIdentity, alike]
  exact (visitsArgument (confines.offered member (.argument isContainer inside))
    (confines.offered memberOther (.argument (same ▸ isContainer) insideOther)) identified).mono
    fun _ _ _ => trivial

theorem visitParts_inStep (visitsArgument : VisitsInStep types held visitArgument) :
    InStep held (fun _ _ => True) (visitParts model visit visitArgument type)
      (visitParts model visit visitArgument other) := by
  have container (isContainer : type.view.IsContainer) :=
    container_inStep confines member memberOther same visitsArgument isContainer
  have named : InStep held Eq (className type) (className other) := className_inStep same
  unfold visitParts
  rw [← same]
  cases seenAs : type.view with
  | refused error => exact .throw
  | primitive shown => exact .pure trivial
  | list args => exact container (seenAs ▸ trivial)
  | map args => exact container (seenAs ▸ trivial)
  | optional part => exact container (seenAs ▸ trivial)
  | box args => exact container (seenAs ▸ trivial)
  | record ref args =>
    refine (named.bind fun _ _ _ => .pure rfl).bind fun _ _ (_ : () = ()) => ?_
    refine (record_inStep confines respects visits member memberOther identified same
      seenAs).bind ?_
    rintro collected _ rfl
    exact .change _
  | enumeration ref =>
    refine named.bind ?_
    rintro className _ rfl
    exact .change _
  | dataEnum ref args =>
    refine (named.bind fun _ _ _ => .pure rfl).bind fun _ _ (_ : () = ()) => ?_
    refine (dataEnum_inStep confines respects visits member memberOther identified same
      seenAs).bind ?_
    rintro collected _ rfl
    exact .change _

end Visit

/-- Visits to types of one identity keep pace; the depth that is left carries the induction. -/
theorem addAt_inStep (apart : model.NamesApart) (confines : Confines model types held)
    (declares : ∀ {type : HostType}, types type → model.Declares type)
    (respects : Respects model types held) (depth : Nat) :
    VisitsInStep types held (addAt model depth) := by
  induction depth using Nat.strongRecOn with
  | _ depth ih =>
  intro type other member memberOther identified
  rcases depth with _ | _ | _ | depth
  · exact .throw
  · exact .throw
  · exact .throw
  rw [addAt, addAt]
  refine (InStep.ofRule (HostType.SameIdentity.agree identified)).bind ?_
  rintro identity _ ⟨rfl, known, knownOther⟩
  have same : type.view = other.view :=
    apart.view_eq (declares member) (declares memberOther) known knownOther
  split
  · have never : InStep held (fun (_ _ : PUnit) => False) (throw (.fault .tooDeep))
        (throw (.fault .tooDeep)) := .throw
    exact never.bind fun _ _ impossible => impossible.elim
  refine InStep.get.bind ?_
  rintro collection _ rfl
  split
  · exact .pure same
  refine (InStep.change _).bind fun _ _ _ => ?_
  exact (visitParts_inStep confines respects (ih depth (by omega)) member memberOther known same
    (ih (depth + 2) (by omega))).mono fun _ _ _ => same

/-- Runs over types of one identity keep pace. -/
theorem addAll_inStep (apart : model.NamesApart) {start : Memory} {roots : List HostType}
    (uniform : UniformOn model start roots types held) (member : type ∈ roots)
    (memberOther : other ∈ roots)
    (identified : type.SameIdentity other) :
    InStep held (fun _ _ => True) (addAll model [type]) (addAll model [other]) := by
  have visits : VisitsInStep types held (addAt model maxDepth) :=
    addAt_inStep apart uniform.confines uniform.declares uniform.respects maxDepth
  refine InStep.forM (.cons identified .nil) fun first inside second insideOther alike => ?_
  rw [List.mem_singleton] at inside insideOther
  subst inside insideOther
  exact (visits (uniform.roots _ member) (uniform.roots _ memberOther) alike).mono
    fun _ _ _ => trivial

end Collect

namespace Collect

/-- A list of numbers, in the native spelling. -/
def nativeInts : HostType :=
  .applied (.list .native) [.primitive .int]

/-- A list of numbers with annotations that mean nothing, in the qualified spelling. -/
def markedInts : HostType :=
  .annotated (.applied (.list .qualified) [markedInt]) [.text "m"]

/-- A type that holds the argument of a pair at several places. -/
def nestedField : HostType :=
  .applied (.map .qualified) [.primitive .str, .union .native [pairOf (.variable "K"), .noneType]]

private theorem outcome_pairOf_native : ∃ schema, schema.records ≠ [] ∧
    Schema.outcome .python (pairModelOf nestedField) .empty [pairOf nativeInts] = .ok schema :=
  ⟨_, List.cons_ne_nil _ _, rfl⟩

/-- The pair of a number with a field of its own tag. -/
def pairRecord (tag : String) : Schema.Record :=
  ⟨.ofPascal "Pair", "PairInt", [⟨.ofSnake "x", tag, .named "int"⟩]⟩

private theorem outcome_pairOf_int :
    Schema.outcome .python (pairModelOf (.variable "K")) .empty [pairOf (.primitive .int)] =
      .ok ⟨[pairRecord "x"], [], []⟩ := rfl

private theorem outcome_pairOf_renamed :
    Schema.outcome .python (pairModelOf (.variable "K")) .empty [pairOf renamedInt] =
      .ok ⟨[pairRecord "y"], [], []⟩ := rfl

end Collect

end WireModel
