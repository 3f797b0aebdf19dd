import WireModel.Proofs.Collection.Walk

/-!
What collecting the parts of a class does: which types are visited for them, what follows from
those, and what stops it when it fails.
-/

namespace WireModel

variable {model : Model} {target : Target} {held : Memory → Prop}

/-- A type of a class closes to another one in a memory that is held. -/
def ClosesIn (model : Model) (held : Memory → Prop) (ref : ClassRef) (bindings : TypeBindings)
    (hint closed : HostType) : Prop :=
  ∃ memory, held memory ∧ ((model.close ref bindings hint).run.run memory).1 = .ok closed

/-- Two fields have one name, and their types are related. -/
def FieldRelates (relates : HostType → HostType → Prop) (field other : String × HostType) : Prop :=
  other.1 = field.1 ∧ relates field.2 other.2

/-- Two variants carry related types in one shape. -/
inductive Payload.Relates (relates : HostType → HostType → Prop) : Payload → Payload → Prop
  | unit : Relates relates .unit .unit
  | tuple {slots others : List HostType} :
      List.Forall₂ relates slots others → Relates relates (.tuple slots) (.tuple others)
  | object {fields others : List (String × HostType)} :
      List.Forall₂ (FieldRelates relates) fields others →
      Relates relates (.object fields) (.object others)

/-- Two variants have one name and tag, and carry related types. -/
def Variant.Relates (relates : HostType → HostType → Prop) (declared other : Variant) : Prop :=
  other.name = declared.name ∧ other.rename = declared.rename ∧
    declared.payload.Relates relates other.payload

/-- The class of a type declares a part of some type, in terms of what the type gives its type
parameters. The annotations of records are evaluated in memories that are held. -/
inductive HasHint (model : Model) (held : Memory → Prop) (type : HostType) :
    ClassRef → TypeBindings → HostType → Prop
  | field {ref : ClassRef} {args : List View} {bindings : TypeBindings} {memory : Memory}
      {fields : List (String × HostType)} {field : String × HostType} :
      type.view = .record ref args → Collect.bindings model ref type = .ok bindings →
      held memory → ((model.typedFields ref).run.run memory).1 = .ok fields → field ∈ fields →
      HasHint model held type ref bindings field.2
  | slot {ref : ClassRef} {args : List View} {bindings : TypeBindings} {declared : Variant}
      {hint : HostType} :
      type.view = .dataEnum ref args → Collect.bindings model ref type = .ok bindings →
      declared ∈ model.variants ref → hint ∈ declared.payload.types →
      HasHint model held type ref bindings hint

/-- A visit to a type may come to another one: an argument of a container, or what a part of a class
closes to. -/
inductive Offers (model : Model) (held : Memory → Prop) (type : HostType) : HostType → Prop
  | argument {part : HostType} :
      type.view.IsContainer → part ∈ type.parts → Offers model held type part
  | part {ref : ClassRef} {bindings : TypeBindings} {hint closed : HostType} :
      HasHint model held type ref bindings hint → ClosesIn model held ref bindings hint closed →
      Offers model held type closed

/-- Collecting some types comes to no other types, and leaves no other memories behind than those
that are held. -/
structure Confines (model : Model) (types : HostType → Prop) (held : Memory → Prop) : Prop where
  offered : ∀ {type part : HostType}, types type → Offers model held type part → types part
  fields : ∀ {type : HostType} {ref : ClassRef} {args : List View} {memory : Memory}, types type →
    type.view = .record ref args → held memory →
    held ((model.typedFields ref).run.run memory).2
  closing : ∀ {type : HostType} {ref : ClassRef} {bindings : TypeBindings} {hint : HostType}
    {memory : Memory}, types type → HasHint model held type ref bindings hint → held memory →
    held ((model.close ref bindings hint).run.run memory).2

/-- What a type is made of, with all types inside closed in memories that are held. -/
inductive Unfolds (model : Model) (held : Memory → Prop) (type : HostType) : Content → Prop
  | primitive {shown : Primitive} :
      type.view = .primitive shown → Unfolds model held type .primitive
  | container :
      type.view.IsContainer → Unfolds model held type (.container type.parts)
  | record {ref : ClassRef} {args : List View} {bindings : TypeBindings} {memory : Memory}
      {fields closed : List (String × HostType)} :
      type.view = .record ref args → Collect.bindings model ref type = .ok bindings →
      held memory → ((model.typedFields ref).run.run memory).1 = .ok fields →
      List.Forall₂ (FieldRelates (ClosesIn model held ref bindings)) fields closed →
      Unfolds model held type (.record ref closed)
  | enumeration {ref : ClassRef} :
      type.view = .enumeration ref → Unfolds model held type (.enumeration ref)
  | dataEnum {ref : ClassRef} {args : List View} {bindings : TypeBindings}
      {closed : List Variant} :
      type.view = .dataEnum ref args → Collect.bindings model ref type = .ok bindings →
      List.Forall₂ (Variant.Relates (ClosesIn model held ref bindings)) (model.variants ref)
        closed →
      Unfolds model held type (.dataEnum ref closed)

/-- The types that related variants carry come one from another. -/
theorem Payload.Relates.exists_source {relates : HostType → HostType → Prop}
    {declared closed : Payload} (related : declared.Relates relates closed) {part : HostType}
    (member : part ∈ closed.types) : ∃ hint ∈ declared.types, relates hint part := by
  cases related with
  | unit => cases member
  | tuple slots => exact Outcome.exists_related slots.flip member
  | object fields =>
    obtain ⟨other, inside, rfl⟩ := List.mem_map.mp member
    obtain ⟨field, found, -, same⟩ := Outcome.exists_related fields.flip inside
    exact ⟨field.2, List.mem_map_of_mem found, same⟩

/-- What a type is made of are types that a visit may come to. -/
theorem Unfolds.offers {type : HostType} {content : Content}
    (unfolds : Unfolds model held type content) {part : HostType}
    (member : part ∈ content.dependencies) : Offers model held type part := by
  cases unfolds with
  | primitive => cases member
  | container isContainer => exact .argument isContainer member
  | record seenAs bound holds typed closes =>
    obtain ⟨other, inside, rfl⟩ := List.mem_map.mp member
    obtain ⟨field, found, -, same⟩ := Outcome.exists_related closes.flip inside
    exact .part (.field seenAs bound holds typed found) same
  | enumeration => cases member
  | dataEnum seenAs bound closes =>
    obtain ⟨other, inside, carried⟩ := List.mem_flatMap.mp member
    obtain ⟨declared, found, -, -, same⟩ := Outcome.exists_related closes.flip inside
    obtain ⟨hint, known, closed⟩ := same.exists_source carried
    exact .part (.slot seenAs bound found known) closed

namespace Collect

/-- Some types are visited one after the other, for one target; in between other things may be
built. -/
inductive Visits (held : Memory → Prop) (visit : HostType → Collect Unit) :
    List HostType → Collection × Memory → Collection × Memory → Prop
  | done {state : Collection × Memory} : held state.2 → Visits held visit [] state state
  | build {types : List HostType} {collection : Collection} {memory next : Memory}
      {after : Collection × Memory} :
      Visits held visit types (collection, next) after →
      Visits held visit types (collection, memory) after
  | visit {type : HostType} {types : List HostType} {before between after : Collection × Memory} :
      held before.2 → Yields (visit type) before () between →
      between.1.target = before.1.target → Visits held visit types between after →
      Visits held visit (type :: types) before after

/-- Visits to some types keep to the memories that are held, and to the target. -/
structure Keeps (types : HostType → Prop) (held : Memory → Prop) (visit : HostType → Collect Unit) :
    Prop where
  yields : ∀ {type : HostType} {before after : Collection × Memory}, types type → held before.2 →
    Yields (visit type) before () after → held after.2 ∧ after.1.target = before.1.target
  fails : ∀ {type : HostType} {before after : Collection × Memory} {failure : Failure},
    types type → held before.2 → Fails (visit type) before failure after →
    held after.2 ∧ after.1.target = before.1.target

/-- A type stops its own visit: its class has no name, its annotations cannot be evaluated, or a
part of it cannot be closed or written. -/
inductive Stuck (model : Model) (held : Memory → Prop) (target : Target) (type : HostType)
    (failure : Failure) : Prop
  | className : ¬ type.view.IsContainer → type.view.className target = .error failure →
      Stuck model held target type failure
  | bindings {ref : ClassRef} {args : List View} :
      type.view = .record ref args ∨ type.view = .dataEnum ref args →
      bindings model ref type = .error failure → Stuck model held target type failure
  | fields {ref : ClassRef} {args : List View} {memory : Memory} :
      type.view = .record ref args → held memory →
      ((model.typedFields ref).run.run memory).1 = .error failure →
      Stuck model held target type failure
  | closing {ref : ClassRef} {bindings : TypeBindings} {hint : HostType} {memory : Memory} :
      HasHint model held type ref bindings hint → held memory →
      ((model.close ref bindings hint).run.run memory).1 = .error failure →
      Stuck model held target type failure
  | typeExpr {ref : ClassRef} {bindings : TypeBindings} {hint closed : HostType} :
      HasHint model held type ref bindings hint → ClosesIn model held ref bindings hint closed →
      closed.view.typeExpr target = .error failure → Stuck model held target type failure

/-- A visit to a type fails after some types inside were visited: by itself, or in a visit to a
further type inside. -/
inductive Breaks (model : Model) (held : Memory → Prop) (visit : HostType → Collect Unit)
    (type : HostType) (before : Collection × Memory) (failure : Failure)
    (after : Collection × Memory) : Prop
  | stuck {visited : List HostType} {between : Collection × Memory} :
      (∀ part ∈ visited, Offers model held type part) →
      Visits held visit visited before between →
      Stuck model held before.1.target type failure → after.1 = between.1 → held after.2 →
      Breaks model held visit type before failure after
  | inside {visited : List HostType} {part : HostType} {between : Collection × Memory} :
      (∀ part ∈ visited, Offers model held type part) →
      Visits held visit visited before between → Offers model held type part → held between.2 →
      Fails (visit part) between failure after →
      Breaks model held visit type before failure after

variable {visit visitArgument : HostType → Collect Unit}
    {before between after : Collection × Memory}
  {failure : Failure} {types : HostType → Prop} {type : HostType}

theorem Visits.held_after {roots : List HostType} (visits : Visits held visit roots before after) :
    held after.2 := by
  induction visits with
  | done holds => exact holds
  | build _ ih => exact ih
  | visit _ _ _ _ ih => exact ih

theorem Visits.same_target {roots : List HostType}
    (visits : Visits held visit roots before after) : after.1.target = before.1.target := by
  induction visits with
  | done _ => rfl
  | build _ ih => exact ih
  | visit _ _ kept _ ih => rw [ih, kept]

theorem Visits.append {roots others : List HostType}
    (first : Visits held visit roots before between)
    (second : Visits held visit others between after) :
    Visits held visit (roots ++ others) before after := by
  induction first with
  | done _ => exact second
  | build _ ih => exact .build (ih second)
  | visit holds found kept _ ih => exact .visit holds found kept (ih second)

/-- What is built before some visits is built in between. -/
theorem Visits.after_build {roots : List HostType} (visits : Visits held visit roots between after)
    (kept : between.1 = before.1) : Visits held visit roots before after := by
  obtain ⟨collection, memory⟩ := before
  obtain ⟨collection', memory'⟩ := between
  obtain rfl : collection' = collection := kept
  exact .build visits

theorem Breaks.following {visited : List HostType}
    (offered : ∀ part ∈ visited, Offers model held type part)
    (visits : Visits held visit visited before between)
    (breaks : Breaks model held visit type between failure after) :
    Breaks model held visit type before failure after := by
  cases breaks with
  | stuck more rest reason same holds =>
    rw [visits.same_target] at reason
    exact .stuck (List.forall_mem_append.mpr ⟨offered, more⟩) (visits.append rest) reason same holds
  | inside more rest offers holds failed =>
    exact .inside (List.forall_mem_append.mpr ⟨offered, more⟩) (visits.append rest) offers holds
      failed

theorem Breaks.keeps (keeps : Keeps types held visit) (confines : Confines model types held)
    (member : types type) (breaks : Breaks model held visit type before failure after) :
    held after.2 ∧ after.1.target = before.1.target := by
  cases breaks with
  | stuck offered visits _ same holds => exact ⟨holds, by rw [same, visits.same_target]⟩
  | inside offered visits offers holds failed =>
    obtain ⟨kept, same⟩ := keeps.fails (confines.offered member offers) holds failed
    exact ⟨kept, by rw [same, visits.same_target]⟩

/-- Items are collected one after the other: each closes to something, which the result of the step
describes, and whose types are visited. -/
theorem mapM_yields {α γ β : Type} {step : α → Collect β} (closes : α → γ → Prop)
    (rule : Target → γ → Except Failure β) (parts : γ → List HostType) {items : List α}
    {results : List β}
    (one : ∀ item ∈ items, ∀ {before after : Collection × Memory} {result : β}, held before.2 →
      Yields (step item) before result after →
      ∃ closed, closes item closed ∧ rule before.1.target closed = .ok result ∧
        Visits held visit (parts closed) before after)
    (holds : held before.2) (found : Yields (items.mapM step) before results after) :
    ∃ closed, List.Forall₂ closes items closed ∧
      closed.mapM (rule before.1.target) = .ok results ∧
      Visits held visit (closed.flatMap parts) before after := by
  induction items generalizing before results with
  | nil =>
    rw [List.mapM_nil, yields_pure] at found
    obtain ⟨rfl, rfl⟩ := found
    exact ⟨[], .nil, rfl, .done holds⟩
  | cons item rest ih =>
    simp only [List.mapM_cons, yields_bind, yields_pure] at found
    obtain ⟨first, between, head, remaining, _, tail, rfl, rfl⟩ := found
    obtain ⟨closed, same, described, visits⟩ := one item (List.mem_cons_self ..) holds head
    obtain ⟨others, sameAll, describedAll, visitsAll⟩ :=
      ih (fun other later => one other (List.mem_cons_of_mem _ later)) visits.held_after tail
    rw [visits.same_target] at describedAll
    refine ⟨closed :: others, .cons same sameAll, ?_, visits.append visitsAll⟩
    rw [Outcome.mapM_ok] at describedAll ⊢
    exact .cons described describedAll

/-- Where items are collected one after the other and one of them breaks, those before it were
visited. -/
theorem mapM_breaks {α γ β : Type} {step : α → Collect β} (closes : α → γ → Prop)
    (rule : Target → γ → Except Failure β) (parts : γ → List HostType) {items : List α}
    (one : ∀ item ∈ items, ∀ {before after : Collection × Memory} {result : β}, held before.2 →
      Yields (step item) before result after →
      ∃ closed, closes item closed ∧ rule before.1.target closed = .ok result ∧
        Visits held visit (parts closed) before after)
    (offered : ∀ item ∈ items, ∀ closed, closes item closed →
      ∀ part ∈ parts closed, Offers model held type part)
    (broken : ∀ item ∈ items, ∀ {before after : Collection × Memory}, held before.2 →
      Fails (step item) before failure after →
      Breaks model held visit type before failure after)
    (holds : held before.2) (failed : Fails (items.mapM step) before failure after) :
    Breaks model held visit type before failure after := by
  obtain ⟨done, item, rest, results, between, rfl, found, failed⟩ := fails_mapM.mp failed
  obtain ⟨closed, same, -, visits⟩ :=
    mapM_yields closes rule parts (fun other inside => one other (List.mem_append_left _ inside))
      holds found
  refine .following ?_ visits
    (broken item (List.mem_append_right _ (List.mem_cons_self ..)) visits.held_after failed)
  intro part member
  obtain ⟨other, inside, carried⟩ := List.mem_flatMap.mp member
  obtain ⟨source, known, related⟩ := Outcome.exists_related same.flip inside
  exact offered source (List.mem_append_left _ known) other related part carried

section Parts

variable {ref : ClassRef} {bindings : TypeBindings}
  (confines : Confines model types held) (keeps : Keeps types held visit) (member : types type)

include confines keeps member

theorem dependency_yields {hint closed : HostType}
    (declared : HasHint model held type ref bindings hint) (holds : held before.2)
    (found : Yields (dependency model visit ref bindings hint) before closed after) :
    ClosesIn model held ref bindings hint closed ∧ Visits held visit [closed] before after := by
  simp only [dependency, yields_bind, yields_resolve, yields_pure] at found
  obtain ⟨_, between, ⟨resolved, kept⟩, _, _, visited, rfl, rfl⟩ := found
  have closes : ClosesIn model held ref bindings hint closed := ⟨before.2, holds, by rw [resolved]⟩
  have next := confines.closing member declared holds
  rw [resolved] at next
  obtain ⟨last, same⟩ := keeps.yields (confines.offered member (.part declared closes)) next visited
  exact ⟨closes, (Visits.visit next visited same (.done last)).after_build kept⟩

omit keeps in
theorem dependency_breaks {hint : HostType} (declared : HasHint model held type ref bindings hint)
    (holds : held before.2)
    (failed : Fails (dependency model visit ref bindings hint) before failure after) :
    Breaks model held visit type before failure after := by
  simp only [dependency, fails_bind, fails_resolve, yields_resolve, not_fails_pure, and_false,
    exists_false, or_false] at failed
  have next := confines.closing member declared holds
  rcases failed with ⟨resolved, kept⟩ | ⟨closed, between, ⟨resolved, kept⟩, failed⟩
  · rw [resolved] at next
    exact .stuck (by simp) (.done holds) (.closing declared holds (by rw [resolved])) kept next
  · rw [resolved] at next
    exact .inside (by simp) ((Visits.done next).after_build kept)
      (.part declared ⟨before.2, holds, by rw [resolved]⟩) next failed

theorem field_yields {declared : String × HostType} {result : Schema.Field}
    (known : HasHint model held type ref bindings declared.2) (holds : held before.2)
    (found : Yields (field model visit ref bindings declared) before result after) :
    ∃ closed : String × HostType, FieldRelates (ClosesIn model held ref bindings) declared closed ∧
      describeField before.1.target closed = .ok result ∧
      Visits held visit [closed.2] before after := by
  simp only [field, yields_bind, yields_typeExpr, yields_pure] at found
  obtain ⟨closed, _, visited, expression, _, ⟨typed, rfl⟩, rfl, rfl⟩ := found
  obtain ⟨closes, visits⟩ := dependency_yields confines keeps member known holds visited
  refine ⟨(declared.1, closed), ⟨rfl, closes⟩, ?_, visits⟩
  rw [visits.same_target] at typed
  simp only [describeField, typed]
  rfl

theorem field_breaks {declared : String × HostType}
    (known : HasHint model held type ref bindings declared.2) (holds : held before.2)
    (failed : Fails (field model visit ref bindings declared) before failure after) :
    Breaks model held visit type before failure after := by
  simp only [field, fails_bind, fails_typeExpr, not_fails_pure, and_false, exists_false, or_false]
    at failed
  rcases failed with failed | ⟨closed, _, visited, failed, rfl⟩
  · exact dependency_breaks confines member known holds failed
  · obtain ⟨closes, visits⟩ := dependency_yields confines keeps member known holds visited
    rw [visits.same_target] at failed
    exact .stuck (by simpa using Offers.part known closes) visits
      (.typeExpr known closes failed) rfl
      visits.held_after

theorem fields_yield {declared : List (String × HostType)} {results : List Schema.Field}
    (known : ∀ field ∈ declared, HasHint model held type ref bindings field.2)
    (holds : held before.2)
    (found : Yields (declared.mapM (field model visit ref bindings)) before results after) :
    ∃ closed : List (String × HostType),
      List.Forall₂ (FieldRelates (ClosesIn model held ref bindings)) declared closed ∧
      closed.mapM (describeField before.1.target) = .ok results ∧
      Visits held visit (closed.map Prod.snd) before after := by
  rw [funext fun closed : List (String × HostType) =>
    List.map_eq_flatMap (f := Prod.snd) (l := closed)]
  exact mapM_yields _ describeField (fun closed => [closed.2])
    (fun field inside _ _ _ => field_yields confines keeps member (known field inside)) holds found

theorem fields_break {declared : List (String × HostType)}
    (known : ∀ field ∈ declared, HasHint model held type ref bindings field.2)
    (holds : held before.2)
    (failed : Fails (declared.mapM (field model visit ref bindings)) before failure after) :
    Breaks model held visit type before failure after := by
  refine mapM_breaks _ describeField (fun closed => [closed.2])
    (fun field inside _ _ _ => field_yields confines keeps member (known field inside)) ?_
    (fun field inside _ _ => field_breaks confines keeps member (known field inside)) holds failed
  intro field inside closed closes part same
  rw [List.mem_singleton.mp same]
  exact .part (known field inside) closes.2

theorem dependencies_yield {slots results : List HostType}
    (known : ∀ hint ∈ slots, HasHint model held type ref bindings hint) (holds : held before.2)
    (found : Yields (slots.mapM (dependency model visit ref bindings)) before results after) :
    List.Forall₂ (ClosesIn model held ref bindings) slots results ∧
      Visits held visit results before after := by
  obtain ⟨closed, closes, same, visits⟩ :=
    mapM_yields (ClosesIn model held ref bindings) (fun _ => Except.ok) (fun part => [part])
      (fun hint inside _ _ _ holds found =>
        let ⟨closes, visits⟩ :=
          dependency_yields confines keeps member (known hint inside) holds found
        ⟨_, closes, rfl, visits⟩) holds found
  have kept : closed = results := by
    rw [Outcome.mapM_ok] at same
    simpa only [Except.ok.injEq, List.forall₂_eq_eq_eq] using same
  subst kept
  exact ⟨closes, by simpa using visits⟩

theorem dependencies_break {slots : List HostType}
    (known : ∀ hint ∈ slots, HasHint model held type ref bindings hint) (holds : held before.2)
    (failed : Fails (slots.mapM (dependency model visit ref bindings)) before failure after) :
    Breaks model held visit type before failure after := by
  refine mapM_breaks (ClosesIn model held ref bindings) (fun _ => Except.ok) (fun part => [part])
    (fun hint inside _ _ _ holds found =>
      let ⟨closes, visits⟩ :=
        dependency_yields confines keeps member (known hint inside) holds found
      ⟨_, closes, rfl, visits⟩) ?_
    (fun hint inside _ _ => dependency_breaks confines member (known hint inside)) holds failed
  intro hint inside closed closes part same
  rw [List.mem_singleton.mp same]
  exact .part (known hint inside) closes

theorem payload_yields {declared : Payload} {result : Schema.Payload}
    (known : ∀ hint ∈ declared.types, HasHint model held type ref bindings hint)
    (holds : held before.2)
    (found : Yields (payload model visit ref bindings declared) before result after) :
    ∃ closed, declared.Relates (ClosesIn model held ref bindings) closed ∧
      describePayload before.1.target closed = .ok result ∧
      Visits held visit closed.types before after := by
  cases declared with
  | unit =>
    obtain ⟨rfl, rfl⟩ := yields_pure.mp found
    exact ⟨.unit, .unit, rfl, .done holds⟩
  | tuple slots =>
    simp only [payload, yields_bind, yields_mapM_typeExpr, yields_pure] at found
    obtain ⟨parts, _, visited, expressions, _, ⟨typed, rfl⟩, rfl, rfl⟩ := found
    obtain ⟨closes, visits⟩ := dependencies_yield confines keeps member known holds visited
    refine ⟨.tuple parts, .tuple closes, ?_, visits⟩
    rw [visits.same_target] at typed
    simp only [describePayload, typed]
    rfl
  | object fields =>
    simp only [payload, yields_bind, yields_pure] at found
    obtain ⟨collected, _, visited, rfl, rfl⟩ := found
    obtain ⟨closed, closes, described, visits⟩ :=
      fields_yield confines keeps member (List.forall_mem_map.mp known) holds visited
    refine ⟨.object closed, .object closes, ?_, visits⟩
    simp only [describePayload, described]
    rfl

theorem payload_breaks {declared : Payload}
    (known : ∀ hint ∈ declared.types, HasHint model held type ref bindings hint)
    (holds : held before.2)
    (failed : Fails (payload model visit ref bindings declared) before failure after) :
    Breaks model held visit type before failure after := by
  cases declared with
  | unit => exact (not_fails_pure failed).elim
  | tuple slots =>
    simp only [payload, fails_bind, not_fails_pure, and_false, exists_false, or_false] at failed
    rcases failed with failed | ⟨parts, _, visited, failed⟩
    · exact dependencies_break confines keeps member known holds failed
    · obtain ⟨⟨part, inside, reason⟩, rfl⟩ := failed.of_mapM_typeExpr
      obtain ⟨closes, visits⟩ := dependencies_yield confines keeps member known holds visited
      have offered : ∀ part ∈ parts, Offers model held type part := by
        intro part inside
        obtain ⟨hint, source, closed⟩ := Outcome.exists_related closes.flip inside
        exact .part (known hint source) closed
      obtain ⟨hint, source, closed⟩ := Outcome.exists_related closes.flip inside
      rw [visits.same_target] at reason
      exact .stuck offered visits (.typeExpr (known hint source) closed reason) rfl
        visits.held_after
  | object fields =>
    simp only [payload, fails_bind, not_fails_pure, and_false, exists_false, or_false] at failed
    exact fields_break confines keeps member (List.forall_mem_map.mp known) holds failed

theorem variant_yields {declared : Variant} {result : Schema.Variant}
    (known : ∀ hint ∈ declared.payload.types, HasHint model held type ref bindings hint)
    (holds : held before.2)
    (found : Yields («variant» model visit ref bindings declared) before result after) :
    ∃ closed, declared.Relates (ClosesIn model held ref bindings) closed ∧
      describeVariant before.1.target closed = .ok result ∧
      Visits held visit closed.payload.types before after := by
  simp only [«variant», yields_bind, yields_pure] at found
  obtain ⟨carried, _, visited, rfl, rfl⟩ := found
  obtain ⟨closed, closes, described, visits⟩ :=
    payload_yields confines keeps member known holds visited
  refine ⟨{ declared with payload := closed }, ⟨rfl, rfl, closes⟩, ?_, visits⟩
  simp only [describeVariant, described]
  rfl

theorem variants_yield {declared : List Variant} {results : List Schema.Variant}
    (known : ∀ found ∈ declared, ∀ hint ∈ found.payload.types,
      HasHint model held type ref bindings hint)
    (holds : held before.2)
    (found : Yields (declared.mapM («variant» model visit ref bindings)) before results after) :
    ∃ closed : List Variant,
      List.Forall₂ (Variant.Relates (ClosesIn model held ref bindings)) declared closed ∧
      closed.mapM (describeVariant before.1.target) = .ok results ∧
      Visits held visit (closed.flatMap fun found => found.payload.types) before after :=
  mapM_yields _ describeVariant _
    (fun _ inside _ _ _ => variant_yields confines keeps member (known _ inside)) holds found

theorem variants_break {declared : List Variant}
    (known : ∀ found ∈ declared, ∀ hint ∈ found.payload.types,
      HasHint model held type ref bindings hint)
    (holds : held before.2)
    (failed : Fails (declared.mapM («variant» model visit ref bindings)) before failure after) :
    Breaks model held visit type before failure after := by
  refine mapM_breaks _ describeVariant (fun found => found.payload.types)
    (fun _ inside _ _ _ => variant_yields confines keeps member (known _ inside)) ?_ ?_ holds failed
  · intro found inside closed closes part carried
    obtain ⟨hint, source, same⟩ := closes.2.2.exists_source carried
    exact .part (known found inside hint source) same
  · intro found inside before after holds failed
    simp only [«variant», fails_bind, not_fails_pure, and_false, exists_false, or_false] at failed
    exact payload_breaks confines keeps member (known found inside) holds failed

end Parts

end Collect

end WireModel
