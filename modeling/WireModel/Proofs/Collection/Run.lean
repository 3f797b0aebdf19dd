import WireModel.Proofs.Outcome
import WireModel.Schema.Collection

/-!
Steps of collecting, successful ones and failing ones, told apart into the steps that they are made
of. What was collected and what was built are one state here.
-/

namespace WireModel

namespace Collect

/-- The step succeeds with a value, and leaves a collection and a memory behind. -/
def Yields {α : Type} (step : Collect α) (before : Collection × Memory) (value : α)
    (after : Collection × Memory) : Prop :=
  (step.run.run before.1).run before.2 = ((.ok value, after.1), after.2)

variable {α β : Type} {before after : Collection × Memory}

theorem yields_pure {value result : α} :
    Yields (pure value) before result after ↔ result = value ∧ before = after := by
  obtain ⟨collection, memory⟩ := before
  obtain ⟨collection', memory'⟩ := after
  constructor
  · intro found
    cases found
    exact ⟨rfl, rfl⟩
  · rintro ⟨rfl, same⟩
    cases same
    rfl

private theorem run_bind (step : Collect α) (next : α → Collect β) (collection : Collection)
    (memory : Memory) :
    ((step >>= next).run.run collection).run memory =
      (match (step.run.run collection).run memory with
      | ((.ok value, collection), memory) => ((next value).run.run collection).run memory
      | ((.error failure, collection), memory) => ((.error failure, collection), memory)) := by
  simp only [ExceptT.run_bind, StateT.run_bind]
  show (match (step.run.run collection).run memory with | (_, _) => _) = _
  rcases (step.run.run collection).run memory with ⟨⟨outcome | outcome, collection⟩, memory⟩
  · rfl
  · rfl

theorem yields_bind {step : Collect α} {next : α → Collect β} {result : β} :
    Yields (step >>= next) before result after ↔
      ∃ value between, Yields step before value between ∧
        Yields (next value) between result after := by
  simp only [Yields, run_bind]
  constructor
  · intro found
    rcases first : (step.run.run before.1).run before.2 with
      ⟨⟨outcome | outcome, collection⟩, memory⟩
    · rw [first] at found
      cases found
    · rw [first] at found
      exact ⟨outcome, (collection, memory), rfl, found⟩
  · rintro ⟨value, between, first, found⟩
    rw [first]
    exact found

theorem not_yields_throw {failure : Failure} {result : α} :
    ¬ Yields (throw failure) before result after := by
  intro found
  cases found

theorem yields_get {result : Collection} :
    Yields get before result after ↔ result = before.1 ∧ before = after := by
  obtain ⟨collection, memory⟩ := before
  obtain ⟨collection', memory'⟩ := after
  constructor
  · intro found
    cases found
    exact ⟨rfl, rfl⟩
  · rintro ⟨rfl, same⟩
    cases same
    rfl

theorem yields_modify {change : Collection → Collection} {result : PUnit} :
    Yields (modify change) before result after ↔ after = (change before.1, before.2) := by
  obtain ⟨collection, memory⟩ := before
  obtain ⟨collection', memory'⟩ := after
  constructor
  · intro found
    cases found
    rfl
  · intro same
    cases same
    rfl

theorem yields_resolve {step : Resolving α} {result : α} :
    Yields (resolve step) before result after ↔
      step.run.run before.2 = (.ok result, after.2) ∧ after.1 = before.1 := by
  obtain ⟨collection, memory⟩ := before
  obtain ⟨collection', memory'⟩ := after
  show (((step.run.run memory).1, collection), (step.run.run memory).2) = _ ↔ _
  constructor
  · intro found
    obtain ⟨first, second⟩ := Prod.mk.inj found
    obtain ⟨outcome, kept⟩ := Prod.mk.inj first
    exact ⟨Prod.ext outcome second, kept.symm⟩
  · rintro ⟨found, rfl⟩
    rw [found]

theorem yields_ofRule {outcome : Except GenerationError α} {result : α} :
    Yields (ofRule outcome) before result after ↔ outcome = .ok result ∧ before = after := by
  simp only [ofRule, yields_resolve]
  rcases outcome with error | value
  · constructor
    · rintro ⟨found, -⟩
      cases (Prod.mk.inj found).1
    · rintro ⟨found, -⟩
      cases found
  · constructor
    · rintro ⟨found, kept⟩
      obtain ⟨outcome, memory⟩ := Prod.mk.inj found
      cases outcome
      exact ⟨rfl, Prod.ext kept.symm memory⟩
    · rintro ⟨found, rfl⟩
      cases found
      exact ⟨rfl, rfl⟩

theorem yields_lift {outcome : Except Failure α} {result : α} :
    Yields (liftM outcome) before result after ↔ outcome = .ok result ∧ before = after := by
  rcases outcome with failure | value
  · constructor
    · intro found
      cases found
    · rintro ⟨found, -⟩
      cases found
  · show Yields (pure value) before result after ↔ _
    rw [yields_pure]
    constructor
    · rintro ⟨rfl, rfl⟩
      exact ⟨rfl, rfl⟩
    · rintro ⟨found, rfl⟩
      cases found
      exact ⟨rfl, rfl⟩

theorem yields_discard {step : Collect α} {result : Unit} :
    Yields (discard step) before result after ↔ ∃ value, Yields step before value after := by
  show Yields (step >>= fun _ => pure ()) before result after ↔ _
  simp only [yields_bind, yields_pure, true_and]
  constructor
  · rintro ⟨value, between, found, rfl⟩
    exact ⟨value, found⟩
  · rintro ⟨value, found⟩
    exact ⟨value, after, found, rfl⟩

theorem yields_typeExpr {type : HostType} {result : TypeExpr} :
    Yields (typeExpr type) before result after ↔
      type.view.typeExpr before.1.target = .ok result ∧ before = after := by
  simp only [typeExpr, yields_bind, yields_get, yields_lift]
  constructor
  · rintro ⟨_, _, ⟨rfl, rfl⟩, found⟩
    exact found
  · intro found
    exact ⟨_, _, ⟨rfl, rfl⟩, found⟩

theorem yields_className {type : HostType} {result : String} :
    Yields (className type) before result after ↔
      type.view.className before.1.target = .ok result ∧ before = after := by
  simp only [className, yields_bind, yields_get, yields_lift]
  constructor
  · rintro ⟨_, _, ⟨rfl, rfl⟩, found⟩
    exact found
  · intro found
    exact ⟨_, _, ⟨rfl, rfl⟩, found⟩

theorem yields_mapM_typeExpr {types : List HostType} {results : List TypeExpr} :
    Yields (types.mapM typeExpr) before results after ↔
      types.mapM (fun type => type.view.typeExpr before.1.target) = .ok results ∧
        before = after := by
  induction types generalizing results with
  | nil =>
    rw [List.mapM_nil, List.mapM_nil, yields_pure, Outcome.pure_ok]
  | cons type rest ih =>
    simp only [List.mapM_cons, yields_bind, yields_pure, yields_typeExpr, Outcome.bind_ok,
      Outcome.pure_ok]
    constructor
    · rintro ⟨first, _, ⟨found, rfl⟩, others, _, remaining, rfl, rfl⟩
      obtain ⟨same, rfl⟩ := ih.mp remaining
      exact ⟨⟨first, found, others, same, rfl⟩, rfl⟩
    · rintro ⟨⟨first, found, others, same, rfl⟩, rfl⟩
      exact ⟨first, _, ⟨found, rfl⟩, others, _, ih.mpr ⟨same, rfl⟩, rfl, rfl⟩

/-- The step fails, and leaves a collection and a memory behind. -/
def Fails {α : Type} (step : Collect α) (before : Collection × Memory) (failure : Failure)
    (after : Collection × Memory) : Prop :=
  (step.run.run before.1).run before.2 = ((.error failure, after.1), after.2)

variable {failure : Failure}

/-- A step succeeds or fails. -/
theorem yields_or_fails (step : Collect α) (before : Collection × Memory) :
    (∃ value after, Yields step before value after) ∨
      ∃ failure after, Fails step before failure after := by
  rcases run : (step.run.run before.1).run before.2 with ⟨⟨failure | value, collection⟩, memory⟩
  · exact .inr ⟨failure, (collection, memory), run⟩
  · exact .inl ⟨value, (collection, memory), run⟩

/-- What follows a step that succeeds runs from where the step has led to. -/
theorem Yields.run_bind {step : Collect α} {next : α → Collect β} {value : α}
    (found : Yields step before value after) : ((step >>= next).run.run before.1).run before.2 =
      ((next value).run.run after.1).run after.2 := by
  rw [Collect.run_bind, found]

theorem Fails.run_bind {step : Collect α} {next : α → Collect β}
    (failed : Fails step before failure after) :
    ((step >>= next).run.run before.1).run before.2 = ((.error failure, after.1), after.2) := by
  rw [Collect.run_bind, failed]

theorem Yields.not_fails {step : Collect α} {value : α} {after' : Collection × Memory}
    (found : Yields step before value after) : ¬ Fails step before failure after' := by
  intro failed
  cases (Prod.mk.inj (Prod.mk.inj (found.symm.trans failed)).1).1

theorem not_fails_pure {value : α} : ¬ Fails (pure value) before failure after := by
  intro failed
  cases failed

theorem fails_bind {step : Collect α} {next : α → Collect β} :
    Fails (step >>= next) before failure after ↔
      Fails step before failure after ∨
        ∃ value between, Yields step before value between ∧
          Fails (next value) between failure after := by
  simp only [Fails, Yields, run_bind]
  rcases first : (step.run.run before.1).run before.2 with
    ⟨⟨outcome | outcome, collection⟩, memory⟩
  · constructor
    · intro failed
      cases failed
      exact .inl rfl
    · rintro (failed | ⟨_, _, found, -⟩)
      · cases failed
        rfl
      · cases found
  · constructor
    · intro failed
      exact .inr ⟨outcome, (collection, memory), rfl, failed⟩
    · rintro (failed | ⟨_, between, found, failed⟩)
      · cases failed
      · cases found
        exact failed

theorem fails_throw {thrown : Failure} :
    Fails (throw thrown : Collect α) before failure after ↔ failure = thrown ∧ before = after := by
  obtain ⟨collection, memory⟩ := before
  obtain ⟨collection', memory'⟩ := after
  constructor
  · intro failed
    cases failed
    exact ⟨rfl, rfl⟩
  · rintro ⟨rfl, same⟩
    cases same
    rfl

theorem not_fails_get : ¬ Fails get before failure after := by
  intro failed
  cases failed

theorem not_fails_modify {change : Collection → Collection} :
    ¬ Fails (modify change) before failure after := by
  intro failed
  cases failed

theorem fails_resolve {step : Resolving α} :
    Fails (resolve step) before failure after ↔
      step.run.run before.2 = (.error failure, after.2) ∧ after.1 = before.1 := by
  obtain ⟨collection, memory⟩ := before
  obtain ⟨collection', memory'⟩ := after
  show (((step.run.run memory).1, collection), (step.run.run memory).2) = _ ↔ _
  constructor
  · intro failed
    obtain ⟨first, second⟩ := Prod.mk.inj failed
    obtain ⟨outcome, kept⟩ := Prod.mk.inj first
    exact ⟨Prod.ext outcome second, kept.symm⟩
  · rintro ⟨failed, rfl⟩
    rw [failed]

theorem fails_lift {outcome : Except Failure α} :
    Fails (liftM outcome) before failure after ↔ outcome = .error failure ∧ before = after := by
  rcases outcome with other | value
  · refine fails_throw.trans ?_
    simp only [Except.error.injEq, eq_comm]
  · constructor
    · intro failed
      cases failed
    · rintro ⟨failed, -⟩
      cases failed

theorem fails_ofRule {outcome : Except GenerationError α} :
    Fails (ofRule outcome) before failure after ↔
      (∃ error, outcome = .error error ∧ failure = .generation error) ∧ before = after := by
  simp only [ofRule, fails_resolve]
  rcases outcome with error | value
  · constructor
    · rintro ⟨failed, kept⟩
      obtain ⟨outcome, memory⟩ := Prod.mk.inj failed
      cases outcome
      exact ⟨⟨error, rfl, rfl⟩, Prod.ext kept.symm memory⟩
    · rintro ⟨⟨_, same, rfl⟩, rfl⟩
      cases same
      exact ⟨rfl, rfl⟩
  · constructor
    · rintro ⟨failed, -⟩
      cases (Prod.mk.inj failed).1
    · rintro ⟨⟨_, failed, -⟩, -⟩
      cases failed

theorem fails_discard {step : Collect α} :
    Fails (discard step) before failure after ↔ Fails step before failure after := by
  show Fails (step >>= fun _ => pure ()) before failure after ↔ _
  simp only [fails_bind, not_fails_pure, and_false, exists_false, or_false]

theorem fails_typeExpr {type : HostType} :
    Fails (typeExpr type) before failure after ↔
      type.view.typeExpr before.1.target = .error failure ∧ before = after := by
  simp only [typeExpr, fails_bind, not_fails_get, yields_get, fails_lift, false_or]
  constructor
  · rintro ⟨_, _, ⟨rfl, rfl⟩, failed⟩
    exact failed
  · intro failed
    exact ⟨_, _, ⟨rfl, rfl⟩, failed⟩

theorem fails_className {type : HostType} :
    Fails (className type) before failure after ↔
      type.view.className before.1.target = .error failure ∧ before = after := by
  simp only [className, fails_bind, not_fails_get, yields_get, fails_lift, false_or]
  constructor
  · rintro ⟨_, _, ⟨rfl, rfl⟩, failed⟩
    exact failed
  · intro failed
    exact ⟨_, _, ⟨rfl, rfl⟩, failed⟩

/-- A step for each item fails at the first one for which it does. -/
theorem fails_mapM {step : α → Collect β} {items : List α} :
    Fails (items.mapM step) before failure after ↔
      ∃ done item rest results between, items = done ++ item :: rest ∧
        Yields (done.mapM step) before results between ∧
        Fails (step item) between failure after := by
  induction items generalizing before with
  | nil =>
    rw [List.mapM_nil]
    constructor
    · intro failed
      exact (not_fails_pure failed).elim
    · rintro ⟨done, item, rest, _, _, same, -, -⟩
      exact absurd same (by simp)
  | cons first others ih =>
    simp only [List.mapM_cons, fails_bind, not_fails_pure, and_false, exists_false, or_false, ih]
    constructor
    · rintro (failed | ⟨value, between, found, done, item, rest, results, later, rfl, more, failed⟩)
      · exact ⟨[], first, others, [], before, rfl, yields_pure.mpr ⟨rfl, rfl⟩, failed⟩
      · refine ⟨first :: done, item, rest, value :: results, later, rfl, ?_, failed⟩
        simp only [List.mapM_cons, yields_bind, yields_pure]
        exact ⟨value, between, found, results, later, more, rfl, rfl⟩
    · rintro ⟨done, item, rest, results, later, same, more, failed⟩
      cases done with
      | nil =>
        obtain ⟨rfl, rfl⟩ := List.cons.inj same
        rw [List.mapM_nil, yields_pure] at more
        obtain ⟨rfl, rfl⟩ := more
        exact .inl failed
      | cons head done =>
        obtain ⟨rfl, rfl⟩ := List.cons.inj same
        simp only [List.mapM_cons, yields_bind, yields_pure] at more
        obtain ⟨value, between, found, results, _, more, rfl, rfl⟩ := more
        exact .inr ⟨value, between, found, done, item, rest, results, _, rfl, more, failed⟩

theorem Fails.of_mapM_typeExpr {types : List HostType}
    (failed : Fails (types.mapM typeExpr) before failure after) :
    (∃ type ∈ types, type.view.typeExpr before.1.target = .error failure) ∧ before = after := by
  obtain ⟨done, type, rest, results, between, rfl, found, failed⟩ := fails_mapM.mp failed
  obtain ⟨-, rfl⟩ := yields_mapM_typeExpr.mp found
  obtain ⟨reason, rfl⟩ := fails_typeExpr.mp failed
  exact ⟨⟨type, by simp, reason⟩, rfl⟩

end Collect

/-- What collecting the classes of some roots comes to. -/
def Schema.outcome (target : Target) (model : Model) (start : Memory) (roots : List HostType) :
    Except Failure Schema :=
  ((Schema.ofTypes target model roots).run.run start).1

theorem Schema.outcome_eq (target : Target) (model : Model) (start : Memory)
    (roots : List HostType) :
    Schema.outcome target model start roots =
      (((Collect.addAll model roots).run.run (.empty target)).run start).1.1.map
        fun _ => (((Collect.addAll model roots).run.run (.empty target)).run start).1.2.schema :=
  rfl

namespace Collect

variable {model : Model} {target : Target} {start : Memory} {roots : List HostType}
  {after : Collection × Memory}

theorem Yields.outcome (found : Yields (addAll model roots) (.empty target, start) () after) :
    Schema.outcome target model start roots = .ok after.1.schema := by
  rw [Yields] at found
  rw [Schema.outcome_eq, found]
  rfl

theorem Fails.outcome {failure : Failure}
    (failed : Fails (addAll model roots) (.empty target, start) failure after) :
    Schema.outcome target model start roots = .error failure := by
  rw [Fails] at failed
  rw [Schema.outcome_eq, failed]
  rfl

theorem outcome_ok {schema : Schema} : Schema.outcome target model start roots = .ok schema ↔
    ∃ after, Yields (addAll model roots) (.empty target, start) () after ∧
      after.1.schema = schema := by
  constructor
  · intro succeeds
    rcases yields_or_fails (addAll model roots) (.empty target, start) with
      ⟨_, after, found⟩ | ⟨failure, after, failed⟩
    · exact ⟨after, found, Except.ok.inj (found.outcome.symm.trans succeeds)⟩
    · cases failed.outcome.symm.trans succeeds
  · rintro ⟨after, found, rfl⟩
    exact found.outcome

theorem outcome_error {failure : Failure} :
    Schema.outcome target model start roots = .error failure ↔
      ∃ after, Fails (addAll model roots) (.empty target, start) failure after := by
  constructor
  · intro fails
    rcases yields_or_fails (addAll model roots) (.empty target, start) with
      ⟨_, after, found⟩ | ⟨other, after, failed⟩
    · cases found.outcome.symm.trans fails
    · cases failed.outcome.symm.trans fails
      exact ⟨after, failed⟩
  · rintro ⟨after, failed⟩
    exact failed.outcome

end Collect

end WireModel
