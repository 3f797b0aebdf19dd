import Mathlib.Data.List.Forall2

/-!
Outcomes, told apart into those that they are made of: the results of the successful ones, and what
the others fail with.
-/

namespace WireModel

namespace Outcome

variable {ε α β : Type}

theorem bind_ok {outcome : Except ε α} {next : α → Except ε β} {result : β} :
    outcome >>= next = .ok result ↔ ∃ value, outcome = .ok value ∧ next value = .ok result := by
  rcases outcome with error | value
  · constructor
    · intro found
      cases found
    · rintro ⟨value, found, -⟩
      cases found
  · constructor
    · intro found
      exact ⟨value, rfl, found⟩
    · rintro ⟨value, found, rest⟩
      cases found
      exact rest

theorem ok_bind {value : α} {next : α → Except ε β} : (.ok value >>= next) = next value :=
  rfl

theorem pure_ok {value result : α} : (pure value : Except ε α) = .ok result ↔ result = value := by
  constructor
  · intro found
    cases found
    rfl
  · rintro rfl
    rfl

theorem ok_of_toOption {outcome : Except ε α} {value : α} (found : outcome.toOption = some value) :
    outcome = .ok value := by
  cases outcome with
  | error failure => cases found
  | ok other => rw [Option.some.inj found]

theorem not_throw_bind_ok {error : ε} {next : α → Except ε β} {result : β} :
    (throw error >>= next : Except ε β) ≠ .ok result := by
  intro found
  cases found

theorem mapM_ok {step : α → Except ε β} {items : List α} {results : List β} :
    items.mapM step = .ok results ↔
      List.Forall₂ (fun item result => step item = .ok result) items results := by
  induction items generalizing results with
  | nil =>
    rw [List.mapM_nil, pure_ok, List.forall₂_nil_left_iff]
  | cons item rest ih =>
    rw [List.mapM_cons, bind_ok, List.forall₂_cons_left_iff]
    constructor
    · rintro ⟨first, found, remaining⟩
      obtain ⟨others, same, last⟩ := bind_ok.mp remaining
      exact ⟨first, others, found, ih.mp same, pure_ok.mp last⟩
    · rintro ⟨first, others, found, same, rfl⟩
      exact ⟨first, found, bind_ok.mpr ⟨others, ih.mpr same, rfl⟩⟩

theorem mapM_map_ok {step : α → Except ε β} {γ : Type} {rows : List γ} {source : γ → α}
    {result : γ → β} (each : ∀ row ∈ rows, step (source row) = .ok (result row)) :
    (rows.map source).mapM step = .ok (rows.map result) := by
  rw [mapM_ok, List.forall₂_map_left_iff, List.forall₂_map_right_iff, List.forall₂_same]
  exact each

section States

variable {σ : Type} {step : ExceptT ε (StateM σ) α} {next : α → ExceptT ε (StateM σ) β}
  {before between after : σ}

theorem run_bind_of_error {failure : ε} (fails : step.run.run before = (.error failure, between)) :
    (step >>= next).run.run before = (.error failure, between) := by
  simp only [ExceptT.run_bind, StateT.run_bind, fails]
  rfl

theorem run_bind_of_ok {value : α} (succeeds : step.run.run before = (.ok value, between)) :
    (step >>= next).run.run before = (next value).run.run between := by
  simp only [ExceptT.run_bind, StateT.run_bind, succeeds]
  rfl

/-- A step that may fail and keeps a state succeeds if its parts do. -/
theorem run_bind_ok {result : β} :
    (step >>= next).run.run before = (.ok result, after) ↔
      ∃ value between, step.run.run before = (.ok value, between) ∧
        (next value).run.run between = (.ok result, after) := by
  rcases first : step.run.run before with ⟨failure | value, between⟩
  · rw [run_bind_of_error first]
    constructor
    · intro found
      cases found
    · rintro ⟨value, between, same, -⟩
      cases same
  · rw [run_bind_of_ok first]
    constructor
    · intro found
      exact ⟨value, between, rfl, found⟩
    · rintro ⟨other, state, same, found⟩
      cases same
      exact found

end States

theorem mapM_congr {step : α → Except ε β} {γ : Type} {other : γ → Except ε β} {items : List α}
    {others : List γ}
    (same : List.Forall₂ (fun item another => step item = other another) items others) :
    items.mapM step = others.mapM other := by
  induction same with
  | nil => rfl
  | cons first _ ih => rw [List.mapM_cons, List.mapM_cons, first, ih]

/-- Results of related items are related. -/
theorem forall₂_join {γ δ : Type} {A : α → β → Prop} {B : α → γ → Prop} {C : β → δ → Prop}
    {D : γ → δ → Prop} {items : List α} {others : List β} {results : List γ} {anothers : List δ}
    (related : List.Forall₂ A items others) (first : List.Forall₂ B items results)
    (second : List.Forall₂ C others anothers)
    (join : ∀ item ∈ items, ∀ other ∈ others, A item other → ∀ result ∈ results, B item result →
      ∀ another, C other another → D result another) : List.Forall₂ D results anothers := by
  induction related generalizing results anothers with
  | nil =>
    cases first
    cases second
    exact .nil
  | cons same _ ih =>
    cases first with
    | cons one ones =>
      cases second with
      | cons two twos =>
        refine .cons (join _ (List.mem_cons_self ..) _ (List.mem_cons_self ..) same _
          (List.mem_cons_self ..) one _ two) (ih ones twos ?_)
        exact fun item member other memberOther linked result inside => join item
          (List.mem_cons_of_mem _ member) other (List.mem_cons_of_mem _ memberOther) linked result
          (List.mem_cons_of_mem _ inside)

/-- An item of a related list is related to one of the other list. -/
theorem exists_related {R : α → β → Prop} {items : List α} {results : List β}
    (related : List.Forall₂ R items results) {item : α} (member : item ∈ items) :
    ∃ result ∈ results, R item result := by
  induction related with
  | nil => cases member
  | cons found rest ih =>
    rcases List.mem_cons.mp member with rfl | later
    · exact ⟨_, List.mem_cons_self .., found⟩
    · obtain ⟨result, inside, same⟩ := ih later
      exact ⟨result, List.mem_cons_of_mem _ inside, same⟩

/-- What holds between any two items of a list holds between the related ones. -/
theorem pairwise_related {R : α → β → Prop} {S : α → α → Prop} {T : β → β → Prop}
    (through : ∀ {x x' y y'}, R x y → R x' y' → S x x' → T y y') {items : List α}
    {results : List β} (related : List.Forall₂ R items results) (pairwise : items.Pairwise S) :
    results.Pairwise T := by
  induction related with
  | nil => exact .nil
  | cons first rest ih =>
    obtain ⟨each, others⟩ := List.pairwise_cons.mp pairwise
    refine .cons (fun result member => ?_) (ih others)
    obtain ⟨item, inside, same⟩ := exists_related rest.flip member
    exact through first same (each item inside)

/-- Items that each have a result stand beside their results in one list. -/
theorem exists_rows {R : α → β → Prop} {items : List α}
    (each : ∀ item ∈ items, ∃ result, R item result) :
    ∃ rows : List (α × β), rows.map Prod.fst = items ∧ ∀ row ∈ rows, R row.1 row.2 := by
  induction items with
  | nil => exact ⟨[], rfl, by simp⟩
  | cons item rest ih =>
    obtain ⟨result, related⟩ := each item (List.mem_cons_self ..)
    obtain ⟨rows, same, others⟩ := ih fun other member => each other (List.mem_cons_of_mem _ member)
    refine ⟨(item, result) :: rows, by rw [List.map_cons, same], ?_⟩
    intro row member
    rcases List.mem_cons.mp member with rfl | later
    · exact related
    · exact others row later

/-- Two lists whose pairs each have a result stand beside the results in one list. -/
theorem exists_rows_zip {γ : Type} {R : α × β → γ → Prop} {items : List α} {others : List β}
    (same : items.length = others.length) (each : ∀ pair ∈ items.zip others, ∃ result,
      R pair result) :
    ∃ rows : List ((α × β) × γ), rows.map (fun row => row.1.1) = items ∧
      rows.map (fun row => row.1.2) = others ∧ ∀ row ∈ rows, R row.1 row.2 := by
  obtain ⟨rows, pairs, related⟩ := exists_rows each
  refine ⟨rows, ?_, ?_, related⟩
  · rw [← List.map_fst_zip (Nat.le_of_eq same), ← pairs, List.map_map]
    rfl
  · rw [← List.map_snd_zip (Nat.le_of_eq same.symm), ← pairs, List.map_map]
    rfl

variable {allowed : ε → Prop}

/-- Whatever the outcome fails with is allowed. -/
def FailsOnly (allowed : ε → Prop) (outcome : Except ε α) : Prop :=
  ∀ error, outcome = .error error → allowed error

theorem failsOnly_ok {value : α} : FailsOnly allowed (.ok value) := by
  intro error failed
  cases failed

theorem failsOnly_error {error : ε} (isAllowed : allowed error) :
    FailsOnly allowed (.error error : Except ε α) := by
  intro other failed
  cases failed
  exact isAllowed

theorem FailsOnly.imp {other : ε → Prop} {outcome : Except ε α} (fails : FailsOnly allowed outcome)
    (weaker : ∀ error, allowed error → other error) : FailsOnly other outcome :=
  fun error failed => weaker error (fails error failed)

theorem FailsOnly.bind {outcome : Except ε α} {next : α → Except ε β}
    (first : FailsOnly allowed outcome)
    (second : ∀ value, outcome = .ok value → FailsOnly allowed (next value)) :
    FailsOnly allowed (outcome >>= next) := by
  rcases outcome with error | value
  · intro other failed
    cases failed
    exact first error rfl
  · exact second value rfl

theorem FailsOnly.mapM {step : α → Except ε β} {items : List α}
    (each : ∀ item ∈ items, FailsOnly allowed (step item)) :
    FailsOnly allowed (items.mapM step) := by
  induction items with
  | nil => exact failsOnly_ok
  | cons item rest ih =>
    rw [List.mapM_cons]
    refine (each item (List.mem_cons_self ..)).bind fun _ _ => ?_
    refine (ih fun other member => each other (List.mem_cons_of_mem _ member)).bind fun _ _ => ?_
    exact failsOnly_ok

theorem FailsOnly.forM {step : α → Except ε Unit} {items : List α}
    (each : ∀ item ∈ items, FailsOnly allowed (step item)) :
    FailsOnly allowed (items.forM step) := by
  induction items with
  | nil => exact failsOnly_ok
  | cons item rest ih =>
    rw [List.forM]
    refine (each item (List.mem_cons_self ..)).bind fun _ _ => ?_
    exact ih fun other member => each other (List.mem_cons_of_mem _ member)

theorem FailsOnly.foldlM {step : β → α → Except ε β} {items : List α}
    (each : ∀ known, ∀ item ∈ items, FailsOnly allowed (step known item)) (start : β) :
    FailsOnly allowed (items.foldlM step start) := by
  induction items generalizing start with
  | nil => exact failsOnly_ok
  | cons item rest ih =>
    rw [List.foldlM_cons]
    refine (each start item (List.mem_cons_self ..)).bind fun next _ => ?_
    exact ih (fun known other member => each known other (List.mem_cons_of_mem _ member)) next

end Outcome

end WireModel
