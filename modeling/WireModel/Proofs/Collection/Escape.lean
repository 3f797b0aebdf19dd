import WireModel.Proofs.Collection.Inheritance
import WireModel.Proofs.Collection.Pairing
import WireModel.Proofs.Collection.Visit

/-!
What a failing collection tells. A broken rule of generation is told as such; what else can come out
of collecting are faults of the model itself, and each has its place: a container without its
arguments, a class that hides its type parameters, an annotation of a record that cannot be read, or
a closed part that does not fit into the brackets that it came from.
-/

namespace WireModel

/-- Whatever the step fails with is allowed. -/
def FailsOnly {ε α : Type} (allowed : ε → Prop) (step : ExceptT ε (StateM Memory) α) : Prop :=
  ∀ before failure after, step.run.run before = (.error failure, after) → allowed failure

namespace FailsOnly

variable {ε α β : Type} {allowed : ε → Prop} {step : ExceptT ε (StateM Memory) α}

theorem pure (value : α) : FailsOnly allowed (Pure.pure value) := by
  intro before failure after failed
  cases failed

theorem throw {failure : ε} (isAllowed : allowed failure) :
    FailsOnly allowed (MonadExcept.throw failure : ExceptT ε (StateM Memory) α) := by
  intro before other after failed
  cases failed
  exact isAllowed

theorem bind {next : α → ExceptT ε (StateM Memory) β} (first : FailsOnly allowed step)
    (second : ∀ value, FailsOnly allowed (next value)) : FailsOnly allowed (step >>= next) := by
  intro before failure after failed
  rcases run : step.run.run before with ⟨other | value, between⟩
  · have stops : (step >>= next).run.run before = (.error other, between) := by
      simp only [ExceptT.run_bind, StateT.run_bind, run]
      rfl
    rw [stops] at failed
    cases failed
    exact first _ _ _ run
  · have goesOn : (step >>= next).run.run before = (next value).run.run between := by
      simp only [ExceptT.run_bind, StateT.run_bind, run]
      rfl
    rw [goesOn] at failed
    exact second _ _ _ _ failed

/-- A step that may refuse before it goes on. -/
theorem refusing {condition : Prop} [Decidable condition] {failure : ε}
    {rest : PUnit → ExceptT ε (StateM Memory) α} (isAllowed : allowed failure)
    (goesOn : ∀ start, FailsOnly allowed (rest start)) :
    FailsOnly allowed (if condition then MonadExcept.throw failure >>= rest else rest ⟨⟩) := by
  split
  · exact (throw isAllowed).bind goesOn
  · exact goesOn _

/-- A step without a memory fails as it does by itself. -/
theorem lift {outcome : Except ε α} (fails : Outcome.FailsOnly allowed outcome) :
    FailsOnly allowed (liftM outcome : ExceptT ε (StateM Memory) α) := by
  intro before failure after failed
  rcases outcome with other | value
  · cases failed
    exact fails failure rfl
  · cases failed

theorem adapt {ε' : Type} {tell : ε → ε'} {wider : ε' → Prop} (fails : FailsOnly allowed step)
    (told : ∀ failure, allowed failure → wider (tell failure)) :
    FailsOnly wider (ExceptT.adapt tell step) := by
  intro before failure after failed
  have run : (ExceptT.adapt tell step).run.run before =
      ((step.run.run before).1.mapError tell, (step.run.run before).2) := rfl
  rw [run] at failed
  rcases inner : step.run.run before with ⟨other | value, between⟩
  · rw [inner] at failed
    cases failed
    exact told other (fails before other between inner)
  · rw [inner] at failed
    cases failed

theorem mapM {step : α → ExceptT ε (StateM Memory) β} {items : List α}
    (each : ∀ item ∈ items, FailsOnly allowed (step item)) :
    FailsOnly allowed (items.mapM step) := by
  induction items with
  | nil => exact pure []
  | cons item rest ih =>
    rw [List.mapM_cons]
    refine (each item (List.mem_cons_self ..)).bind fun _ => ?_
    exact (ih fun other later => each other (List.mem_cons_of_mem _ later)).bind fun _ => pure _

theorem foldlM {step : β → α → ExceptT ε (StateM Memory) β} {items : List α}
    (each : ∀ known, ∀ item ∈ items, FailsOnly allowed (step known item)) (start : β) :
    FailsOnly allowed (items.foldlM step start) := by
  induction items generalizing start with
  | nil => exact pure start
  | cons item rest ih =>
    rw [List.foldlM_cons]
    refine (each start item (List.mem_cons_self ..)).bind fun next => ?_
    exact ih (fun known other later => each known other (List.mem_cons_of_mem _ later)) next

theorem once {allowed : Fault → Prop} {construction : Construction} {make : Building HostType}
    {gives : ∀ {before type after}, make.run.run before = (.ok type, after) →
      construction.Gives type}
    (made : FailsOnly allowed make) :
    FailsOnly allowed (Building.once construction make gives) := by
  rw [Building.once]
  refine bind (fun _ _ _ failed => by cases failed) fun memory => ?_
  split
  · exact pure _
  · refine FailsOnly.bind (fun before failure after failed => ?_) fun built => ?_
    · rcases run : make.run.run before with ⟨other | value, between⟩
      · rw [Building.run_attach_error run] at failed
        cases failed
        exact made _ _ _ run
      · rw [Building.run_attach_ok run] at failed
        cases failed
    · obtain ⟨type, given⟩ := built
      dsimp only
      split
      · exact bind (fun _ _ _ failed => by cases failed) fun _ => pure _
      · exact pure _

end FailsOnly

/-- The fault is one of building a type from parts that do not fit. -/
def Fault.OfBuilding (fault : Fault) : Prop :=
  fault.kind ∈ [.wrongType, .brokenText, .missingIndex, .wrongValue, .unencodable,
    .missingAttribute,
    .missingKey]

instance : DecidablePred Fault.OfBuilding :=
  fun fault => inferInstanceAs (Decidable (fault.kind ∈ _))

theorem Fault.ofBuilding_of_kind {fault : Fault} (kind : fault.kind = .wrongType) :
    fault.OfBuilding := by
  rw [Fault.OfBuilding, kind]
  decide

theorem Expression.ofText_failsOnly (text : String) :
    Outcome.FailsOnly Fault.OfBuilding (Expression.ofText text) := by
  unfold Expression.ofText
  split
  · exact Outcome.failsOnly_error (by decide)
  next first _ _ =>
    dsimp only
    generalize (if first = '*' then "(" ++ text ++ ",)[0]" else text) = source
    split
    · exact Outcome.failsOnly_error (by simp [Fault.OfBuilding, Fault.kind])
    · split
      · exact Outcome.failsOnly_error (by decide)
      · split
        · exact Outcome.failsOnly_ok
        · exact Outcome.failsOnly_error (by simp [Fault.OfBuilding, Fault.kind])

namespace HostType

theorem converted_failsOnly (type : HostType) (allowsClassVar : Bool) :
    FailsOnly Fault.OfBuilding (type.converted allowsClassVar) := by
  unfold converted
  split
  · exact .pure _
  · refine .bind (.bind (.lift (Expression.ofText_failsOnly _)) fun _ => .pure _) fun _ => ?_
    exact .bind (fun _ _ _ failed => by cases failed) fun _ => .pure _
  · exact .pure _

theorem checkedForm_failsOnly (allowsClassVar : Bool) (expectation : Expectation)
    (type : HostType) :
    FailsOnly Fault.OfBuilding (type.checkedForm allowsClassVar expectation) := by
  refine .bind (converted_failsOnly type allowsClassVar) fun converted => ?_
  split
  · split
    · exact .pure _
    · exact .throw (Fault.ofBuilding_of_kind rfl)
  all_goals first | exact .pure _ | exact .throw (Fault.ofBuilding_of_kind rfl)

theorem checked_failsOnly (expectation : Expectation) (type : HostType) :
    FailsOnly Fault.OfBuilding (type.checked expectation) :=
  checkedForm_failsOnly false expectation type

theorem checkHashable_failsOnly (types : List HostType) :
    Outcome.FailsOnly Fault.OfBuilding (checkHashable types) := by
  unfold checkHashable
  split
  · exact Outcome.failsOnly_error (Fault.ofBuilding_of_kind rfl)
  · exact Outcome.failsOnly_ok

theorem unionOf_failsOnly (types : List HostType) (isTuple : Bool) :
    FailsOnly Fault.OfBuilding (unionOf types isTuple) := by
  refine .once ?_
  unfold freshUnion
  refine .refusing (by decide) fun _ => ?_
  refine .bind (.mapM fun type _ => checked_failsOnly .union type) fun types => ?_
  exact .bind (.lift (checkHashable_failsOnly types)) fun _ => .pure _

theorem withMetadata_failsOnly (type : HostType) (metadata : List HostType) :
    Outcome.FailsOnly Fault.OfBuilding (type.withMetadata metadata) := by
  unfold withMetadata
  split
  · exact Outcome.failsOnly_ok
  · split
    · exact Outcome.failsOnly_error (by simp [Fault.OfBuilding, Fault.kind])
    · exact Outcome.failsOnly_ok

theorem fill_failsOnly (head : Head) (target : String) (expected : Nat) (args : List HostType) :
    Outcome.FailsOnly Fault.OfBuilding (fill head target expected args) := by
  unfold fill
  split
  · exact Outcome.failsOnly_ok
  · exact Outcome.failsOnly_error (Fault.ofBuilding_of_kind rfl)

theorem ofVariables_failsOnly (args : List HostType) :
    FailsOnly Fault.OfBuilding (ofVariables args) := by
  refine .bind (.mapM fun arg _ => converted_failsOnly arg false) fun args => ?_
  refine .refusing (Fault.ofBuilding_of_kind rfl) fun _ => ?_
  refine .refusing (Fault.ofBuilding_of_kind rfl) fun _ => ?_
  exact .refusing (Fault.ofBuilding_of_kind rfl) fun _ => .pure _

theorem subscriptClass_failsOnly (ref : ClassRef) (args : List HostType) (isTuple : Bool) :
    FailsOnly Fault.OfBuilding (subscriptClass ref args isTuple) := by
  unfold subscriptClass
  split
  · exact .bind (.lift (checkHashable_failsOnly _)) fun _ =>
      .throw (by simp [Fault.OfBuilding, Fault.kind])
  · exact .throw (Fault.ofBuilding_of_kind rfl)
  · exact .pure _
  · refine .once (.bind (.mapM fun arg _ => converted_failsOnly arg false) fun args => ?_)
    exact .refusing (Fault.ofBuilding_of_kind rfl) fun _ => .lift (fill_failsOnly _ _ _ _)

theorem subscriptForm_failsOnly (type : Builtin) (args : List HostType) (isTuple : Bool) :
    FailsOnly Fault.OfBuilding (subscriptForm type args isTuple) := by
  unfold subscriptForm
  split
  · exact .bind (.mapM fun arg _ => checked_failsOnly _ arg) fun _ => .lift (fill_failsOnly _ _ _ _)
  · exact .bind (.mapM fun arg _ => checked_failsOnly _ arg) fun _ => .lift (fill_failsOnly _ _ _ _)
  · split
    · exact .bind (checked_failsOnly _ _) fun _ => unionOf_failsOnly _ _
    · exact .throw (Fault.ofBuilding_of_kind rfl)
  · split
    · exact .bind (checked_failsOnly _ _) fun _ => .pure _
    · exact .throw (Fault.ofBuilding_of_kind rfl)
  · split
    · exact .bind (checkedForm_failsOnly _ _ _) fun _ => .lift (withMetadata_failsOnly _ _)
    · exact .throw (by decide)
  · exact ofVariables_failsOnly args
  · exact .bind (.mapM fun arg _ => converted_failsOnly arg false) fun _ =>
      .lift (fill_failsOnly _ _ _ _)
  · exact .throw (Fault.ofBuilding_of_kind rfl)

theorem subscriptBuiltin_failsOnly (type : Builtin) (args : List HostType) (isTuple : Bool) :
    FailsOnly Fault.OfBuilding (subscriptBuiltin type args isTuple) := by
  unfold subscriptBuiltin
  split
  · exact unionOf_failsOnly args isTuple
  · exact .pure _
  · exact .pure _
  · split
    · exact .pure _
    · exact .throw (Fault.ofBuilding_of_kind rfl)
  · exact .throw (Fault.ofBuilding_of_kind rfl)
  · exact .once (subscriptForm_failsOnly _ args isTuple)

theorem rebuild_failsOnly (head : Head) (args : List HostType) :
    FailsOnly Fault.OfBuilding (rebuild head args) := by
  cases head with
  | list _ | map _ | builtin _ | literal => exact .pure _
  | box => exact subscriptBuiltin_failsOnly .box args _
  | classVar => exact subscriptBuiltin_failsOnly .classVarForm args _
  | generic => exact subscriptBuiltin_failsOnly .genericForm args _
  | declared ref => exact subscriptClass_failsOnly ref args _

theorem annotate_failsOnly (type : HostType) (metadata : List HostType) :
    FailsOnly Fault.OfBuilding (type.annotate metadata) :=
  subscriptBuiltin_failsOnly .annotatedForm (type :: metadata) true

section Closing

variable {allowed : Failure → Prop} {onText : String → Resolving HostType} {owner : ClassRef}
  {bindings : TypeBindings}

private theorem lift_failsOnly (building : ∀ fault : Fault, fault.OfBuilding →
      allowed (.fault fault)) {step : Building HostType} (fails : FailsOnly Fault.OfBuilding step) :
    FailsOnly allowed (liftM step : Resolving HostType) :=
  fails.adapt building

mutual

/-- A type whose string annotations fail only as is allowed is closed with failures that are
allowed, if type variables without a type and parts that do not fit are among these. -/
theorem closeWith_failsOnly (texts : ∀ text, FailsOnly allowed (onText text))
    (rules : ∀ error, allowed (.generation error))
    (building : ∀ fault : Fault, fault.OfBuilding → allowed (.fault fault)) (type : HostType) :
    FailsOnly allowed (type.closeWith onText owner bindings) := by
  cases type with
  | text expression => exact texts expression
  | reference serial expression => exact texts expression
  | «variable» name =>
    simp only [closeWith]
    split
    · exact .pure _
    · exact .throw (rules _)
  | applied head args =>
    rcases args with _ | ⟨arg, rest⟩
    · exact .pure _
    · exact .bind (closeAllWith_failsOnly texts rules building (arg :: rest)) fun args =>
        lift_failsOnly building (rebuild_failsOnly head args)
  | union spelling members =>
    exact .bind (closeAllWith_failsOnly texts rules building members) fun members =>
      lift_failsOnly building (unionOf_failsOnly members true)
  | annotated base metadata =>
    exact .bind (closeWith_failsOnly texts rules building base) fun base =>
      lift_failsOnly building (annotate_failsOnly base metadata)
  | primitive _ | declared _ | builtin _ | noneType | none | initVar _ | constant _ | container _ _
  | record _ _ | bound _ _ _ => exact .pure _

theorem closeAllWith_failsOnly (texts : ∀ text, FailsOnly allowed (onText text))
    (rules : ∀ error, allowed (.generation error))
    (building : ∀ fault : Fault, fault.OfBuilding → allowed (.fault fault))
    (types : List HostType) :
    FailsOnly allowed (closeAllWith onText owner bindings types) := by
  cases types with
  | nil => exact .pure _
  | cons type rest =>
    exact .bind (closeWith_failsOnly texts rules building type) fun _ =>
      .bind (closeAllWith_failsOnly texts rules building rest) fun _ => .pure _

end

end Closing

end HostType

/-- A fault that this failure tells of is one of those. -/
def Failure.Tells (allowed : Fault → Prop) (failure : Failure) : Prop :=
  ∀ fault, failure = .fault fault → allowed fault

theorem Failure.tells_generation {allowed : Fault → Prop} (error : GenerationError) :
    (Failure.generation error).Tells allowed := by
  intro fault told
  cases told

theorem Failure.tells_fault {allowed : Fault → Prop} {fault : Fault} (isAllowed : allowed fault) :
    (Failure.fault fault).Tells allowed := by
  intro other told
  cases told
  exact isAllowed

namespace Model

variable {model : Model} {ref : ClassRef}

/-- A closed type has no end, or parts of it do not fit into what they stand in. -/
theorem closeAt_failsOnly (owner : ClassRef) (bindings : TypeBindings) (fuel : Nat)
    (type : HostType) :
    FailsOnly (Failure.Tells fun fault => fault = .tooDeep ∨ fault.OfBuilding)
      (model.closeAt owner bindings fuel type) := by
  have building (fault : Fault) (built : fault.OfBuilding) :
      (Failure.fault fault).Tells fun fault => fault = .tooDeep ∨ fault.OfBuilding :=
    Failure.tells_fault (.inr built)
  induction fuel generalizing type with
  | zero =>
    exact HostType.closeWith_failsOnly (fun _ => .throw (Failure.tells_fault (.inl rfl)))
      Failure.tells_generation building type
  | succ fuel ih =>
    refine HostType.closeWith_failsOnly (fun text => ?_) Failure.tells_generation building type
    have evaluates (text : String) : FailsOnly (fun _ => True)
        ((⟨model, owner.module, some owner, none⟩ : Scope).run
          ((⟨model, owner.module, some owner, none⟩ : Scope).typeOfText text false)) :=
      fun _ _ _ _ => trivial
    exact .bind ((evaluates text).adapt fun _ _ => Failure.tells_generation _) ih

/-- An annotation of a record or of an ancestor of it cannot be read, for some reason. -/
def Unreadable (model : Model) (ref : ClassRef) (fault : Fault) : Prop :=
  ∃ origin ∈ model.declarations ref, ∃ field ∈ origin.annotations.getD [], ∃ locals before after,
    (((model.scopeOf origin).fieldType field.2).run locals).run.run before = (.error fault, after)

private theorem mapM_unreadable {origin : ClassDecl} (member : origin ∈ model.declarations ref)
    {fields : List (String × HostType)} (inside : ∀ field ∈ fields,
      field ∈ origin.annotations.getD [])
    (locals : Locals) : FailsOnly (model.Unreadable ref)
      ((fields.mapM fun field => do
        return (field.1, ← (model.scopeOf origin).fieldType field.2) :
          Evaluation (List (String × HostType))).run locals) := by
  induction fields generalizing locals with
  | nil => exact .pure _
  | cons field rest ih =>
    obtain ⟨first, others⟩ := List.forall_mem_cons.mp inside
    rw [List.mapM_cons, StateT.run_bind]
    have read : FailsOnly (model.Unreadable ref)
        (((model.scopeOf origin).fieldType field.2).run locals) :=
      fun before fault after failed => ⟨origin, member, field, first, locals, before, after, failed⟩
    refine .bind ?_ fun typed => ?_
    · rw [StateT.run_bind]
      exact .bind read fun _ => .pure _
    · rw [StateT.run_bind]
      exact .bind (ih others typed.2) fun _ => .pure _

theorem fieldTypes_failsOnly : FailsOnly (model.Unreadable ref) (model.fieldTypes ref) := by
  rw [fieldTypes_eq]
  refine .foldlM (fun known origin member => .bind ?_ fun own => .pure _) []
  have each (locals : Locals) : FailsOnly (model.Unreadable ref)
      (((origin.annotations.getD []).mapM fun field => do
        return (field.1, ← (model.scopeOf origin).fieldType field.2) :
          Evaluation (List (String × HostType))).run locals) :=
    mapM_unreadable (List.mem_reverse.mp member) (fun _ inside => inside) locals
  refine .bind (fun _ _ _ failed => by cases failed) fun locals => ?_
  exact .bind (each locals) fun _ => .pure _

/-- What cannot be read for a name that is not known, or a type that is wrong, is told as a rule of
generation. -/
theorem typedFields_failsOnly :
    FailsOnly (Failure.Tells fun fault =>
      model.Unreadable ref fault ∧ fault.kind ≠ .unknownName ∧ fault.kind ≠ .wrongType)
      (model.typedFields ref) := by
  refine .bind (fieldTypes_failsOnly.adapt fun fault unreadable => ?_) fun _ => .pure _
  split
  · exact Failure.tells_generation _
  · exact Failure.tells_generation _
  next named typed => exact Failure.tells_fault ⟨unreadable, named, typed⟩

end Model

namespace View

/-- What stands in the brackets of a type. -/
def args : View → List View
  | .list args | .map args | .box args | .record _ args | .dataEnum _ args => args
  | .optional type => [type]
  | .refused _ | .primitive _ | .enumeration _ => []

/-- How many arguments a container needs. -/
def needed : View → Nat
  | .list _ | .box _ => 1
  | .map _ => 2
  | _ => 0

/-- A container stands without its arguments, as the type itself or inside it. -/
inductive Lacks : View → Prop
  | bare {view : View} : view.args.length < view.needed → Lacks view
  | inside {view part : View} : part ∈ view.args → Lacks part → Lacks view

/-- If this failure tells of a fault, it is that of a container without its arguments, and one of
these types holds such a container. -/
def Wanting (views : List View) (failure : Failure) : Prop :=
  failure.Tells fun fault => fault = .missingArgument ∧ ∃ view ∈ views, view.Lacks

variable {target : Target} {view : View} {views : List View} {failure : Failure}

theorem Wanting.inside (wanting : Wanting views failure)
    (among : ∀ part ∈ views, part ∈ view.args) :
    Wanting [view] failure := by
  intro fault told
  obtain ⟨rfl, part, member, lacks⟩ := wanting fault told
  exact ⟨rfl, view, List.mem_singleton_self _, .inside (among part member) lacks⟩

theorem Wanting.among {others : List View} (wanting : Wanting views failure)
    (among : ∀ view ∈ views, view ∈ others) : Wanting others failure := by
  intro fault told
  obtain ⟨rfl, view, member, lacks⟩ := wanting fault told
  exact ⟨rfl, view, among view member, lacks⟩

private theorem failsOnly_refusal {α : Type} (error : GenerationError) :
    Outcome.FailsOnly (Wanting views) (refusal error : Except Failure α) :=
  Outcome.failsOnly_error (Failure.tells_generation error)

private theorem failsOnly_lacking {α : Type} (bare : view.args.length < view.needed) :
    Outcome.FailsOnly (Wanting [view]) (lacking : Except Failure α) :=
  Outcome.failsOnly_error (Failure.tells_fault ⟨rfl, view, List.mem_singleton_self _, .bare bare⟩)

/-- What fails for some arguments fails for the type around them. -/
private theorem failsOnly_inside {α : Type} (view : View) {outcome : Except Failure α}
    (fails : Outcome.FailsOnly (Wanting views) outcome) (among : ∀ part ∈ views, part ∈ view.args) :
    Outcome.FailsOnly (Wanting [view]) outcome :=
  fails.imp fun _ wanting => wanting.inside among

private theorem failsOnly_part {α : Type} (view : View) {part : View} {outcome : Except Failure α}
    (fails : Outcome.FailsOnly (Wanting [part]) outcome) (member : part ∈ view.args) :
    Outcome.FailsOnly (Wanting [view]) outcome :=
  failsOnly_inside view fails (List.forall_mem_singleton.mpr member)

section Containers

-- Names and type expressions are written alike: a container from what is written for its arguments.
variable {α β : Type} {first second : Except Failure α}

private theorem failsOnly_list {item : View} {rest : List View} {make : α → β}
    (fails : Outcome.FailsOnly (Wanting [item]) first) :
    Outcome.FailsOnly (Wanting [.list (item :: rest)]) (do return make (← first)) :=
  .bind (failsOnly_part _ fails (List.mem_cons_self ..)) fun _ _ => Outcome.failsOnly_ok

private theorem failsOnly_key {key : View} (fails : Outcome.FailsOnly (Wanting [key]) first) :
    Outcome.FailsOnly (Wanting [.map [key]]) (discard first >>= fun _ =>
      (lacking : Except Failure β)) := by
  have inside := failsOnly_part (.map [key]) fails (List.mem_cons_self ..)
  exact (inside.bind fun _ _ => Outcome.failsOnly_ok).bind fun _ _ =>
    failsOnly_lacking (Nat.lt_add_one 1)

private theorem failsOnly_map {key value : View} {rest : List View} {make : α → α → β}
    (failsFirst : Outcome.FailsOnly (Wanting [key]) first)
    (failsSecond : Outcome.FailsOnly (Wanting [value]) second) :
    Outcome.FailsOnly (Wanting [.map (key :: value :: rest)]) (do
      let written ← first
      return make written (← second)) := by
  have inside := failsOnly_part (.map (key :: value :: rest)) failsFirst (List.mem_cons_self ..)
  have behind := failsOnly_part (.map (key :: value :: rest)) failsSecond (by simp [args])
  exact inside.bind fun _ _ => behind.bind fun _ _ => Outcome.failsOnly_ok

end Containers

mutual

theorem fragment_failsOnly (view : View) :
    Outcome.FailsOnly (Wanting [view]) (view.fragment target) := by
  cases view with
  | refused error => exact failsOnly_refusal error
  | primitive _ | enumeration _ => exact Outcome.failsOnly_ok
  | list args =>
    rcases args with _ | ⟨item, rest⟩
    · exact failsOnly_lacking (by decide)
    · exact failsOnly_list (fragment_failsOnly item)
  | map args =>
    rcases args with _ | ⟨key, _ | ⟨value, rest⟩⟩
    · exact failsOnly_lacking (by decide)
    · exact failsOnly_key (fragment_failsOnly key)
    · exact failsOnly_map (fragment_failsOnly key) (fragment_failsOnly value)
  | optional type => exact failsOnly_part _ (fragment_failsOnly type) (List.mem_singleton_self _)
  | box args =>
    rcases args with _ | ⟨type, rest⟩
    · exact failsOnly_lacking (by decide)
    · exact failsOnly_part _ (fragment_failsOnly type) (List.mem_cons_self ..)
  | record ref args | dataEnum ref args =>
    exact .bind (failsOnly_inside _ (fragments_failsOnly args) fun _ member => member)
      fun _ _ => Outcome.failsOnly_ok

theorem fragments_failsOnly (views : List View) :
    Outcome.FailsOnly (Wanting views) (fragments target views) := by
  cases views with
  | nil => exact Outcome.failsOnly_ok
  | cons view rest =>
    have first : Outcome.FailsOnly (Wanting (view :: rest)) (view.fragment target) :=
      (fragment_failsOnly view).imp fun _ wanting => wanting.among (by simp)
    have others : Outcome.FailsOnly (Wanting (view :: rest)) (fragments target rest) :=
      (fragments_failsOnly rest).imp fun _ wanting =>
        wanting.among fun _ member => List.mem_cons_of_mem _ member
    exact first.bind fun _ _ => others.bind fun _ _ => Outcome.failsOnly_ok

end

theorem className_failsOnly (view : View) :
    Outcome.FailsOnly (Wanting [view]) (view.className target) := by
  have arguments {word : String} {parts : List View} (among : ∀ part ∈ parts, part ∈ view.args) :
      Outcome.FailsOnly (Wanting [view]) (do return word ++ (← fragments target parts)) :=
    (failsOnly_inside view (fragments_failsOnly parts) among).bind fun _ _ => Outcome.failsOnly_ok
  cases view with
  | refused error => exact failsOnly_refusal error
  | primitive _ | enumeration _ => exact Outcome.failsOnly_ok
  | list _ | map _ | box _ | record _ _ | dataEnum _ _ => exact arguments fun _ member => member
  | optional type => exact arguments fun _ member => member

theorem typeExpr_failsOnly (view : View) :
    Outcome.FailsOnly (Wanting [view]) (view.typeExpr target) := by
  cases view with
  | refused error => exact failsOnly_refusal error
  | primitive _ | enumeration _ => exact Outcome.failsOnly_ok
  | list args =>
    rcases args with _ | ⟨item, rest⟩
    · exact failsOnly_lacking (by decide)
    · exact failsOnly_list (typeExpr_failsOnly item)
  | map args =>
    rcases args with _ | ⟨key, _ | ⟨value, rest⟩⟩
    · exact failsOnly_lacking (by decide)
    · exact failsOnly_key (typeExpr_failsOnly key)
    · exact failsOnly_map (typeExpr_failsOnly key) (typeExpr_failsOnly value)
  | optional type => exact failsOnly_part _ (typeExpr_failsOnly type) (List.mem_singleton_self _)
  | box args =>
    rcases args with _ | ⟨type, rest⟩
    · exact failsOnly_lacking (by decide)
    · exact failsOnly_part _ (typeExpr_failsOnly type) (List.mem_cons_self ..)
  | record ref args | dataEnum ref args =>
    exact .bind (failsOnly_inside _ (fragments_failsOnly args) fun _ member => member)
      fun _ _ => Outcome.failsOnly_ok

end View

namespace Collect

variable {model : Model} {target : Target} {start : Memory} {roots : List HostType}
    {type : HostType}
  {fault : Fault}

/-- Collecting some roots meets a type: a root, or what a visit to such a type may come to. -/
inductive Meets (model : Model) (start : Memory) (roots : List HostType) : HostType → Prop
  | root {type : HostType} : type ∈ roots → Meets model start roots type
  | offered {type part : HostType} :
      Meets model start roots type → Offers model (Arises model start) type part →
      Meets model start roots part

theorem confines_meets (model : Model) (start : Memory) (roots : List HostType) :
    Confines model (Meets model start roots) (Arises model start) where
  offered met offers := .offered met offers
  fields _ _ arises := .fields _ arises
  closing _ _ arises := .close _ _ _ arises

/-- A fault that a type stops collecting with, and the place that it comes from. -/
inductive Escapes (model : Model) (start : Memory) (type : HostType) : Fault → Prop
  /-- The name of the class needs the argument of a container. -/
  | unnamed : type.view.Lacks → Escapes model start type .missingArgument
  /-- The class has something else under the name of its type parameters. -/
  | parameters {ref : ClassRef} {args : List View} :
      type.view = .record ref args ∨ type.view = .dataEnum ref args →
        hidesParameters model ref = true →
      Escapes model start type (.operation .wrongType "object of type 'VariantDecl' has no len()")
  /-- An annotation of the record cannot be read, and not for an unknown name or a wrong type. -/
  | unread {ref : ClassRef} {args : List View} {fault : Fault} :
      type.view = .record ref args → model.Unreadable ref fault → fault.kind ≠ .unknownName →
      fault.kind ≠ .wrongType → Escapes model start type fault
  /-- The closed parts of a field or a slot do not fit into what they stand in. -/
  | closing {ref : ClassRef} {bindings : TypeBindings} {hint : HostType} {memory : Memory}
    {fault : Fault} :
      HasHint model (Arises model start) type ref bindings hint → Arises model start memory →
      ((model.close ref bindings hint).run.run memory).1 = .error (.fault fault) →
        fault.OfBuilding →
      Escapes model start type fault
  /-- A field or a slot is written as a container, or with one inside, that lacks an argument. -/
  | written {ref : ClassRef} {bindings : TypeBindings} {hint closed : HostType} :
      HasHint model (Arises model start) type ref bindings hint →
      ClosesIn model (Arises model start) ref bindings hint closed → closed.view.Lacks →
      Escapes model start type .missingArgument

theorem bindings_fault {ref : ClassRef} (failed : bindings model ref type = .error (.fault fault)) :
    hidesParameters model ref = true ∧
      fault = .operation .wrongType "object of type 'VariantDecl' has no len()" := by
  unfold bindings at failed
  dsimp only at failed
  split at failed
  next hides =>
    cases failed
    exact ⟨hides, rfl⟩
  · split at failed
    · cases failed
    · cases failed

theorem Stuck.escapes (stuck : Stuck model (Arises model start) target type (.fault fault)) :
    fault = .tooDeep ∨ Escapes model start type fault := by
  cases stuck with
  | className _ unnamed =>
    obtain ⟨rfl, view, same, lacks⟩ := View.className_failsOnly type.view _ unnamed fault rfl
    rw [List.mem_singleton.mp same] at lacks
    exact .inr (.unnamed lacks)
  | bindings seenAs unbound =>
    obtain ⟨hides, rfl⟩ := bindings_fault unbound
    exact .inr (.parameters seenAs hides)
  | @fields ref args memory seenAs _ unread =>
    obtain ⟨unreadable, named, typed⟩ :=
      Model.typedFields_failsOnly memory _ _ (Prod.ext unread rfl) fault rfl
    exact .inr (.unread seenAs unreadable named typed)
  | @closing ref bindings hint memory known arises unclosed =>
    have told :=
      model.closeAt_failsOnly ref bindings 4 hint memory _ _ (Prod.ext unclosed rfl) fault rfl
    exact told.imp_right (.closing known arises unclosed)
  | @typeExpr ref bindings hint closed known closes unwritten =>
    obtain ⟨rfl, view, same, lacks⟩ := View.typeExpr_failsOnly closed.view _ unwritten fault rfl
    rw [List.mem_singleton.mp same] at lacks
    exact .inr (.written known closes lacks)

/-- A visit that fails with a fault fails at a type that is met; the depth that is left carries the
induction. -/
theorem addAt_escapes (depth : Nat) {before after : Collection × Memory}
    (met : Meets model start roots type) (arises : Arises model start before.2)
    (failed : Fails (addAt model depth type) before (.fault fault) after) :
    fault = .tooDeep ∨ ∃ part, Meets model start roots part ∧ Escapes model start part fault := by
  induction depth using Nat.strongRecOn generalizing type before after with
  | _ depth ih =>
  cases addAt_refused (confines_meets model start roots) met arises failed with
  | tooDeep => exact .inl rfl
  | inside _ _ shallower breaks =>
    cases breaks with
    | stuck _ _ stuck => exact stuck.escapes.imp_right fun escapes => ⟨type, met, escapes⟩
    | inside _ _ offers holds failed => exact ih _ shallower (.offered met offers) holds failed

end Collect

namespace Collect

def bareRef : ClassRef where
  serial := 0
  module := "models"
  qualifiedName := "Bare"
  name := "Bare"
  category := .record
  parameters := []
  brackets := .parameters

/-- A record with a field that is a list of nothing in particular. -/
def bareClass : ClassDecl where
  ref := bareRef
  bases := []
  parents := []
  ancestry := [.declared bareRef, .language "object"]
  annotations := some [("x", .builtin .listForm)]
  entries := some [⟨"x", .field, .builtin .listForm, none⟩]
  memberNames := []
  members := []
  variants := []

def bareModel : Model where
  classes := [bareClass]
  bindings := [⟨"models", "Bare", bareRef⟩]
  typeVariables := []

theorem outcome_bare :
    Schema.outcome .python bareModel .empty [.declared bareRef] =
      .error (.fault .missingArgument) := by
  rw [Schema.outcome, Schema.ofTypes_eq_paired (by decide +kernel)]
  rfl

end Collect

end WireModel
