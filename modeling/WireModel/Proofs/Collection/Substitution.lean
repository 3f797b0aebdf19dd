import WireModel.Proofs.Collection.Building
import WireModel.Proofs.Search

/-!
Closing a hint is simultaneous substitution: its string annotations are evaluated, and all its type
variables are replaced by the types that they stand for. What comes out has neither, at whatever
depth, and closing it again changes nothing if all lists and maps are in the native spelling.
-/

namespace WireModel

namespace HostType

def expression? : HostType → Option String
  | .text expression | .reference _ expression => some expression
  | _ => Option.none

theorem expression?_of_isAtom {type : HostType} (isAtom : type.isAtom = true) :
    type.expression? = Option.none := by
  cases type <;> first | rfl | cases isAtom

section Again

variable {onText : String → Resolving HostType} {owner : ClassRef} {bindings : TypeBindings}

theorem adapt_error {ε ε' α : Type} {tell : ε → ε'} {step : ExceptT ε (StateM Memory) α}
    {before after : Memory} {failure : ε'}
    (run : (ExceptT.adapt tell step).run.run before = (.error failure, after)) :
    ∃ inner, failure = tell inner := by
  have told : (ExceptT.adapt tell step).run.run before =
      ((step.run.run before).1.mapError tell, (step.run.run before).2) := rfl
  rw [told] at run
  generalize step.run.run before = outcome at run
  rcases outcome with ⟨inner | value, memory⟩
  · cases run
    exact ⟨inner, rfl⟩
  · cases run

theorem run_lift {step : Building HostType} {before after : Memory}
    {outcome : Except Fault HostType} (run : step.run.run before = (outcome, after)) :
    (liftM step : Resolving HostType).run.run before = (outcome.mapError .fault, after) := by
  have unfolded : (liftM step : Resolving HostType).run.run before =
      ((step.run.run before).1.mapError .fault, (step.run.run before).2) := rfl
  rw [unfolded, run]

mutual

/-- A closed type closes to what is built again of its parts, whatever the owner and the bindings,
unless a union in it has a member that cannot stand in a set. -/
theorem closeWith_closed (type : HostType) (closed : type.isClosed = true)
    (hashable : type.hasHashableUnions = true) (before : Memory) :
    ∃ made after, (type.closeWith onText owner bindings).run.run before = (.ok made, after) ∧
      made.Renders type.respelled := by
  cases type with
  | applied head args =>
    obtain ⟨takes, parts⟩ := Bool.and_eq_true_iff.mp closed
    rcases args with _ | ⟨arg, rest⟩
    · exact ⟨_, before, rfl, .refl closed⟩
    · obtain ⟨given, between, run, renders⟩ :=
        closeAllWith_closed (arg :: rest) parts hashable before
      have count : given.length = (arg :: rest).length :=
        renders.length_eq.trans respelledAll_length
      rw [← count] at takes
      obtain ⟨made, after, built, rendered, -⟩ := rebuild_renders renders takes between
      refine ⟨made, after, ?_, rendered⟩
      rw [closeWith, Outcome.run_bind_of_ok run, run_lift built]
      · rfl
      · simp
  | union spelling members =>
    rw [isClosed, Bool.and_eq_true, Bool.and_eq_true] at closed
    obtain ⟨⟨some, -⟩, parts⟩ := closed
    have all : unhashableIn? members = Option.none := Option.isNone_iff_eq_none.mp hashable
    have inside := haveHashableUnions_of_hashable members all
    obtain ⟨given, between, run, renders⟩ := closeAllWith_closed members parts inside before
    have nonempty : given ≠ [] := by
      rintro rfl
      have count := renders.length_eq.trans respelledAll_length
      rw [List.length_eq_zero_iff.mp count.symm] at some
      cases some
    rcases unionOf_renders renders nonempty between with
      ⟨made, after, built, rendered, -⟩ | ⟨_, _, _, refused⟩
    · refine ⟨made, after, ?_, rendered⟩
      rw [closeWith, Outcome.run_bind_of_ok run, run_lift built]
      rfl
    · exact absurd (unhashableIn?_eq_none.mp (respelledAll_hashable members all)) refused
  | annotated base metadata =>
    rw [isClosed, Bool.and_eq_true, Bool.and_eq_true] at closed
    obtain ⟨⟨inside, -⟩, some⟩ := closed
    obtain ⟨given, between, run, renders⟩ := closeWith_closed base inside hashable before
    have nonempty : metadata ≠ [] := by
      rintro rfl
      cases some
    obtain ⟨made, after, built, rendered, -⟩ := annotate_renders renders nonempty between
    refine ⟨made, after, ?_, rendered⟩
    rw [closeWith, Outcome.run_bind_of_ok run, run_lift built]
    rfl
  | _ => first | exact ⟨_, before, rfl, .refl closed⟩ | cases closed

theorem closeAllWith_closed (types : List HostType) (closed : areClosed types = true)
    (hashable : haveHashableUnions types = true) (before : Memory) :
    ∃ made after, (closeAllWith onText owner bindings types).run.run before = (.ok made, after) ∧
      List.Forall₂ Renders made (respelledAll types) := by
  cases types with
  | nil => exact ⟨[], before, rfl, .nil⟩
  | cons type rest =>
    obtain ⟨here, later⟩ := Bool.and_eq_true_iff.mp closed
    obtain ⟨first, others⟩ := Bool.and_eq_true_iff.mp hashable
    obtain ⟨made, between, run, renders⟩ := closeWith_closed type here first before
    obtain ⟨behind, after, runs, all⟩ := closeAllWith_closed rest later others between
    refine ⟨made :: behind, after, ?_, .cons renders all⟩
    rw [closeAllWith, Outcome.run_bind_of_ok run, Outcome.run_bind_of_ok runs]
    rfl

end

end Again

end HostType

namespace Model

open HostType

section Relations

variable (model : Model) (owner : ClassRef) (bindings : TypeBindings)

/-- A string annotation of a class is evaluated to a type. -/
def Evaluates (expression : String) (type : HostType) : Prop :=
  ∃ before after, (model.evaluate owner expression).run.run before = (.ok type, after)

/-- The type is what a hint comes to where nothing was built before: all string annotations in it
are evaluated and all type variables replaced at once, and the whole is built of its parts. -/
inductive Closes : HostType → HostType → Prop
  | text {type value closed : HostType} {expression : String} : type.expression? = some expression →
    model.Evaluates owner expression value → Closes value closed → Closes type closed
  | parameter {name : String} {image : HostType} : bindings.lookup name = some image →
    Closes (.variable name) image
  | atom {type : HostType} : type.isAtom = true → Closes type type
  | bare (head : Head) : Closes (.applied head []) (.applied head [])
  | applied {head : Head} {args parts : List HostType} :
    args ≠ [] → List.Forall₂ Closes args parts →
    Closes (.applied head args) (assembled head parts)
  | union {spelling : Spelling} {members parts : List HostType} :
    List.Forall₂ Closes members parts →
    Closes (.union spelling members) (united parts)
  | annotated {base part : HostType} {metadata : List HostType} : Closes base part →
    Closes (.annotated base metadata) (noted part metadata)

/-- A type variable occurs in a hint, or in whatever a string annotation in it is evaluated to. -/
inductive Needs (name : String) : HostType → Prop
  | parameter : Needs name (.variable name)
  | text {type : HostType} {expression : String} : type.expression? = some expression →
    (∀ value, model.Evaluates owner expression value → Needs name value) → Needs name type
  | applied {head : Head} {args : List HostType} {arg : HostType} : arg ∈ args → Needs name arg →
    Needs name (.applied head args)
  | union {spelling : Spelling} {members : List HostType} {member : HostType} : member ∈ members →
    Needs name member → Needs name (.union spelling members)
  | annotated {base : HostType} {metadata : List HostType} : Needs name base →
    Needs name (.annotated base metadata)

/-- Why closing a hint fails, where so many strings may stand for strings in a row. -/
inductive Fails : Nat → HostType → Failure → Prop
  /-- A type variable stands for nothing. -/
  | unbound {depth : Nat} {name : String} : bindings.lookup name = Option.none →
    Fails depth (.variable name) (.generation (.unboundVariableIn name owner.qualifiedName))
  /-- A string cannot be evaluated. -/
  | unresolvable {depth : Nat} {type : HostType} {expression : String} {before after : Memory}
    {failure : Failure} : type.expression? = some expression →
    (model.evaluate owner expression).run.run before = (.error failure, after) →
      Fails (depth + 1) type failure
  /-- Strings stand for strings, and there is no end. -/
  | endless {type : HostType} {expression : String} : type.expression? = some expression →
    Fails 0 type (.fault .tooDeep)
  /-- A union gets a member that cannot stand in a set. -/
  | clash {depth : Nat} {spelling : Spelling} {members parts : List HostType} {typeName : String} :
    List.Forall₂ (model.Closes owner bindings) members parts →
    (¬∀ part ∈ parts, part.unhashable? = Option.none) →
    Fails depth (.union spelling members) (.fault (.unhashable typeName))
  | text {depth : Nat} {type value : HostType} {expression : String} {failure : Failure} :
    type.expression? = some expression → model.Evaluates owner expression value →
    Fails depth value failure → Fails (depth + 1) type failure
  | applied {depth : Nat} {head : Head} {args : List HostType} {arg : HostType}
    {failure : Failure} :
    arg ∈ args → Fails depth arg failure → Fails depth (.applied head args) failure
  | union {depth : Nat} {spelling : Spelling} {members : List HostType} {member : HostType}
    {failure : Failure} : member ∈ members → Fails depth member failure →
    Fails depth (.union spelling members) failure
  | annotated {depth : Nat} {base : HostType} {metadata : List HostType} {failure : Failure} :
    Fails depth base failure → Fails depth (.annotated base metadata) failure

mutual

/-- A hint: made of primitives, classes, type variables, containers, unions and annotated types, at
whatever depth, where each string annotation that closing it evaluates stands for a hint again. What
a string stands for may depend on what was evaluated before. -/
inductive IsHint : Memory → HostType → Prop
  | text {before : Memory} {type : HostType} {expression : String} :
    type.expression? = some expression →
    (∀ value after, (model.evaluate owner expression).run.run before = (.ok value, after) →
      IsHint after value) → IsHint before type
  | parameter (before : Memory) (name : String) : IsHint before (.variable name)
  | atom {before : Memory} {type : HostType} : type.isAtom = true → IsHint before type
  | applied {before : Memory} {head : Head} {args : List HostType} : head.takes args.length = true →
    AreHints before args → IsHint before (.applied head args)
  | union {before : Memory} {spelling : Spelling} {members : List HostType} : members ≠ [] →
    AreHints before members → IsHint before (.union spelling members)
  | annotated {before : Memory} {base : HostType} {metadata : List HostType} : metadata ≠ [] →
    IsHint before base → IsHint before (.annotated base metadata)

/-- Hints that are closed one behind the other. -/
inductive AreHints : Memory → List HostType → Prop
  | nil (before : Memory) : AreHints before []
  | cons {before : Memory} {type : HostType} {rest : List HostType} : IsHint before type →
    (∀ fuel closed after, (model.closeAt owner bindings fuel type).run.run before =
      (.ok closed, after) →
      AreHints after rest) → AreHints before (type :: rest)

end

/-- What closing a hint may end with. -/
def Answers (depth : Nat) (hint : HostType) : Except Failure HostType → Prop
  | .ok type => (∃ wanted, model.Closes owner bindings hint wanted ∧ type.Renders wanted) ∧
    ∀ {property : HostType → Prop}, Inherited property →
      (∀ image ∈ bindings.map Prod.snd, property image) →
      property type
  | .error failure => model.Fails owner bindings depth hint failure

/-- What closing hints one behind the other may end with. -/
def AnswerAll (depth : Nat) (hints : List HostType) : Except Failure (List HostType) → Prop
  | .ok types => (∃ wanted, List.Forall₂ (model.Closes owner bindings) hints wanted ∧
      List.Forall₂ Renders types wanted) ∧
    ∀ {property : HostType → Prop}, Inherited property →
      (∀ image ∈ bindings.map Prod.snd, property image) →
      ∀ type ∈ types, property type
  | .error failure => ∃ hint ∈ hints, model.Fails owner bindings depth hint failure

end Relations

variable {model : Model} {owner : ClassRef} {bindings : TypeBindings}

/-- A hint closes only if each type variable that it needs stands for a type. -/
theorem Needs.bound {name : String} {hint : HostType} (needs : model.Needs owner name hint)
    {closed : HostType} (closes : model.Closes owner bindings hint closed) :
    (bindings.lookup name).isSome = true := by
  induction needs generalizing closed with
  | parameter =>
    cases closes with
    | parameter found =>
      rw [found]
      rfl
    | text known => cases known
    | atom isAtom => cases isAtom
  | text written _ ih =>
    cases closes with
    | text known evaluates inside =>
      obtain rfl := Option.some.inj (written.symm.trans known)
      exact ih _ evaluates inside
    | atom isAtom =>
      rw [expression?_of_isAtom isAtom] at written
      cases written
    | _ => cases written
  | applied member _ ih =>
    cases closes with
    | applied _ parts =>
      obtain ⟨part, -, inside⟩ := Outcome.exists_related parts member
      exact ih inside
    | bare => cases member
    | text known => cases known
    | atom isAtom => cases isAtom
  | union member _ ih =>
    cases closes with
    | union parts =>
      obtain ⟨part, -, inside⟩ := Outcome.exists_related parts member
      exact ih inside
    | text known => cases known
    | atom isAtom => cases isAtom
  | annotated _ ih =>
    cases closes with
    | annotated inside => exact ih inside
    | text known => cases known
    | atom isAtom => cases isAtom

/-- What cannot be evaluated breaks a rule of generation. -/
theorem evaluate_fails {expression : String} {before after : Memory} {failure : Failure}
    (run : (model.evaluate owner expression).run.run before = (.error failure, after)) :
    ∃ error, failure = .generation error := by
  obtain ⟨fault, rfl⟩ := adapt_error run
  exact ⟨_, rfl⟩

/-- What breaks no rule of generation is a string without an end or a union of what cannot stand in
a set. -/
theorem Fails.kind {depth : Nat} {hint : HostType} {failure : Failure}
    (fails : model.Fails owner bindings depth hint failure) :
    (∃ error, failure = .generation error) ∨ failure = .fault .tooDeep ∨
      ∃ typeName, failure = .fault (.unhashable typeName) := by
  induction fails with
  | unbound _ => exact .inl ⟨_, rfl⟩
  | unresolvable _ run => exact .inl (evaluate_fails run)
  | endless _ => exact .inr (.inl rfl)
  | clash _ _ => exact .inr (.inr ⟨_, rfl⟩)
  | text _ _ _ ih => exact ih
  | applied _ _ ih => exact ih
  | union _ _ ih => exact ih
  | annotated _ ih => exact ih

/-- The strings in hints answer, where so many may stand inside each other. -/
structure TextsAnswer (model : Model) (owner : ClassRef) (bindings : TypeBindings) (fuel : Nat)
    (onText : String → Resolving HostType) : Prop where
  step (type : HostType) :
    model.closeAt owner bindings fuel type = type.closeWith onText owner bindings
  answers {before : Memory} {type : HostType} {expression : String} :
    type.expression? = some expression →
    (∀ value after, (model.evaluate owner expression).run.run before = (.ok value, after) →
      model.IsHint owner bindings after value) →
    model.Answers owner bindings fuel type ((onText expression).run.run before).1

variable {fuel : Nat} {onText : String → Resolving HostType}

/-- Brackets around what hints close to. -/
theorem AnswerAll.applied {head : Head} {args : List HostType} {before : Memory}
    {step : Resolving (List HostType)}
    (answers : model.AnswerAll owner bindings fuel args (step.run.run before).1)
    (some : args ≠ []) (takes : head.takes args.length = true) :
    model.Answers owner bindings fuel (.applied head args)
      ((step >>= fun parts => liftM (rebuild head parts)).run.run before).1 := by
  rcases run : step.run.run before with ⟨failure | given, between⟩
  · rw [run] at answers
    obtain ⟨part, member, fails⟩ := answers
    rw [Outcome.run_bind_of_error run]
    exact .applied member fails
  · rw [run] at answers
    obtain ⟨⟨wanted, closes, renders⟩, kept⟩ := answers
    rw [closes.length_eq.trans renders.length_eq.symm] at takes
    obtain ⟨made, after, built, rendered, inherits⟩ := rebuild_renders renders takes between
    rw [Outcome.run_bind_of_ok run, run_lift built]
    exact ⟨⟨_, .applied some closes, rendered⟩,
      fun inherited each => inherits inherited (kept inherited each)⟩

/-- The union of what hints close to, if it can stand in a set. -/
theorem AnswerAll.union {spelling : Spelling} {members : List HostType} {before : Memory}
    {step : Resolving (List HostType)}
    (answers : model.AnswerAll owner bindings fuel members (step.run.run before).1)
    (some : members ≠ []) :
    model.Answers owner bindings fuel (.union spelling members)
      ((step >>= fun parts => liftM (unionOf parts true)).run.run before).1 := by
  rcases run : step.run.run before with ⟨failure | given, between⟩
  · rw [run] at answers
    obtain ⟨part, member, fails⟩ := answers
    rw [Outcome.run_bind_of_error run]
    exact .union member fails
  · rw [run] at answers
    obtain ⟨⟨wanted, closes, renders⟩, kept⟩ := answers
    have nonempty : given ≠ [] := by
      rintro rfl
      cases renders
      cases closes
      exact some rfl
    rw [Outcome.run_bind_of_ok run]
    rcases unionOf_renders renders nonempty between with
      ⟨made, after, built, rendered, inherits⟩ | ⟨typeName, after, built, refused⟩
    · rw [run_lift built]
      exact ⟨⟨_, .union closes, rendered⟩,
        fun inherited each => inherits inherited (kept inherited each)⟩
    · rw [run_lift built]
      exact .clash closes refused

/-- Metadata behind what a hint closes to. -/
theorem Answers.annotated {base : HostType} {metadata : List HostType} {before : Memory}
    {step : Resolving HostType}
    (answers : model.Answers owner bindings fuel base (step.run.run before).1)
    (some : metadata ≠ []) :
    model.Answers owner bindings fuel (.annotated base metadata)
      ((step >>= fun part => liftM (part.annotate metadata)).run.run before).1 := by
  rcases run : step.run.run before with ⟨failure | given, between⟩
  · rw [run] at answers
    rw [Outcome.run_bind_of_error run]
    exact Fails.annotated answers
  · rw [run] at answers
    obtain ⟨⟨wanted, closes, renders⟩, kept⟩ := answers
    obtain ⟨made, after, built, rendered, inherits⟩ := annotate_renders renders some between
    rw [Outcome.run_bind_of_ok run, run_lift built]
    exact ⟨⟨_, .annotated closes, rendered⟩,
      fun inherited each => inherits inherited (kept inherited each)⟩

mutual

/-- Closing a hint gives what is wanted or fails as it may, if evaluating and closing the strings in
it does. -/
theorem closeWith_answers (images : ∀ image ∈ bindings.map Prod.snd, image.isClosed = true)
    (texts : model.TextsAnswer owner bindings fuel onText)
    (type : HostType) {before : Memory} (hint : model.IsHint owner bindings before type) :
    model.Answers owner bindings fuel type
      ((type.closeWith onText owner bindings).run.run before).1 := by
  cases type with
  | text expression =>
    cases hint with
    | text known each =>
      cases known
      exact texts.answers rfl each
    | atom isAtom => cases isAtom
  | reference serial expression =>
    cases hint with
    | text known each =>
      cases known
      exact texts.answers rfl each
    | atom isAtom => cases isAtom
  | «variable» name =>
    rw [closeWith]
    split
    · next image found =>
      have member : image ∈ bindings.map Prod.snd :=
        List.mem_map_of_mem (Search.mem_of_lookup found)
      exact ⟨⟨image, .parameter found, .refl (images image member)⟩, fun _ each =>
        each image member⟩
    · next missing => exact .unbound missing
  | applied head args =>
    cases hint with
    | text known => cases known
    | atom isAtom => cases isAtom
    | applied takes all =>
      rcases args with _ | ⟨arg, rest⟩
      · have closed : (HostType.applied head []).isClosed = true := by
          rw [isClosed, takes]
          rfl
        exact ⟨⟨_, .bare head, .refl closed⟩, fun inherited _ => inherited.bare head⟩
      · rw [closeWith]
        · exact (closeAllWith_answers images texts (arg :: rest) all).applied
            (List.cons_ne_nil _ _) takes
        · simp
  | union spelling members =>
    cases hint with
    | text known => cases known
    | atom isAtom => cases isAtom
    | union some all =>
      rw [closeWith]
      exact (closeAllWith_answers images texts members all).union some
  | annotated base metadata =>
    cases hint with
    | text known => cases known
    | atom isAtom => cases isAtom
    | annotated some inside =>
      rw [closeWith]
      exact (closeWith_answers images texts base inside).annotated some
  | primitive _ | declared _ | builtin _ | noneType | none | initVar _ | constant _ | container _ _
  | record _ _ | bound _ _ _ =>
    cases hint with
    | text known => cases known
    | atom isAtom =>
      exact ⟨⟨_, .atom isAtom, .refl isAtom⟩, fun inherited _ => inherited.atom isAtom⟩

theorem closeAllWith_answers (images : ∀ image ∈ bindings.map Prod.snd, image.isClosed = true)
    (texts : model.TextsAnswer owner bindings fuel onText)
    (types : List HostType) {before : Memory} (hints : model.AreHints owner bindings before types) :
    model.AnswerAll owner bindings fuel types
      ((closeAllWith onText owner bindings types).run.run before).1 := by
  cases types with
  | nil => exact ⟨⟨[], .nil, .nil⟩, fun _ _ _ member => nomatch member⟩
  | cons type rest =>
    cases hints with
    | cons first behind =>
      have answers := closeWith_answers images texts type first
      rw [closeAllWith]
      rcases run : (type.closeWith onText owner bindings).run.run before with
        ⟨failure | made, between⟩
      · rw [run] at answers
        rw [Outcome.run_bind_of_error run]
        exact ⟨type, List.mem_cons_self .., answers⟩
      · rw [run] at answers
        obtain ⟨⟨wanted, closes, renders⟩, kept⟩ := answers
        rw [← texts.step] at run
        have others := closeAllWith_answers images texts rest (behind fuel made between run)
        rw [texts.step] at run
        rw [Outcome.run_bind_of_ok run]
        rcases runs : (closeAllWith onText owner bindings rest).run.run between with
          ⟨failure | all, after⟩
        · rw [runs] at others
          obtain ⟨part, member, fails⟩ := others
          rw [Outcome.run_bind_of_error runs]
          exact ⟨part, List.mem_cons_of_mem _ member, fails⟩
        · rw [runs] at others
          obtain ⟨⟨parts, closesAll, rendersAll⟩, keptAll⟩ := others
          rw [Outcome.run_bind_of_ok runs]
          exact ⟨⟨wanted :: parts, .cons closes closesAll, .cons renders rendersAll⟩,
            fun inherited each =>
            List.forall_mem_cons.mpr ⟨kept inherited each, keptAll inherited each⟩⟩

end

/-- Closing a hint gives what is wanted or fails as it may. -/
theorem closeAt_answers (images : ∀ image ∈ bindings.map Prod.snd, image.isClosed = true)
    (fuel : Nat)
    {type : HostType} {before : Memory} (hint : model.IsHint owner bindings before type) :
    model.Answers owner bindings fuel type
      ((model.closeAt owner bindings fuel type).run.run before).1 := by
  induction fuel generalizing type before with
  | zero =>
    have texts : model.TextsAnswer owner bindings 0 fun _ => throw (.fault .tooDeep) :=
      ⟨fun _ => rfl, fun written _ => .endless written⟩
    exact closeWith_answers images texts type hint
  | succ fuel ih =>
    have texts : model.TextsAnswer owner bindings (fuel + 1) fun expression =>
        model.evaluate owner expression >>= model.closeAt owner bindings fuel := by
      refine ⟨fun _ => rfl, fun {before type expression} written each => ?_⟩
      rcases run : (model.evaluate owner expression).run.run before with ⟨failure | value, between⟩
      · rw [Outcome.run_bind_of_error run]
        exact .unresolvable written run
      · rw [Outcome.run_bind_of_ok run]
        have answers := ih (each value between run)
        have evaluates : model.Evaluates owner expression value := ⟨before, between, run⟩
        rcases runs : (model.closeAt owner bindings fuel value).run.run between with
          ⟨failure | made, after⟩
        · rw [runs] at answers
          exact .text written evaluates answers
        · rw [runs] at answers
          obtain ⟨⟨wanted, closes, renders⟩, kept⟩ := answers
          exact ⟨⟨wanted, .text written evaluates closes, renders⟩, kept⟩
    exact closeWith_answers images texts type hint

/-- What closing a hint comes to. -/
structure Substitutes (model : Model) (owner : ClassRef) (bindings : TypeBindings) (before : Memory)
    (hint : HostType) : Prop where
  /-- No type variable and no string annotation is left, at whatever depth. -/
  closed {type : HostType} {after : Memory} :
    (model.close owner bindings hint).run.run before = (.ok type, after) → type.isClosed = true
  /-- The type is the hint with its strings evaluated and its type variables replaced at once. -/
  substituted {type : HostType} {after : Memory} :
    (model.close owner bindings hint).run.run before = (.ok type, after) →
    ∃ wanted, model.Closes owner bindings hint wanted ∧ type.Alike wanted
  /-- The type closes again, whatever the owner, the bindings and what was built meanwhile, to what
  is built again of its parts, if the unions that the bindings bring have members that can stand in
  a set; and if the bindings spell lists and maps natively, that is the type itself. -/
  again {type : HostType} {after : Memory} :
    (model.close owner bindings hint).run.run before = (.ok type, after) →
    (∀ image ∈ bindings.map Prod.snd, image.hasHashableUnions = true) →
    ∀ (other : ClassRef) (others : TypeBindings) (later : Memory), ∃ next last,
      (model.close other others type).run.run later = (.ok next, last) ∧ next.isClosed = true ∧
        next.Alike type.respelled ∧
        ((∀ image ∈ bindings.map Prod.snd, image.isSettled = true) → next.Alike type)
  /-- Closing ends with a type unless there is a reason to fail. -/
  ends : (∃ type after, (model.close owner bindings hint).run.run before = (.ok type, after)) ∨
    ∃ failure after, (model.close owner bindings hint).run.run before = (.error failure, after) ∧
      model.Fails owner bindings 4 hint failure
  /-- A type variable that stands for nothing breaks a rule of generation, unless closing fails on
  the way, at strings that stand for strings without an end or at a union of what cannot stand in a
  set. -/
  unbound {name : String} : model.Needs owner name hint → bindings.lookup name = Option.none →
    ∃ failure after, (model.close owner bindings hint).run.run before = (.error failure, after) ∧
      ((∃ error, failure = .generation error) ∨ failure = .fault .tooDeep ∨
        ∃ typeName, failure = .fault (.unhashable typeName))

/-- Closing a hint with closed types for its type variables is simultaneous substitution. -/
theorem close_substitutes {model : Model} {owner : ClassRef} {bindings : TypeBindings}
    {before : Memory}
    {hint : HostType} (images : ∀ image ∈ bindings.map Prod.snd, image.isClosed = true)
    (isHint : model.IsHint owner bindings before hint) :
    model.Substitutes owner bindings before hint := by
  have answers := closeAt_answers images 4 isHint
  rw [show model.closeAt owner bindings 4 hint =
    model.close owner bindings hint from rfl] at answers
  have gives {type : HostType} {after : Memory}
      (run : (model.close owner bindings hint).run.run before = (.ok type, after)) :
      model.Answers owner bindings 4 hint (.ok type) := by
    rw [run] at answers
    exact answers
  have ends : (∃ type after, (model.close owner bindings hint).run.run before = (.ok type, after)) ∨
      ∃ failure after, (model.close owner bindings hint).run.run before = (.error failure, after) ∧
        model.Fails owner bindings 4 hint failure := by
    rcases run : (model.close owner bindings hint).run.run before with ⟨failure | type, after⟩
    · rw [run] at answers
      exact .inr ⟨failure, after, rfl, answers⟩
    · exact .inl ⟨type, after, rfl⟩
  refine
    { closed := fun run => ?_
      substituted := fun run => ?_
      again := fun run hashable other others later => ?_
      ends := ends
      unbound := fun needs missing => ?_ }
  · obtain ⟨⟨wanted, -, renders⟩, -⟩ := gives run
    exact renders.closed
  · obtain ⟨⟨wanted, closes, renders⟩, -⟩ := gives run
    exact ⟨wanted, closes, renders.alike⟩
  · obtain ⟨⟨wanted, -, renders⟩, kept⟩ := gives run
    obtain ⟨next, last, runs, rendered⟩ :=
      closeWith_closed _ renders.closed (kept inherited_hasHashableUnions hashable) later
    refine ⟨next, last, runs, rendered.closed, rendered.alike, fun settled => ?_⟩
    exact rendered.alike.trans (respelled_alike _ (kept inherited_isSettled settled))
  · rcases ends with ⟨type, after, run⟩ | ⟨failure, after, run, fails⟩
    · obtain ⟨⟨wanted, closes, -⟩, -⟩ := gives run
      have bound := needs.bound closes
      rw [missing] at bound
      cases bound
    · exact ⟨failure, after, run, fails.kind⟩

/-- A model without classes that has a type variable. -/
def variableModel : Model :=
  ⟨[], [], ["K"]⟩

/-- A class whose hints are closed. -/
def variableOwner : ClassRef :=
  ⟨0, "models", "Owner", "Owner", .record, [], .none⟩

/-- A map from a list in a string annotation to an optional type, in the qualified spelling. -/
def variableHint : HostType :=
  .applied (.map .qualified) [.text "list[K]", .union .qualified [.variable "K", .noneType]]

theorem evaluate_variableHint :
    ((((variableModel.evaluate variableOwner "list[K]").run.run .empty).1.toOption.map fun type =>
      type.same (.applied (.list .native) [.variable "K"])) == some true) = true := by
  decide +kernel

theorem isHint_variableHint :
    variableModel.IsHint variableOwner [("K", .primitive .int)] .empty variableHint := by
  refine .applied rfl (.cons (.text rfl fun value after run => ?_) fun _ _ _ _ => ?_)
  · have found := evaluate_variableHint
    rw [run] at found
    have same : value.same (.applied (.list .native) [.variable "K"]) = true := by
      simpa [Except.toOption] using found
    cases value with
    | applied head args =>
      obtain ⟨heads, inside⟩ := Bool.and_eq_true_iff.mp same
      obtain rfl : head = .list .native := beq_iff_eq.mp heads
      rw [if_neg (by simp)] at inside
      cases sameList_iff.mp inside with
      | cons equal behind =>
        cases behind
        obtain rfl := eq_of_same rfl equal
        exact .applied rfl (.cons (.parameter _ _) fun _ _ _ _ => .nil _)
    | container kind items =>
      rcases kind with _ | _ | _ | _ | _ | _ | (_ | _ | _) | _ <;> cases same
    | _ => cases same
  · exact .cons (.union (by simp) (.cons (.parameter _ _) fun _ _ _ _ =>
      .cons (.atom rfl) fun _ _ _ _ => .nil _))
      fun _ _ _ _ => .nil _

theorem close_substitutes_variables :
    (∀ image ∈ [("K", HostType.primitive .int)].map Prod.snd, image.isClosed = true) ∧
    variableModel.IsHint variableOwner [("K", .primitive .int)] .empty variableHint ∧
    variableModel.Substitutes variableOwner [("K", .primitive .int)] .empty variableHint :=
  have images : ∀ image ∈ [("K", HostType.primitive .int)].map Prod.snd, image.isClosed =
      true := by decide
  ⟨images, isHint_variableHint, close_substitutes images isHint_variableHint⟩

def spellingsType : HostType :=
  .union .qualified [.applied (.list .qualified) [.primitive .int],
    .applied (.list .native) [.primitive .int]]

theorem not_close_again :
    ¬∀ (model : Model) (owner other : ClassRef) (bindings others : TypeBindings)
      (hint type next : HostType)
      (before after later last : Memory),
      (∀ image ∈ bindings.map Prod.snd, image.isClosed = true) →
        model.IsHint owner bindings before hint →
      (model.close owner bindings hint).run.run before = (.ok type, after) →
      (model.close other others type).run.run later = (.ok next, last) → next.same type = true := by
  intro unchanged
  have images : ∀ image ∈ [("K", spellingsType)].map Prod.snd, image.isClosed = true := by decide
  have same := unchanged variableModel variableOwner variableOwner [("K", spellingsType)] []
    (.variable "K")
    spellingsType (.applied (.list .native) [.primitive .int]) .empty .empty .empty _ images
      (.parameter _ _) rfl rfl
  cases same

end Model

end WireModel
