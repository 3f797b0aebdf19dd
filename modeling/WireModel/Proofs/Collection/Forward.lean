import WireModel.Proofs.Collection.Indifference

/-!
Strings that are names of classes. Wherever such a string stands in an annotation, evaluating it
gives the class, whatever was built before, and so the annotation is read in one way.
-/

namespace WireModel

/-- The class that a string is the name of, in a module. -/
def Model.classOfText? (model : Model) (module text : String) : Option ClassRef :=
  match Expression.ofText text with
  | .ok (.name identifier) => model.resolve? module identifier
  | _ => none

theorem Model.classOfText?_eq_some {model : Model} {module text : String} {ref : ClassRef}
    (named : model.classOfText? module text = some ref) : ∃ identifier,
      Expression.ofText text = .ok (.name identifier) ∧
        model.resolve? module identifier = some ref := by
  unfold classOfText? at named
  split at named
  · exact ⟨_, by assumption, named⟩
  · cases named

namespace Outcome.Steady

variable {ε φ α β : Type} {known : List ClassRef} {step : ExceptT ε (StateM Memory) α} {value : α}

theorem pure (value : α) : Steady known (pure value : ExceptT ε (StateM Memory) α) value :=
  fun memory tidy => ⟨memory, rfl, tidy⟩

theorem bind {next : α → ExceptT ε (StateM Memory) β} {result : β}
    (first : Steady known step value) (rest : Steady known (next value) result) :
    Steady known (step >>= next) result := by
  intro memory tidy
  obtain ⟨between, run, left⟩ := first memory tidy
  rw [run_bind_of_ok run]
  exact rest between left

theorem adapt (tell : ε → φ) (steady : Steady known step value) :
    Steady known (ExceptT.adapt tell step) value := by
  intro memory tidy
  obtain ⟨after, run, left⟩ := steady memory tidy
  exact ⟨after, Resolving.adapt_ok.mpr run, left⟩

theorem foldlM {step : β → α → ExceptT ε (StateM Memory) β} {value : β → α → β} (items : List α)
    (each : ∀ item ∈ items, ∀ made, Steady known (step made item) (value made item)) (start : β) :
    Steady known (items.foldlM step start) (items.foldl value start) := by
  induction items generalizing start with
  | nil => exact pure start
  | cons item rest ih =>
    obtain ⟨first, behind⟩ := List.forall_mem_cons.mp each
    rw [List.foldlM_cons, List.foldl_cons]
    exact (first start).bind (ih behind _)

end Outcome.Steady

namespace Evaluation

variable {α β : Type}

theorem run_bind_of_ok {step : Evaluation α} {next : α → Evaluation β} {locals left : Locals}
    {before between : Memory} {value : α}
    (run : (step.run locals).run.run before = (.ok (value, left), between)) :
    ((step >>= next).run locals).run.run before = ((next value).run left).run.run between := by
  rw [StateT.run_bind, Outcome.run_bind_of_ok run]

/-- Where no names are bound, and whatever tidy types were built before, a step gives one value. -/
def Steady (known : List ClassRef) (step : Evaluation α) (value : α) : Prop :=
  Outcome.Steady known (step.run []) (value, [])

theorem run_lift {step : Building α} {before after : Memory} {value : α} {locals : Locals}
    (run : step.run.run before = (.ok value, after)) :
    ((liftM step : Evaluation α).run locals).run.run before = (.ok (value, locals), after) := by
  show (step >>= fun given => pure (given, locals)).run.run before = _
  rw [Outcome.run_bind_of_ok run]
  rfl

namespace Steady

variable {known : List ClassRef}

theorem pure (value : α) : Steady known (pure value : Evaluation α) value :=
  Outcome.Steady.pure _

theorem bind {step : Evaluation α} {next : α → Evaluation β} {value : α} {result : β}
    (first : Steady known step value) (rest : Steady known (next value) result) :
    Steady known (step >>= next) result := by
  rw [Steady, StateT.run_bind]
  exact Outcome.Steady.bind first rest

theorem lift {step : Building α} {value : α} (steady : Outcome.Steady known step value) :
    Steady known (liftM step : Evaluation α) value := by
  intro memory tidy
  obtain ⟨after, run, left⟩ := steady memory tidy
  exact ⟨after, run_lift run, left⟩

theorem mapM {step : α → Evaluation β} {value : α → β} (items : List α)
    (each : ∀ item ∈ items, Steady known (step item) (value item)) :
    Steady known (items.mapM step) (items.map value) := by
  induction items with
  | nil => exact pure []
  | cons item rest ih =>
    obtain ⟨first, behind⟩ := List.forall_mem_cons.mp each
    rw [List.mapM_cons]
    exact first.bind ((ih behind).bind (pure _))

end Steady

end Evaluation

namespace Scope

theorem scope_setting (scope : Scope) (depth : Nat) : (scope.setting depth).scope = scope := by
  cases depth <;> rfl

/-- Where no names are bound, the name of a class stands for it. -/
theorem evaluateWhole_name (scope : Scope) {identifier : String} {value : HostType}
    (found : scope.find? false identifier = some value) (depth : Nat) (memory : Memory) :
    (((scope.setting depth).evaluateWhole (.name identifier)).run []).run.run memory =
      (.ok (value, []), memory) := by
  have seen : (scope.setting depth).scope.find? Position.outermost.isInner identifier =
      some value := by
    rw [scope_setting]
    exact found
  have unbound : ((Evaluation.boundValue? Position.outermost.isInner identifier).run
      []).run.run memory = (.ok (none, []), memory) := rfl
  show (((scope.setting depth).lookUp .outermost identifier).run []).run.run memory = _
  rw [Setting.lookUp, StateT.run_bind, Outcome.run_bind_of_ok unbound]
  dsimp only
  rw [Option.none_or, seen]
  rfl

/-- A string that is the name of a class stands for it, also where it was read before. -/
theorem run_resolve (scope : Scope) {text : String} {ref : ClassRef}
    (named : scope.model.classOfText? scope.module text = some ref) {serial : Nat} {memory : Memory}
    (asked : scope.record.isSome = true ∨ (memory.reference serial).value = none) (fuel : Nat) :
    ((scope.resolve (fuel + 1) [] serial text).run []).run.run memory =
      (.ok (.declared ref, []), ((Building.settle serial (.declared ref)).run.run memory).2) := by
  obtain ⟨identifier, read, found⟩ := Model.classOfText?_eq_some named
  have known : scope.find? false identifier = some (.declared ref) := by
    simp [Scope.find?, Scope.moduleName?, found]
  have state : ((getThe Memory : Evaluation Memory).run []).run.run memory =
      (.ok (memory, []), memory) := rfl
  have parsed : ((liftM (Expression.ofText text) : Evaluation Expression).run []).run.run memory =
      (.ok (.name identifier, []), memory) := by
    rw [read]
    rfl
  have isClosed : (HostType.declared ref).isClosed = true := rfl
  have formed : ((liftM (HostType.checkedForm (memory.reference serial).allowsClassVar .reference
      (.declared ref)) : Evaluation HostType).run []).run.run memory =
      (.ok (.declared ref, []), memory) := by
    have form := HostType.checkedForm_closed isClosed (memory.reference serial).allowsClassVar
      .reference memory
    exact Evaluation.run_lift form
  have settled : ((liftM (Building.settle serial (.declared ref)) : Evaluation Unit).run
      []).run.run memory =
      (.ok ((), []), ((Building.settle serial (.declared ref)).run.run memory).2) := rfl
  have evaluated : ((do
      let expression ← liftM (Expression.ofText text)
      let value ← (scope.setting maxDepth).evaluateWhole expression
      let type ← liftM
        (HostType.checkedForm (memory.reference serial).allowsClassVar .reference value)
      let type ← HostType.resolveReferences (scope.resolve fuel [text]) type
      liftM (Building.settle serial type)
      return type : Evaluation HostType).run []).run.run memory =
      (.ok (.declared ref, []), ((Building.settle serial (.declared ref)).run.run memory).2) := by
    have unchanged : (HostType.declared ref).resolveReferences (scope.resolve fuel [text]) =
        pure (.declared ref) := rfl
    rw [Evaluation.run_bind_of_ok parsed,
      Evaluation.run_bind_of_ok (scope.evaluateWhole_name known maxDepth memory),
      Evaluation.run_bind_of_ok formed, unchanged, pure_bind, Evaluation.run_bind_of_ok settled]
    rfl
  rw [resolve, if_neg (by simp), Evaluation.run_bind_of_ok state]
  dsimp only
  split
  · next value none seen => simp_all
  · exact evaluated

variable {known : List ClassRef} {model : Model} {α β : Type}

theorem run_steady (scope : Scope) {step : Evaluation α} {value : α}
    (steady : Evaluation.Steady known step value) :
    Outcome.Steady known (scope.run step) value := by
  intro memory tidy
  have unbound : scope.locals.run.run memory = (.ok [], memory) := by
    have none : memory.localsOf scope.module = [] := by
      rw [Memory.localsOf, tidy.modules]
      rfl
    unfold Scope.locals
    rw [Outcome.run_bind_of_ok (show (getThe Memory : Building Memory).run.run memory =
      (.ok memory, memory) from rfl), none]
    dsimp only
    split <;> rfl
  obtain ⟨after, run, left⟩ := steady memory tidy
  refine ⟨after, ?_, left⟩
  rw [Scope.run, Outcome.run_bind_of_ok unbound]
  show (step.run [] >>= fun given => pure given.1).run.run memory = _
  rw [Outcome.run_bind_of_ok run]
  rfl

theorem resolve_steady (scope : Scope) {text : String} {ref : ClassRef}
    (named : scope.model.classOfText? scope.module text = some ref)
    (ofRecord : scope.record.isSome = true) (serial fuel : Nat) :
    Evaluation.Steady known (scope.resolve (fuel + 1) [] serial text) (.declared ref) :=
  fun _ tidy => ⟨_, scope.run_resolve named (.inl ofRecord) fuel, tidy.built, tidy.modules⟩

theorem newReference_steady (scope : Scope) {text : String} {ref : ClassRef}
    (named : scope.model.classOfText? scope.module text = some ref)
    (ofRecord : scope.record.isSome = true) (fuel : Nat) :
    Evaluation.Steady known (do scope.resolve (fuel + 1) [] (← Building.newReference false) text)
      (.declared ref) := by
  intro memory tidy
  have numbered : ((liftM (Building.newReference false) : Evaluation Nat).run []).run.run memory =
      (.ok (memory.references.length, []),
        { memory with references := memory.references ++ [⟨false, none⟩] }) := rfl
  rw [Evaluation.run_bind_of_ok numbered]
  exact ⟨_, scope.run_resolve named (.inl ofRecord) fuel, tidy.built, tidy.modules⟩

theorem typeOfText_steady (scope : Scope) {text : String} {ref : ClassRef}
    (named : scope.model.classOfText? scope.module text = some ref) (allowsClassVar : Bool) :
    Evaluation.Steady known (scope.typeOfText text allowsClassVar) (.declared ref) := by
  intro memory tidy
  obtain ⟨identifier, read, -⟩ := Model.classOfText?_eq_some named
  have parsed :
      ((discard (liftM (Expression.ofText text)) : Evaluation Unit).run []).run.run memory =
      (.ok ((), []), memory) := by
    rw [read]
    rfl
  have numbered : ((liftM (Building.newReference allowsClassVar) : Evaluation Nat).run
      []).run.run memory = (.ok (memory.references.length, []),
        { memory with references := memory.references ++ [⟨allowsClassVar, none⟩] }) := rfl
  have unread : (Memory.reference { memory with
      references := memory.references ++ [⟨allowsClassVar, none⟩] }
      memory.references.length).value = none := by
    simp [Memory.reference]
  rw [typeOfText, Evaluation.run_bind_of_ok parsed, Evaluation.run_bind_of_ok numbered]
  exact ⟨_, scope.run_resolve named (.inr unread) _, tidy.built, tidy.modules⟩

end Scope

theorem Model.evaluate_steady {known : List ClassRef} {model : Model} {owner : ClassRef}
    {text : String} {ref : ClassRef} (named : model.classOfText? owner.module text = some ref) :
    Outcome.Steady known (model.evaluate owner text) (.declared ref) :=
  .adapt _ (Scope.run_steady _ (Scope.typeOfText_steady _ named false))

namespace HostType

mutual

/-- Whatever is equal to the type is the type. -/
def isRigid : HostType → Bool
  | .primitive _ | .declared _ | .builtin _ | .variable _ | .noneType => true
  | .applied head args => head != .literal && areRigid args
  | _ => false

def areRigid : List HostType → Bool
  | [] => true
  | type :: rest => isRigid type && areRigid rest

end

mutual

theorem eq_of_same_rigid (type : HostType) {other : HostType} (rigid : other.isRigid = true)
    (same : type.same other = true) : type = other := by
  cases other with
  | primitive _ | declared _ | builtin _ | «variable» _ => exact eq_of_same rfl same
  | noneType =>
    cases type with
    | noneType => rfl
    | container kind _ => rcases kind with _ | _ | _ | _ | _ | _ | (_ | _ | _) | _ <;> cases same
    | _ => cases same
  | applied head args =>
    cases type with
    | applied another others =>
      obtain ⟨noLiteral, each⟩ := Bool.and_eq_true_iff.mp rigid
      obtain ⟨heads, inside⟩ := Bool.and_eq_true_iff.mp same
      obtain rfl : another = head := eq_of_beq heads
      rw [if_neg (bne_iff_ne.mp noLiteral)] at inside
      rw [eq_of_sameList_rigid others each inside]
    | container kind _ => rcases kind with _ | _ | _ | _ | _ | _ | (_ | _ | _) | _ <;> cases same
    | _ => cases same
  | _ => cases rigid

theorem eq_of_sameList_rigid (types : List HostType) {others : List HostType}
    (rigid : areRigid others = true) (same : sameList types others = true) : types = others := by
  cases types with
  | nil =>
    cases others with
    | nil => rfl
    | cons other behind => cases same
  | cons type rest =>
    cases others with
    | nil => cases same
    | cons other behind =>
      obtain ⟨first, remaining⟩ := Bool.and_eq_true_iff.mp same
      obtain ⟨here, later⟩ := Bool.and_eq_true_iff.mp rigid
      rw [eq_of_same_rigid type here first, eq_of_sameList_rigid rest later remaining]

end

/-- The types can be united in one way only, whatever was built before. -/
def isUnitable (known : List ClassRef) (members : List HostType) : Bool :=
  !members.isEmpty && areRigid members && areClosed members && (unhashableIn? members).isNone &&
    areTidy known members

theorem unionOf_steady {known : List ClassRef} {members : List HostType}
    (unitable : isUnitable known members = true) :
    Outcome.Steady known (unionOf members true) (united members) := by
  simp only [isUnitable, Bool.and_eq_true, Bool.not_eq_true', List.isEmpty_eq_false_iff,
    Option.isNone_iff_eq_none, areClosed_eq_true, unhashableIn?_eq_none, areTidy_iff] at unitable
  obtain ⟨⟨⟨⟨some, rigid⟩, closed⟩, hashable⟩, tidy⟩ := unitable
  intro memory holds
  rcases unionOf_closed some closed memory with
    ⟨kept, after, run, stands, recalls, -⟩ | ⟨_, _, -, refused⟩
  · obtain rfl : kept = members := by
      rcases stands with same | ⟨same, -⟩
      · exact same
      · exact eq_of_sameList_rigid kept rigid same
    exact ⟨after, run, (recalls.tidy holds tidy).1⟩
  · exact absurd hashable refused

theorem withMetadata_eq_noted {base : HostType} (given : base ≠ .none)
    (closed : base.isClosed = true)
    (metadata : List HostType) : base.withMetadata metadata = .ok (noted base metadata) := by
  have made := withMetadata_of_isClosed closed metadata
  cases base <;> first | exact made | exact absurd rfl given

mutual

/-- What an annotation is read as where some strings name classes. -/
def readBy (named : String → Option ClassRef) : HostType → HostType
  | .reference serial expression =>
    ((named expression).map declared).getD (.reference serial expression)
  | .applied head args =>
    let read := readAllBy named head.isNative args
    .applied head (if sameList args read then args else read)
  | .union spelling members =>
    let read := readAllBy named false members
    if sameList members read then .union spelling members else united read
  | .annotated base metadata =>
    let read := readBy named base
    if base.same read then .annotated base metadata else noted read metadata
  | type => type

def readAllBy (named : String → Option ClassRef) (hasTexts : Bool) : List HostType → List HostType
  | [] => []
  | type :: rest =>
    let read :=
      match hasTexts, type.asText? with
      | true, some expression => ((named expression).map declared).getD type
      | _, _ => readBy named type
    read :: readAllBy named hasTexts rest

end

mutual

/-- The annotation is read in one way, whatever was built before. -/
def isReadable (known : List ClassRef) (named : String → Option ClassRef) : HostType → Bool
  | .reference _ expression => (named expression).isSome
  | .applied head args => head != .literal && areReadable known named head.isNative args
  | .union spelling members =>
    let read := readAllBy named false members
    areReadable known named false members &&
      (sameList members read || spelling == .qualified && isUnitable known read)
  | .annotated base _ =>
    let read := readBy named base
    isReadable known named base && (base.same read || !read.same .none && read.isClosed)
  | _ => true

def areReadable (known : List ClassRef) (named : String → Option ClassRef) (hasTexts : Bool) :
    List HostType → Bool
  | [] => true
  | type :: rest =>
    let readable :=
      match hasTexts, type.asText? with
      | true, some expression => (named expression).isSome
      | _, _ => isReadable known named type
    readable && areReadable known named hasTexts rest

end

variable {known : List ClassRef} {scope : Scope}

theorem checkTexts_of_areReadable {args : List HostType}
    (readable : areReadable known (scope.model.classOfText? scope.module) true args = true) :
    checkTexts args = .ok () := by
  induction args with
  | nil => rfl
  | cons arg rest ih =>
    obtain ⟨first, behind⟩ := Bool.and_eq_true_iff.mp readable
    rw [checkTexts, List.forM]
    cases text : arg.asText? with
    | none => exact ih behind
    | some expression =>
      rw [text] at first
      obtain ⟨ref, named⟩ := Option.isSome_iff_exists.mp first
      obtain ⟨identifier, read, -⟩ := Model.classOfText?_eq_some named
      dsimp only
      rw [read]
      exact ih behind

mutual

theorem resolveReferences_steady (ofRecord : scope.record.isSome = true) (fuel : Nat)
    (type : HostType)
    (readable : type.isReadable known (scope.model.classOfText? scope.module) = true) :
    Evaluation.Steady known (type.resolveReferences (scope.resolve (fuel + 1) []))
      (type.readBy (scope.model.classOfText? scope.module)) := by
  cases type with
  | reference serial expression =>
    obtain ⟨ref, named⟩ := Option.isSome_iff_exists.mp readable
    rw [resolveReferences, readBy, named]
    exact scope.resolve_steady named ofRecord serial fuel
  | applied head args =>
    obtain ⟨noLiteral, each⟩ := Bool.and_eq_true_iff.mp readable
    have resolved := resolveAll_steady ofRecord fuel head.isNative args each
    rw [resolveReferences, readBy]
    · have last : Evaluation.Steady known
          (resolveAll (scope.resolve (fuel + 1) []) head.isNative args >>= fun read =>
            pure (applied head (if sameList args read then args else read)))
          (applied head (if sameList args (readAllBy (scope.model.classOfText? scope.module)
            head.isNative args) then args else
              readAllBy (scope.model.classOfText? scope.module) head.isNative args)) :=
        resolved.bind (.pure _)
      split
      · next native =>
        rw [native] at each
        rw [checkTexts_of_areReadable each]
        exact last
      · exact last
    · rintro rfl
      exact absurd rfl (bne_iff_ne.mp noLiteral)
  | union spelling members =>
    obtain ⟨each, same⟩ := Bool.and_eq_true_iff.mp readable
    have resolved := resolveAll_steady ofRecord fuel false members each
    rw [resolveReferences, readBy]
    refine resolved.bind ?_
    generalize readAllBy (scope.model.classOfText? scope.module) false members = read at same
    split
    · exact .pure _
    · next changed =>
      simp only [changed, Bool.false_or, Bool.and_eq_true, beq_iff_eq] at same
      obtain ⟨rfl, unitable⟩ := same
      exact .lift (unionOf_steady unitable)
  | annotated base metadata =>
    obtain ⟨each, same⟩ := Bool.and_eq_true_iff.mp readable
    have resolved := resolveReferences_steady ofRecord fuel base each
    rw [resolveReferences, readBy]
    refine resolved.bind ?_
    generalize readBy (scope.model.classOfText? scope.module) base = read at same
    split
    · exact .pure _
    · next changed =>
      simp only [changed, Bool.false_or, Bool.and_eq_true, Bool.not_eq_true'] at same
      have given : read ≠ .none := by
        rintro rfl
        cases same.1
      rw [withMetadata_eq_noted given same.2]
      exact .pure _
  | _ => exact .pure _

theorem resolveAll_steady (ofRecord : scope.record.isSome = true) (fuel : Nat) (hasTexts : Bool)
    (types : List HostType)
    (readable : areReadable known (scope.model.classOfText? scope.module) hasTexts types = true) :
    Evaluation.Steady known (resolveAll (scope.resolve (fuel + 1) []) hasTexts types)
      (readAllBy (scope.model.classOfText? scope.module) hasTexts types) := by
  cases types with
  | nil => exact .pure _
  | cons type rest =>
    by_cases isText : hasTexts = true ∧ ∃ expression, type.asText? = some expression
    · obtain ⟨rfl, expression, written⟩ := isText
      rw [areReadable, Bool.and_eq_true] at readable
      · obtain ⟨ref, named⟩ := Option.isSome_iff_exists.mp readable.1
        have others := resolveAll_steady ofRecord fuel true rest readable.2
        have given : readAllBy (scope.model.classOfText? scope.module) true (type :: rest) =
            declared ref :: readAllBy (scope.model.classOfText? scope.module) true rest := by
          rw [readAllBy, named]
          · rfl
          · exact written
        have steps : resolveAll (scope.resolve (fuel + 1) []) true (type :: rest) =
            (do scope.resolve (fuel + 1) [] (← Building.newReference false) expression) >>=
              fun read =>
              resolveAll (scope.resolve (fuel + 1) []) true rest >>= fun others =>
                pure (read :: others) := by
          rw [resolveAll, bind_assoc]
          exact written
        rw [steps, given]
        exact (scope.newReference_steady named ofRecord fuel).bind (others.bind (.pure _))
      · exact written
    · have inside (expression : String) (given : hasTexts = true)
          (written : type.asText? = some expression) : False :=
        isText ⟨given, expression, written⟩
      rw [areReadable, Bool.and_eq_true] at readable
      · have others := resolveAll_steady ofRecord fuel hasTexts rest readable.2
        rw [resolveAll, readAllBy]
        · exact (resolveReferences_steady ofRecord fuel type readable.1).bind
            (others.bind (.pure _))
        all_goals exact inside
      · exact inside

end

end HostType

end WireModel
