import Mathlib.Data.Set.Card
import Mathlib.Data.Set.Finite.Lemmas
import WireModel.Proofs.Collection.Lockstep
import WireModel.Proofs.Collection.Uniform

/-!
Collecting ends. However cyclic the declarations are, a visit marks a new identity before it goes on
to the parts of a type, so that no more visits stand inside each other than there are identities to
mark.
-/

namespace WireModel

variable {model : Model} {start : Memory} {root type : HostType}

section Mono

variable {held wider : Memory → Prop} (widen : ∀ memory, held memory → wider memory)

include widen

theorem HasHint.mono {ref : ClassRef} {bindings : TypeBindings} {hint : HostType}
    (known : HasHint model held type ref bindings hint) :
    HasHint model wider type ref bindings hint := by
  cases known with
  | field seenAs bound holds typed inside => exact .field seenAs bound (widen _ holds) typed inside
  | slot seenAs bound inside carried => exact .slot seenAs bound inside carried

theorem Offers.mono {part : HostType} (offers : Offers model held type part) :
    Offers model wider type part := by
  cases offers with
  | argument isContainer inside => exact .argument isContainer inside
  | part known closes =>
    obtain ⟨memory, holds, closed⟩ := closes
    exact .part (known.mono widen) ⟨memory, widen _ holds, closed⟩

end Mono

namespace Model

/-- Collecting a root may come to a type: nothing that the run is confined to goes without it. The
types that a run is confined to are closed under the arguments of containers and under what the
parts of classes close to. -/
def Reaches (model : Model) (start : Memory) (root type : HostType) : Prop :=
  ∀ types held, Confines model types held → types root → held start → types type

/-- Collecting a root may leave a memory behind. -/
def Recalls (model : Model) (start : Memory) (root : HostType) (memory : Memory) : Prop :=
  ∀ types held, Confines model types held → types root → held start → held memory

/-- The identities of the types that collecting a root may come to. -/
def reachable (model : Model) (start : Memory) (root : HostType) : Set Identity :=
  {identity | ∃ type, model.Reaches start root type ∧ type.view.identity = .ok identity}

/-- A run is confined to what it may come to. -/
theorem confines_reaches (model : Model) (start : Memory) (root : HostType) :
    Confines model (model.Reaches start root) (model.Recalls start root) where
  offered reached offers types held confines roots holds := by
    have known : types _ := reached types held confines roots holds
    exact confines.offered known (offers.mono fun _ recalled =>
      recalled types held confines roots holds)
  fields reached seenAs recalled types held confines roots holds :=
    confines.fields (reached types held confines roots holds) seenAs
      (recalled types held confines roots holds)
  closing reached known recalled types held confines roots holds := by
    have member : types _ := reached types held confines roots holds
    have hint := known.mono fun _ recalled => recalled types held confines roots holds
    exact confines.closing member hint (recalled types held confines roots holds)

/-- Where a run is confined to some types, it can come to their identities only. -/
theorem finite_reachable {types : List HostType} {held : Memory → Prop}
    (confines : Confines model (· ∈ types) held) (member : root ∈ types) (holds : held start) :
    (model.reachable start root).Finite := by
  refine (types.filterMap fun type => type.view.identity.toOption).finite_toSet.subset ?_
  rintro identity ⟨type, reached, identified⟩
  have inside : type ∈ types := reached _ _ confines member holds
  exact List.mem_filterMap.mpr ⟨type, inside, by rw [identified]; rfl⟩

end Model

namespace Collect

/-- The recursion without a limit, unrolled for some visits inside each other. Whatever is to happen
beyond those is a parameter: a recursion that ends does not depend on it. -/
def walkWithin (model : Model) (beyond : HostType → Collect Unit) : Nat → HostType → Collect Unit
  | 0, type => beyond type
  | steps + 1, type => do
    let identity ← ofRule type.view.identity
    walkOnce model (walkWithin model beyond steps) (walkWithin model beyond steps) type identity

def remaining (reach : Set Identity) (marks : List Identity) : Set Identity :=
  {identity ∈ reach | identity ∉ marks}

variable {reach : Set Identity} {marked seen : List Identity} {types : HostType → Prop}
  {held : Memory → Prop} {target : Target} {cut : Prop} {beyond beyondOther : HostType →
    Collect Unit}

/-- A new mark leaves fewer identities to mark. -/
theorem remaining_lt (finite : reach.Finite) (logs : Logs reach marked seen) {identity : Identity}
    (reached : identity ∈ reach) (new : identity ∉ seen) :
    (remaining reach (seen ++ [identity])).ncard < (remaining reach marked).ncard := by
  obtain ⟨walked, rfl, -, -⟩ := logs
  have fewer : remaining reach (marked ++ walked ++ [identity]) ⊆ remaining reach marked :=
    fun other ⟨inside, unmarked⟩ => ⟨inside, fun old => unmarked (by simp [old])⟩
  have before : identity ∈ remaining reach marked :=
    ⟨reached, fun old => new (List.mem_append_left _ old)⟩
  have after : identity ∉ remaining reach (marked ++ walked ++ [identity]) :=
    fun ⟨_, unmarked⟩ => unmarked (by simp)
  refine Set.ncard_lt_ncard ⟨fewer, fun all => after (all before)⟩
    (finite.subset fun _ inside => inside.1)

section Unlimited

variable (confines : Confines model types held)
  (within : ∀ {type : HostType} {identity : Identity}, types type →
    type.view.identity = .ok identity → identity ∈ reach)
  (finite : reach.Finite)

include confines within finite

/-- Nothing is left to what lies beyond, once there are more steps than identities to mark. -/
theorem walkWithin_lockstep {steps stepsOther : Nat}
    (enough : (remaining reach marked).ncard < steps)
    (enoughOther : (remaining reach marked).ncard < stepsOther) :
    VisitsAbreast cut (Abreast target target held reach marked) types
      (walkWithin model beyond steps) (walkWithin model beyondOther stepsOther) := by
  induction steps generalizing marked stepsOther with
  | zero => omega
  | succ steps ih =>
  intro type member
  obtain ⟨stepsOther, rfl⟩ : ∃ fewer, stepsOther = fewer + 1 := ⟨stepsOther - 1, by omega⟩
  rw [walkWithin, walkWithin]
  refine (Lockstep.ofRule _).bind ?_
  rintro identity _ ⟨rfl, identified⟩
  have reached := within member identified
  refine walkOnce_lockstep confines member reached fun seen logs new => ?_
  have fewer := remaining_lt finite logs reached new
  exact ⟨ih (by omega) (by omega), ih (by omega) (by omega)⟩

/-- Collecting does what the recursion without a limit does, unless it runs out of depth; with
enough depth it does not. -/
theorem addAt_walkWithin {height depth steps : Nat} (low : ∀ identity ∈ reach,
      identity.height ≤ height) (enough : (remaining reach marked).ncard < steps)
    (deep : cut ∨ 3 * (remaining reach marked).ncard + 2 * height + 3 ≤ depth) :
    VisitsAbreast cut (Abreast target target held reach marked) types (addAt model depth)
      (walkWithin model beyond steps) := by
  induction depth using Nat.strongRecOn generalizing marked steps with
  | _ depth ih =>
  intro type member
  have tooDeep (step : Collect Unit) (next : PUnit → Collect Unit) (may : cut) :
      Lockstep cut (Abreast target target held reach marked) (fun _ _ => True)
        (throw (.fault .tooDeep) >>= next) step := fun before another link =>
    .cut may (fails_bind.mpr (.inl (fails_throw.mpr ⟨rfl, rfl⟩))) link
  -- With less than three levels a visit gives up before it looks at its type.
  rcases depth with _ | _ | _ | depth
  · exact tooDeep _ pure (deep.resolve_right (by omega))
  · exact tooDeep _ pure (deep.resolve_right (by omega))
  · exact tooDeep _ pure (deep.resolve_right (by omega))
  obtain ⟨steps, rfl⟩ : ∃ fewer, steps = fewer + 1 := ⟨steps - 1, by omega⟩
  rw [addAt_eq, walkWithin]
  refine (Lockstep.ofRule _).bind ?_
  rintro identity _ ⟨rfl, identified⟩
  have reached := within member identified
  have small := low identity reached
  by_cases shallow : depth < 2 * identity.height
  · rw [if_pos shallow]
    exact tooDeep _ _ (deep.resolve_right (by omega))
  rw [if_neg shallow]
  refine walkOnce_lockstep confines member reached fun seen logs new => ?_
  -- The new mark is one identity less to mark, which pays for the three levels of this visit.
  have fewer := remaining_lt finite logs reached new
  exact ⟨ih depth (by omega) (by omega) (deep.imp_right fun _ => by omega),
    ih (depth + 2) (by omega) (by omega) (deep.imp_right fun _ => by omega)⟩

end Unlimited

/-- What a step comes to, and what it leaves behind. -/
def runFrom {α : Type} (step : Collect α) (state : Collection × Memory) :
    (Except Failure α × Collection) × Memory :=
  (step.run.run state.1).run state.2

/-- Steps for one target that keep pace from one state come to the same, unless the first one is
cut. -/
theorem Pace.run_eq {relates : Unit → Unit → Prop} {step other : Collect Unit}
    {state : Collection × Memory}
    (pace : Pace cut (Abreast target target held reach marked) relates step other state state) :
    (runFrom step state = runFrom other state ∨
        cut ∧ ∃ after, Fails step state (.fault .tooDeep) after) ∧
      Logs reach marked (leaves step state).1.seen := by
  cases pace with
  | succeed found foundOther _ link =>
    obtain rfl := link.eq
    exact ⟨.inl (found.trans foundOther.symm), found.leaves_eq ▸ link.logs⟩
  | fail failed failedOther link =>
    obtain rfl := link.eq
    exact ⟨.inl (failed.trans failedOther.symm), failed.leaves_eq ▸ link.logs⟩
  | cut may failed link => exact ⟨.inr ⟨may, _, failed⟩, failed.leaves_eq ▸ link.logs⟩

/-- Collecting a type ends in a run. The recursion without a limit ends after as many visits inside
each other as there are reachable identities to mark, and one more; any large enough depth does the
same; and the given depth does, or fails for lack of depth. The parts of each reachable identity are
walked at most once, and not at all if it was marked before. -/
structure Ends (model : Model) (type : HostType) (state : Collection × Memory)
    (run : (Except Failure Unit × Collection) × Memory) : Prop where
  unlimited : ∀ beyond steps,
    (remaining (model.reachable state.2 type) state.1.seen).ncard < steps →
    runFrom (walkWithin model beyond steps type) state = run
  deep : ∃ bound, ∀ depth ≥ bound, runFrom (addAt model depth type) state = run
  limited : runFrom (add model type) state = run ∨
    ∃ after, Fails (add model type) state (.fault .tooDeep) after
  once : Logs (model.reachable state.2 type) state.1.seen run.1.2.seen
  onceLimited : Logs (model.reachable state.2 type) state.1.seen
    (leaves (add model type) state).1.seen

/-- Collecting a type ends from every state, if the type makes finitely many identities
reachable. -/
theorem add_ends (model : Model) (type : HostType) (state : Collection × Memory)
    (finite : (model.reachable state.2 type).Finite) : ∃ run, Ends model type state run := by
  let reach := model.reachable state.2 type
  let held := model.Recalls state.2 type
  let linked := Abreast state.1.target state.1.target held reach state.1.seen
  let count := (remaining reach state.1.seen).ncard
  let last : Collect Unit := walkWithin model (fun _ => throw (.fault .tooDeep)) (count + 1) type
  have confines : Confines model (model.Reaches state.2 type) held :=
    model.confines_reaches state.2 type
  have within {other : HostType} {identity : Identity} (reached : model.Reaches state.2 type other)
      (identified : other.view.identity = .ok identity) : identity ∈ reach :=
    ⟨other, reached, identified⟩
  have member : model.Reaches state.2 type type := fun _ _ _ inside _ => inside
  have begins : linked state state := .refl fun _ _ _ _ holds => holds
  obtain ⟨highest, low⟩ := Set.exists_upper_bound_image reach Identity.height finite
  have unlimited (beyond : HostType → Collect Unit) (steps : Nat) (enough : count < steps) :
      Pace False linked (fun _ _ => True) (walkWithin model beyond steps type) last state state :=
    walkWithin_lockstep confines within finite enough (Nat.lt_succ_self count) member _ _ begins
  have program {cut : Prop} (depth : Nat) (deep : cut ∨
      3 * count + 2 * highest.height + 3 ≤ depth) :
      Pace cut linked (fun _ _ => True) (addAt model depth type) last state state :=
    addAt_walkWithin confines within finite low (Nat.lt_succ_self count) deep member _ _ begins
  have uncut {step : Collect Unit}
      (pace : Pace False linked (fun _ _ => True) step last state state) :
      runFrom step state = runFrom last state :=
    pace.run_eq.1.resolve_right fun impossible => impossible.1
  refine ⟨runFrom last state, ?_⟩
  constructor
  case unlimited => exact fun beyond steps enough => uncut (unlimited beyond steps enough)
  case deep => exact ⟨_, fun depth enough => uncut (program depth (.inr enough))⟩
  case limited =>
    have pace : Pace True linked (fun _ _ => True) (add model type) last state state :=
      program maxDepth (.inl trivial)
    exact pace.run_eq.1.imp_right And.right
  case once => exact (unlimited _ _ (Nat.lt_succ_self count)).run_eq.2
  case onceLimited =>
    have pace : Pace True linked (fun _ _ => True) (add model type) last state state :=
      program maxDepth (.inl trivial)
    exact pace.run_eq.2

/-- A generic class with a box of its own instantiation inside. -/
def nestedModel : Model :=
  pairModelOf (.applied .box [pairOf (.variable "K")])

/-- An instantiation of that class. -/
def nestedInt : HostType :=
  pairOf (.primitive .int)

/-- That instantiation and the type of its field. -/
def nestedTypes : List HostType :=
  [nestedInt, .applied .box [nestedInt]]

/-- What closing the type of its field leaves behind: both applications are remembered. -/
def nestedMemory : Memory :=
  ((nestedModel.close pairRef [("K", .primitive .int)]
    (.applied .box [pairOf (.variable "K")])).run.run .empty).2

/-- The memories of a run over that instantiation. -/
def NestedHeld (memory : Memory) : Prop :=
  memory = .empty ∨ memory = nestedMemory

private theorem typedFields_nested {memory : Memory} (holds : NestedHeld memory) :
    (nestedModel.typedFields pairRef).run.run memory =
      (.ok [("x", .applied .box [pairOf (.variable "K")])], memory) := by
  rcases holds with rfl | rfl
  · rfl
  · rfl

private theorem close_nested {memory : Memory} (holds : NestedHeld memory) :
    (nestedModel.close pairRef [("K", .primitive .int)]
      (.applied .box [pairOf (.variable "K")])).run.run memory =
      (.ok (.applied .box [nestedInt]), nestedMemory) := by
  rcases holds with rfl | rfl
  · rfl
  · rfl

private theorem mem_nestedTypes {type : HostType} (member : type ∈ nestedTypes) :
    type = nestedInt ∨ type.view = .box [nestedInt.view] ∧ type.parts = [nestedInt] := by
  simp only [nestedTypes, List.mem_cons, List.not_mem_nil, or_false] at member
  rcases member with rfl | rfl
  · exact .inl rfl
  · exact .inr ⟨rfl, rfl⟩

private theorem hasHint_nested {type hint : HostType} {ref : ClassRef} {bindings : TypeBindings}
    (member : type ∈ nestedTypes) (known : HasHint nestedModel NestedHeld type ref bindings hint) :
    ref = pairRef ∧ bindings = [("K", .primitive .int)] ∧
      hint = .applied .box [pairOf (.variable "K")] := by
  rcases mem_nestedTypes member with rfl | ⟨boxed, -⟩
  · cases known with
    | field seenAs bound holds typed inside =>
      cases (show View.record pairRef [.primitive .int] = .record ref _ from seenAs)
      cases (show (Except.ok [("K", HostType.primitive .int)] : Except Failure TypeBindings) =
        .ok bindings from bound)
      rw [typedFields_nested holds] at typed
      cases typed
      rw [List.mem_singleton.mp inside]
      exact ⟨rfl, rfl, rfl⟩
    | slot seenAs =>
      cases (show View.record pairRef [.primitive .int] = .dataEnum ref _ from seenAs)
  · cases known with
    | field seenAs => cases boxed.symm.trans seenAs
    | slot seenAs => cases boxed.symm.trans seenAs

private theorem confines_nested : Confines nestedModel (· ∈ nestedTypes) NestedHeld where
  offered := by
    intro type part member offers
    cases offers with
    | argument isContainer inside =>
      rcases mem_nestedTypes member with rfl | ⟨-, parts⟩
      · exact isContainer.elim
      · rw [parts, List.mem_singleton] at inside
        simp [nestedTypes, inside]
    | part known closes =>
      obtain ⟨rfl, rfl, rfl⟩ := hasHint_nested member known
      obtain ⟨_, holds, closed⟩ := closes
      rw [close_nested holds] at closed
      cases closed
      simp [nestedTypes]
  fields := by
    intro type ref args memory member seenAs holds
    rcases mem_nestedTypes member with rfl | ⟨boxed, -⟩
    · cases (show View.record pairRef [.primitive .int] = .record ref _ from seenAs)
      rwa [typedFields_nested holds]
    · cases boxed.symm.trans seenAs
  closing := by
    intro type ref bindings hint memory member known holds
    obtain ⟨rfl, rfl, rfl⟩ := hasHint_nested member known
    rw [close_nested holds]
    exact .inr rfl

private theorem finite_nested : (nestedModel.reachable .empty nestedInt).Finite :=
  Model.finite_reachable confines_nested (List.mem_cons_self ..) (.inl rfl)

theorem add_ends_nested : (nestedModel.reachable .empty nestedInt).Finite ∧
    ∃ run, Ends nestedModel nestedInt (.empty .java, .empty) run :=
  ⟨finite_nested, add_ends nestedModel nestedInt (.empty .java, .empty) finite_nested⟩

end Collect

end WireModel
