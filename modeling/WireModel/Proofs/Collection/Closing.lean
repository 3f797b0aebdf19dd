import WireModel.Proofs.Codec.Package

/-!
What closing a type depends on: the types that are given to the type variables in it, and nothing
else of what an instantiation gives.
-/

namespace WireModel

namespace HostType

mutual

/-- The type variables that closing a type replaces. -/
def variablesIn : HostType → List String
  | .variable name => [name]
  | .applied _ args => variablesInAll args
  | .union _ members => variablesInAll members
  | .annotated base _ => variablesIn base
  | _ => []

def variablesInAll : List HostType → List String
  | [] => []
  | type :: rest => variablesIn type ++ variablesInAll rest

end

mutual

/-- Closing the type evaluates a string annotation in it, which may name any type variable. -/
def hasTexts : HostType → Bool
  | .text _ | .reference _ _ => true
  | .applied _ args => hasTextsAmong args
  | .union _ members => hasTextsAmong members
  | .annotated base _ => hasTexts base
  | _ => false

/-- Closing one of the types evaluates a string annotation in it. -/
def hasTextsAmong : List HostType → Bool
  | [] => false
  | type :: rest => hasTexts type || hasTextsAmong rest

end

/-- Both give the same types to all type variables that closing the type may meet. -/
def AgreeOn (type : HostType) (bindings others : TypeBindings) : Prop :=
  ∀ name, type.hasTexts = true ∨ name ∈ type.variablesIn → bindings.lookup name = others.lookup name

variable {onText other : String → Resolving HostType} {owner : ClassRef}
    {bindings others : TypeBindings}

mutual

/-- Closing a type depends on what it meets only. -/
theorem closeWith_congr : ∀ (type : HostType),
    (type.hasTexts = true → ∀ expression, onText expression = other expression) →
    (∀ name ∈ type.variablesIn, bindings.lookup name = others.lookup name) →
    closeWith onText owner bindings type = closeWith other owner others type
  | .text expression, texts, _ => texts rfl expression
  | .reference _ expression, texts, _ => texts rfl expression
  | .variable name, _, agree => by
    rw [closeWith, closeWith, agree name (List.mem_singleton_self name)]
  | .applied head [], _, _ => rfl
  | .applied head (arg :: rest), texts, agree => by
    rw [closeWith, closeWith, closeAllWith_congr (arg :: rest) texts agree]
    · simp
    · simp
  | .union spelling members, texts, agree => by
    rw [closeWith, closeWith, closeAllWith_congr members texts agree]
  | .annotated base metadata, texts, agree => by
    rw [closeWith, closeWith, closeWith_congr base texts agree]
  | .primitive _, _, _ | .declared _, _, _ | .builtin _, _, _ | .noneType, _, _ | .none, _, _
  | .initVar _, _, _ | .constant _, _, _ | .container _ _, _, _ | .record _ _, _, _
  | .bound _ _ _, _, _ => rfl

theorem closeAllWith_congr : ∀ (types : List HostType),
    (hasTextsAmong types = true → ∀ expression, onText expression = other expression) →
    (∀ name ∈ variablesInAll types, bindings.lookup name = others.lookup name) →
    closeAllWith onText owner bindings types = closeAllWith other owner others types
  | [], _, _ => rfl
  | type :: rest, texts, agree => by
    have first := closeWith_congr type (fun has => texts (by rw [hasTextsAmong, has, Bool.true_or]))
      fun name member => agree name (List.mem_append_left _ member)
    have behind :=
      closeAllWith_congr rest (fun has => texts (by rw [hasTextsAmong, has, Bool.or_true]))
      fun name member => agree name (List.mem_append_right _ member)
    rw [closeAllWith, closeAllWith, first, behind]

end

mutual

/-- A type closes only if each type variable that it meets stands for a type. -/
theorem bound_of_closeWith : ∀ (type : HostType) {before after : Memory} {closed : HostType},
    (closeWith onText owner bindings type).run.run before = (.ok closed, after) →
    ∀ name ∈ type.variablesIn, (bindings.lookup name).isSome = true
  | .variable name, before, after, closed, succeeds => by
    rw [closeWith] at succeeds
    intro other member
    rw [variablesIn, List.mem_singleton] at member
    rw [member]
    cases found : bindings.lookup name with
    | some type => rfl
    | none =>
      rw [found] at succeeds
      cases succeeds
  | .applied head [], _, _, _, _ =>
    fun _ member => absurd member (by simp [variablesIn, variablesInAll])
  | .applied head (arg :: rest), _, _, _, succeeds => by
    rw [closeWith] at succeeds
    · obtain ⟨_, _, first, -⟩ := Resolving.bind_ok.mp succeeds
      exact bound_of_closeAllWith (arg :: rest) first
    · simp
  | .union _ members, _, _, _, succeeds => by
    rw [closeWith] at succeeds
    obtain ⟨_, _, first, -⟩ := Resolving.bind_ok.mp succeeds
    exact bound_of_closeAllWith members first
  | .annotated base _, _, _, _, succeeds => by
    rw [closeWith] at succeeds
    obtain ⟨_, _, first, -⟩ := Resolving.bind_ok.mp succeeds
    exact bound_of_closeWith base first
  | .text _, _, _, _, _ | .reference _ _, _, _, _, _ | .primitive _, _, _, _, _
  | .declared _, _, _, _, _
  | .builtin _, _, _, _, _ | .noneType, _, _, _, _ | .none, _, _, _, _ | .initVar _, _, _, _, _
  | .constant _, _, _, _, _ | .container _ _, _, _, _, _ | .record _ _, _, _, _, _
  | .bound _ _ _, _, _, _, _ => fun _ member => absurd member (by simp [variablesIn])

theorem bound_of_closeAllWith :
    ∀ (types : List HostType) {before after : Memory} {closed : List HostType},
    (closeAllWith onText owner bindings types).run.run before = (.ok closed, after) →
    ∀ name ∈ variablesInAll types, (bindings.lookup name).isSome = true
  | [], _, _, _, _ => fun _ member => absurd member (by simp [variablesInAll])
  | type :: rest, _, _, _, succeeds => by
    rw [closeAllWith] at succeeds
    obtain ⟨_, _, first, behind⟩ := Resolving.bind_ok.mp succeeds
    obtain ⟨_, _, others, -⟩ := Resolving.bind_ok.mp behind
    intro name member
    rcases List.mem_append.mp member with inside | later
    · exact bound_of_closeWith type first name inside
    · exact bound_of_closeAllWith rest others name later

end

end HostType

/-- An instantiation gives its arguments to the type parameters of its class, in order. -/
theorem Collect.bindings_eq {model : Model} {ref : ClassRef} {type : HostType}
    {bindings : TypeBindings}
    (bound : Collect.bindings model ref type = .ok bindings) :
    bindings = ref.parameters.zip type.parts := by
  rw [Collect.bindings] at bound
  split at bound
  · cases bound
  · split at bound
    · exact (Except.ok.inj bound).symm
    · cases bound

namespace Model

variable {model : Model} {owner : ClassRef} {bindings others : TypeBindings}

/-- Where all type variables stand for the same types, all types close to the same. -/
theorem closeAt_ext (same : ∀ name, bindings.lookup name = others.lookup name) (fuel : Nat) :
    model.closeAt owner bindings fuel = model.closeAt owner others fuel := by
  induction fuel with
  | zero =>
    funext type
    exact HostType.closeWith_congr type (fun _ _ => rfl) fun name _ => same name
  | succ fuel ih =>
    funext type
    exact HostType.closeWith_congr type (fun _ _ => by rw [ih]) fun name _ => same name

/-- A type closes to the same where the type variables that it may meet stand for the same types. -/
theorem close_congr {type : HostType} (agree : type.AgreeOn bindings others) :
    model.close owner bindings type = model.close owner others type := by
  refine HostType.closeWith_congr type (fun has expression => ?_) fun name member =>
    agree name (.inr member)
  rw [closeAt_ext fun name => agree name (.inl has)]

end Model

end WireModel
