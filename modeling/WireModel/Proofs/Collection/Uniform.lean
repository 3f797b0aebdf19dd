import WireModel.Proofs.Collection.Exactness
import WireModel.Proofs.Identity

/-!
Classes that do not tell spellings apart. Two types of one identity may differ in what identities
leave out, which is read again where a type stands for a type parameter: as the tag of a field, or
where a union puts equal members together. What is said here of one class after the other is what a
whole run needs.
-/

namespace WireModel

/-- Both outcomes succeed, with related results, or both fail. -/
inductive Outcome.Agree {ε α β : Type} (relates : α → β → Prop) : Except ε α → Except ε β → Prop
  | succeed {value : α} {other : β} : relates value other → Agree relates (.ok value) (.ok other)
  | fail {failure other : ε} : Agree relates (.error failure) (.error other)

namespace Outcome.Agree

variable {ε α β : Type} {relates : α → β → Prop} {outcome : Except ε α} {another : Except ε β}

theorem refl (outcome : Except ε α) : Agree Eq outcome outcome := by
  cases outcome with
  | ok value => exact .succeed rfl
  | error failure => exact .fail

/-- The related results are those of the outcomes. -/
theorem mono {weaker : α → β → Prop} (agree : Agree relates outcome another)
    (weaken : ∀ value other, relates value other → outcome = .ok value → another = .ok other →
      weaker value other) : Agree weaker outcome another := by
  cases agree with
  | succeed related => exact .succeed (weaken _ _ related rfl rfl)
  | fail => exact .fail

theorem eq_ok {another : Except ε α} {value : α} (agree : Agree Eq (.ok value) another) :
    another = .ok value := by
  cases agree with
  | succeed same => rw [same]

end Outcome.Agree

/-- The types have one identity, or none. -/
def HostType.SameIdentity (type other : HostType) : Prop :=
  type.view.identity.toOption = other.view.identity.toOption

theorem HostType.SameIdentity.agree {type other : HostType} (same : type.SameIdentity other) :
    Outcome.Agree (fun identity another => identity = another ∧
        type.view.identity = .ok identity ∧ other.view.identity = .ok another)
      type.view.identity other.view.identity := by
  rw [SameIdentity] at same
  cases identified : type.view.identity with
  | error error =>
    cases identifiedOther : other.view.identity with
    | error another => exact .fail
    | ok another => simp [identified, identifiedOther, Except.toOption] at same
  | ok identity =>
    cases identifiedOther : other.view.identity with
    | error another => simp [identified, identifiedOther, Except.toOption] at same
    | ok another =>
      simp only [identified, identifiedOther, Except.toOption, Option.some.injEq] at same
      exact .succeed ⟨same, rfl, rfl⟩

theorem HostType.SameIdentity.identified {type other : HostType} (same : type.SameIdentity other)
    {identity : Identity} (known : type.view.identity = .ok identity) :
    other.view.identity = .ok identity := by
  have agree := same.agree
  rw [known] at agree
  generalize other.view.identity = outcome at agree
  cases agree with
  | succeed related =>
    obtain ⟨rfl, same, found⟩ := related
    rw [found, same]

/-- The types have one identity and give a field of some name one tag. -/
def HostType.SameField (name : String) (type other : HostType) : Prop :=
  type.SameIdentity other ∧ Collect.fieldTag name type = Collect.fieldTag name other

section Respects

variable (model : Model) (held : Memory → Prop) (ref : ClassRef) (bindings others : TypeBindings)

/-- Whatever was evaluated before, a part of a class closes to related types in two instantiations
of the class, or in none of them. -/
def ClosesAlike (relates : HostType → HostType → Prop) (hint other : HostType) : Prop :=
  ∀ memory later, held memory → held later →
    Outcome.Agree relates ((model.close ref bindings hint).run.run memory).1
      ((model.close ref others other).run.run later).1

/-- Two fields have one name, and close to types of one identity and tag. -/
def FieldsAlike (field other : String × HostType) : Prop :=
  other.1 = field.1 ∧
    ClosesAlike model held ref bindings others (HostType.SameField field.1) field.2 other.2

/-- What a variant carries closes to types of one identity, and of one tag where they are fields. -/
def PayloadAlike : Payload → Prop
  | .unit => True
  | .tuple slots =>
    ∀ hint ∈ slots, ClosesAlike model held ref bindings others HostType.SameIdentity hint hint
  | .object fields => ∀ field ∈ fields, FieldsAlike model held ref bindings others field field

end Respects

/-- Classes do not tell apart the types of one identity that they are instantiated with. -/
structure Respects (model : Model) (types : HostType → Prop) (held : Memory → Prop) : Prop where
  fields : ∀ {type other : HostType} {identity : Identity} {ref : ClassRef} {args : List View}
    {bindings others : TypeBindings}, types type → types other →
    type.view.identity = .ok identity → other.view.identity = .ok identity →
    type.view = .record ref args → Collect.bindings model ref type = .ok bindings →
    Collect.bindings model ref other = .ok others → ∀ memory later, held memory → held later →
    Outcome.Agree (List.Forall₂ (FieldsAlike model held ref bindings others))
      ((model.typedFields ref).run.run memory).1 ((model.typedFields ref).run.run later).1
  variants : ∀ {type other : HostType} {identity : Identity} {ref : ClassRef} {args : List View}
    {bindings others : TypeBindings}, types type → types other →
    type.view.identity = .ok identity → other.view.identity = .ok identity →
    type.view = .dataEnum ref args → Collect.bindings model ref type = .ok bindings →
    Collect.bindings model ref other = .ok others → ∀ declared ∈ model.variants ref,
    PayloadAlike model held ref bindings others declared.payload

/-- A run over some roots comes to declared classes only, and none of those tells spellings apart:
the types that it may come to, and the memories that it may leave behind, are among some for which
all this holds. -/
structure UniformOn (model : Model) (start : Memory) (roots : List HostType)
    (types : HostType → Prop) (held : Memory → Prop) : Prop where
  confines : Confines model types held
  arises : ∀ memory, held memory → Arises model start memory
  roots : ∀ root ∈ roots, types root
  start : held start
  declares : ∀ {type : HostType}, types type → model.Declares type
  respects : Respects model types held

/-- No class that a run over some roots comes to tells spellings apart. -/
def Uniform (model : Model) (start : Memory) (roots : List HostType) : Prop :=
  ∃ types held, UniformOn model start roots types held

theorem View.IsContainer.exists_args {shown : View} (isContainer : shown.IsContainer) :
    ∃ args, shown.args? = some args := by
  cases shown with
  | list args | map args | box args | optional part => exact ⟨_, rfl⟩
  | refused error | primitive shown | record ref args | enumeration ref | dataEnum ref args =>
    exact isContainer.elim

namespace Collect

variable {model : Model} {type other : HostType}

/-- Types that are seen alike bind the type parameters of their class both, or neither does. -/
theorem bindings_agree {args : List View} (kept : type.view.args? = some args)
    (same : type.view = other.view) (ref : ClassRef) :
    Outcome.Agree (fun bound boundOther => bindings model ref type = .ok bound ∧
        bindings model ref other = .ok boundOther)
      (bindings model ref type) (bindings model ref other) := by
  have count : type.parts.length = other.parts.length := by
    simpa using congrArg List.length (HostType.map_view_parts same kept)
  have agree :
      Outcome.Agree (fun _ _ => True) (bindings model ref type) (bindings model ref other) := by
    simp only [bindings, count]
    split
    · exact .fail
    · split
      · exact .succeed trivial
      · exact .fail
  exact agree.mono fun _ _ _ bound boundOther => ⟨bound, boundOther⟩

end Collect

namespace Collect

/-- The model of a record with a parameter and a field of a type. -/
def pairModelOf (field : HostType) : Model where
  classes := [pairClass field]
  bindings := [⟨"models", "Pair", pairRef⟩]
  typeVariables := ["K"]

/-- That record with an argument. -/
def pairOf (arg : HostType) : HostType :=
  .applied (.declared pairRef) [arg]

/-- A number with an annotation that means nothing. -/
def markedInt : HostType :=
  .annotated (.primitive .int) [.text "m"]

/-- A number with a name on the wire. -/
def renamedInt : HostType :=
  .annotated (.primitive .int) [.rename "y"]

theorem pairModelOf_namesApart (field : HostType) : (pairModelOf field).NamesApart where
  distinct := by simp [pairModelOf]
  foreign := by
    intro declared member
    rw [List.mem_singleton.mp member]
    show pairRef.identityName ∉ Identity.languageNames
    decide

end Collect

end WireModel
