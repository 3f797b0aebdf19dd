import WireModel.Proofs.Outcome
import WireModel.Schema.Collection

/-!
What classes have on the wire, whatever the target: all but their own names and their type
expressions. What can be written for one target can be written for any other, and fails in the same
way.
-/

namespace WireModel

namespace Schema

/-- The field without its type expression. -/
def Field.wire (field : Field) : Field :=
  { field with type := .named "" }

/-- The record without class names and type expressions. -/
def Record.wire (entity : Record) : Record :=
  { entity with className := "", fields := entity.fields.map Field.wire }

def Enumeration.wire (entity : Enumeration) : Enumeration :=
  { entity with className := "" }

/-- The payload without type expressions; as many slots are left. -/
def Payload.wire : Payload → Payload
  | .unit => .unit
  | .tuple slots => .tuple (slots.map fun _ => .named "")
  | .object fields => .object (fields.map Field.wire)

/-- The variant without type expressions. -/
def Variant.wire (declared : Variant) : Variant :=
  { declared with payload := declared.payload.wire }

/-- The data enum without class names and type expressions. -/
def DataEnum.wire (entity : DataEnum) : DataEnum :=
  { entity with className := "", variants := entity.variants.map Variant.wire }

/-- The class without class names and type expressions. -/
def Entity.wire : Entity → Entity
  | .record entity => .record entity.wire
  | .enumeration entity => .enumeration entity.wire
  | .dataEnum entity => .dataEnum entity.wire

end Schema

/-- The schema without class names and type expressions: what its classes have on the wire. -/
def Schema.wire (schema : Schema) : Schema where
  records := schema.records.map Record.wire
  enumerations := schema.enumerations.map Enumeration.wire
  dataEnums := schema.dataEnums.map DataEnum.wire

theorem Schema.wire_add (schema : Schema) (entity : Entity) :
    (schema.add entity).wire = schema.wire.add entity.wire := by
  cases entity <;> simp [add, wire, Entity.wire]

/-- Two results for two targets are one on the wire, and one if the targets are. -/
structure Agrees {α β : Type} (target other : Target) (wire : α → β)
    (value another : α) : Prop where
  wire : wire another = wire value
  same : target = other → another = value

/-- Results that mean nothing on the wire. -/
abbrev Spelled {α : Type} (target other : Target) (value another : α) : Prop :=
  target = other → another = value

section Agrees

variable {α β γ : Type} {target other : Target}

theorem Agrees.forall₂ {wire : α → β} {values others : List α}
    (agree : List.Forall₂ (Agrees target other wire) values others) :
    Agrees target other (List.map wire) values others := by
  induction agree with
  | nil => exact ⟨rfl, fun _ => rfl⟩
  | cons first _ ih =>
    refine ⟨by rw [List.map_cons, List.map_cons, first.wire, ih.wire], fun equal => ?_⟩
    rw [first.same equal, ih.same equal]

theorem Spelled.agrees {value another : α} (spelled : Spelled target other value another)
    (name : β) :
    Agrees target other (fun _ => name) value another :=
  ⟨rfl, spelled⟩

end Agrees

/-- Both outcomes succeed, with related results, or both fail with one failure. -/
inductive Outcome.Alike {ε α β : Type} (relates : α → β → Prop) : Except ε α → Except ε β → Prop
  | succeed {value : α} {other : β} : relates value other → Alike relates (.ok value) (.ok other)
  | fail {failure : ε} : Alike relates (.error failure) (.error failure)

namespace Outcome.Alike

variable {ε α β γ δ : Type} {relates : α → β → Prop} {relatesNext : γ → δ → Prop}

theorem bind {outcome : Except ε α} {another : Except ε β} {next : α → Except ε γ}
    {nextOther : β → Except ε δ} (first : Alike relates outcome another)
    (rest : ∀ value other, relates value other → Alike relatesNext (next value) (nextOther other)) :
    Alike relatesNext (outcome >>= next) (another >>= nextOther) := by
  cases first with
  | succeed related => exact rest _ _ related
  | fail => exact .fail

theorem discard {outcome : Except ε α} {another : Except ε β}
    (alike : Alike relates outcome another) :
    Alike (fun _ _ => True) (discard outcome) (discard another) := by
  cases alike with
  | succeed _ => exact .succeed trivial
  | fail => exact .fail

end Outcome.Alike

namespace View

/-- What is written of two targets. -/
abbrev Written {α : Type} (outcome another : Except Failure α) : Prop :=
  Outcome.Alike (fun _ _ => True) outcome another

mutual

theorem fragment_written (target other : Target) :
    ∀ view : View, Written (fragment target view) (fragment other view)
  | .refused _ => .fail
  | .primitive _ => .succeed trivial
  | .list [] | .map [] | .box [] => .fail
  | .list (item :: _) => (fragment_written target other item).bind fun _ _ _ => .succeed trivial
  | .map [key] => (fragment_written target other key).discard.bind fun _ _ _ => .fail
  | .map (key :: value :: _) => (fragment_written target other key).bind fun _ _ _ =>
    (fragment_written target other value).bind fun _ _ _ => .succeed trivial
  | .optional type => fragment_written target other type
  | .box (type :: _) => fragment_written target other type
  | .record _ args => (fragments_written target other args).bind fun _ _ _ => .succeed trivial
  | .enumeration _ => .succeed trivial
  | .dataEnum _ args => (fragments_written target other args).bind fun _ _ _ => .succeed trivial

theorem fragments_written (target other : Target) :
    ∀ views : List View, Written (fragments target views) (fragments other views)
  | [] => .succeed trivial
  | view :: rest => (fragment_written target other view).bind fun _ _ _ =>
    (fragments_written target other rest).bind fun _ _ _ => .succeed trivial

end

theorem className_written (target other : Target) :
    ∀ view : View, Written (className target view) (className other view)
  | .refused _ => .fail
  | .primitive _ | .enumeration _ => .succeed trivial
  | .list args | .map args | .box args | .record _ args | .dataEnum _ args =>
    (fragments_written target other args).bind fun _ _ _ => .succeed trivial
  | .optional type => (fragments_written target other [type]).bind fun _ _ _ => .succeed trivial

theorem typeExpr_written (target other : Target) :
    ∀ view : View, Written (typeExpr target view) (typeExpr other view)
  | .refused _ => .fail
  | .primitive _ | .enumeration _ => .succeed trivial
  | .list [] | .map [] | .box [] => .fail
  | .list (item :: _) => (typeExpr_written target other item).bind fun _ _ _ => .succeed trivial
  | .map [key] => (typeExpr_written target other key).discard.bind fun _ _ _ => .fail
  | .map (key :: value :: _) => (typeExpr_written target other key).bind fun _ _ _ =>
    (typeExpr_written target other value).bind fun _ _ _ => .succeed trivial
  | .optional type => typeExpr_written target other type
  | .box (type :: _) => typeExpr_written target other type
  | .record _ args | .dataEnum _ args =>
    (fragments_written target other args).bind fun _ _ _ => .succeed trivial

end View

/-- What can be written for one target can be written for the other one. -/
theorem Outcome.Alike.spelled {α : Type} {rule : Target → Except Failure α} {target other : Target}
    (written : View.Written (rule target) (rule other)) :
    Alike (Spelled target other) (rule target) (rule other) := by
  by_cases same : target = other
  · subst same
    cases rule target with
    | ok value => exact .succeed fun _ => rfl
    | error failure => exact .fail
  · generalize rule target = outcome, rule other = another at written
    cases written with
    | succeed _ => exact .succeed fun equal => (same equal).elim
    | fail => exact .fail

end WireModel
