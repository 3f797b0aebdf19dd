import WireModel.Proofs.Collection.Forward

/-!
What can be read off declarations alone: how the fields of records are read, and whether any class
can tell spellings apart. A string may stand in a hint if it is the name of a class.
-/

namespace WireModel

namespace HostType

/-- What the annotation of a field is read as where some strings name classes. -/
def annotationBy (named : String → Option ClassRef) (type : HostType) : HostType :=
  match type, type.asText? with
  | .none, _ => .noneType
  | _, some expression => ((named expression).map declared).getD type
  | _, _ => type.readBy named

/-- The annotation of a field is read in one way, whatever was built before. -/
def isReadableField (known : List ClassRef) (named : String → Option ClassRef)
    (type : HostType) : Bool :=
  match type.asText? with
  | some expression => (named expression).isSome
  | Option.none => type.isReadable known named

theorem fieldType_steady {known : List ClassRef} {scope : Scope}
    (ofRecord : scope.record.isSome = true) {type : HostType}
    (readable : type.isReadableField known (scope.model.classOfText? scope.module) = true) :
    Evaluation.Steady known (scope.fieldType type)
      (type.annotationBy (scope.model.classOfText? scope.module)) := by
  unfold isReadableField at readable
  cases written : type.asText? with
  | some expression =>
    rw [written] at readable
    obtain ⟨ref, named⟩ := Option.isSome_iff_exists.mp readable
    have given : type ≠ .none := by
      rintro rfl
      cases written
    rw [Scope.fieldType.eq_2 scope type expression given written,
      annotationBy.eq_2 _ type expression given written, named]
    exact scope.typeOfText_steady named true
  | none =>
    rw [written] at readable
    by_cases given : type = .none
    · rw [given]
      exact .pure _
    · have noText (expression : String) (found : type.asText? = some expression) : False := by
        rw [written] at found
        cases found
      rw [Scope.fieldType.eq_3 scope type given noText, annotationBy.eq_3 _ type given noText]
      exact resolveReferences_steady ofRecord _ type readable

mutual

/-- The hint with classes for the strings that name these. -/
def spelledOut (named : String → Option ClassRef) : HostType → HostType
  | .text expression => ((named expression).map declared).getD (.text expression)
  | .reference serial expression =>
    ((named expression).map declared).getD (.reference serial expression)
  | .applied head args => .applied head (allSpelledOut named args)
  | .union spelling members => .union spelling (allSpelledOut named members)
  | .annotated base metadata => .annotated (spelledOut named base) metadata
  | type => type

def allSpelledOut (named : String → Option ClassRef) : List HostType → List HostType
  | [] => []
  | type :: rest => spelledOut named type :: allSpelledOut named rest

end

end HostType

namespace Model

open HostType

variable {model : Model} {known : List ClassRef} {owner : ClassRef}

theorem spells_of_named {type : HostType} {expression : String}
    (written : type.expression? = some expression)
    (regular : ((((model.classOfText? owner.module expression).map declared).getD
      type).isRegular known) = true) :
    model.Spells known owner type
      (((model.classOfText? owner.module expression).map declared).getD type) := by
  cases named : model.classOfText? owner.module expression with
  | some ref => exact .text written (Model.evaluate_steady named) (.atom rfl)
  | none =>
    rw [named] at regular
    cases type <;> contradiction

mutual

/-- A hint stands for the classes that its strings name. -/
theorem spells_spelledOut (type : HostType)
    (regular : (type.spelledOut (model.classOfText? owner.module)).isRegular known = true) :
    model.Spells known owner type (type.spelledOut (model.classOfText? owner.module)) := by
  cases type with
  | text expression | reference serial expression => exact spells_of_named rfl regular
  | «variable» name => exact .parameter name
  | applied head args =>
    exact .applied (spellsAll_allSpelledOut args (Bool.and_eq_true_iff.mp regular).2)
  | union spelling members =>
    exact .union (spellsAll_allSpelledOut members (Bool.and_eq_true_iff.mp regular).2)
  | annotated base metadata =>
    exact .annotated (spells_spelledOut base (Bool.and_eq_true_iff.mp regular).2)
  | _ => exact .atom (Bool.and_eq_true_iff.mp regular).1

theorem spellsAll_allSpelledOut (types : List HostType)
    (regular : areRegular known (allSpelledOut (model.classOfText? owner.module) types) = true) :
    List.Forall₂ (model.Spells known owner) types
      (allSpelledOut (model.classOfText? owner.module) types) := by
  cases types with
  | nil => exact .nil
  | cons type rest =>
    obtain ⟨first, behind⟩ := Bool.and_eq_true_iff.mp regular
    exact .cons (spells_spelledOut type first) (spellsAll_allSpelledOut rest behind)

end

/-- What the annotations of a class are read as. -/
def ownTypesRead (model : Model) (origin : ClassDecl) : List (String × HostType) :=
  (origin.annotations.getD []).map fun field =>
    (field.1, field.2.annotationBy (model.classOfText? origin.ref.module))

/-- What the annotations of some classes are read as, of which the first one has the last word. -/
def typesRead (model : Model) (declared : List ClassDecl) : List (String × HostType) :=
  declared.reverse.foldl (fun known origin =>
    (model.ownTypesRead origin).foldl (fun known field => bindEntry known field.1 field.2) known) []

/-- The fields of a record with what their annotations are read as. -/
def fieldsRead (model : Model) (ref : ClassRef) : List (String × HostType) :=
  (model.fields ref).map fun entry =>
    (entry.name, ((model.typesRead (model.declarations ref)).lookup entry.name).getD entry.type)

def hasReadableAnnotations (model : Model) (origin : ClassDecl) : Bool :=
  (origin.annotations.getD []).all fun field =>
    field.2.isReadableField model.refs (model.classOfText? origin.ref.module)

theorem ownTypes_steady {origin : ClassDecl}
    (readable : model.hasReadableAnnotations origin = true) :
    Outcome.Steady model.refs (model.ownTypes origin) (model.ownTypesRead origin) :=
  Scope.run_steady _ (Evaluation.Steady.mapM _ fun field inside =>
    (fieldType_steady rfl (List.all_eq_true.mp readable field inside)).bind (.pure _))

theorem typesOf_steady {declared : List ClassDecl}
    (readable : ∀ origin ∈ declared, model.hasReadableAnnotations origin = true) :
    Outcome.Steady model.refs (model.typesOf declared) (model.typesRead declared) := by
  refine Outcome.Steady.foldlM _ (fun origin inside types => ?_) []
  exact (ownTypes_steady (readable origin (List.mem_reverse.mp inside))).bind (.pure _)

/-- Whatever was built before, the fields of a record have the types that are read. -/
theorem typedFields_steady {ref : ClassRef}
    (readable : (model.declarations ref).all model.hasReadableAnnotations = true) :
    Outcome.Steady model.refs (model.typedFields ref) (model.fieldsRead ref) :=
  (Outcome.Steady.adapt _ (typesOf_steady (List.all_eq_true.mp readable))).bind (.pure _)

/-- All hints of a model are regular once their strings are spelled out: the annotations of records
and of what these are derived from, which are read in one way, and what variants carry. -/
def hasRegularHints (model : Model) : Bool :=
  model.classes.all fun declared =>
    let isRegularHint (hint : HostType) : Bool :=
      (hint.spelledOut (model.classOfText? declared.ref.module)).isRegular model.refs
    (model.declarations declared.ref).all model.hasReadableAnnotations &&
    (model.fieldsRead declared.ref).all (fun field => isRegularHint field.2) &&
    (model.variants declared.ref).all fun offered => offered.payload.types.all isRegularHint

/-- Whether no class can tell spellings apart can be read off the declarations. -/
theorem Indifferent.of_hasRegularHints (regular : model.hasRegularHints = true) :
    model.Indifferent := by
  have each (declared : ClassDecl) (inside : declared ∈ model.classes) :=
    List.all_eq_true.mp regular declared inside
  simp only [Bool.and_eq_true] at each
  constructor
  · intro declared inside _
    obtain ⟨⟨readable, hints⟩, -⟩ := each declared inside
    refine ⟨_, typedFields_steady readable, fun field member => ?_⟩
    have hint := List.all_eq_true.mp hints field member
    exact ⟨_, spells_spelledOut _ hint, hint⟩
  · intro declared inside offered member hint carried
    obtain ⟨-, variants⟩ := each declared inside
    have plain := List.all_eq_true.mp (List.all_eq_true.mp variants offered member) hint carried
    exact ⟨_, spells_spelledOut _ plain, plain⟩

/-- A string that stands for an optional class has to be the name of one. -/
example :
    (Collect.pairModelOf (.union .qualified [.reference 0 "Pair", .noneType])).hasRegularHints =
      true ∧
    (Collect.pairModelOf (.union .qualified [.reference 0 "Other", .noneType])).hasRegularHints =
      false := by
  decide +kernel

end Model

end WireModel
