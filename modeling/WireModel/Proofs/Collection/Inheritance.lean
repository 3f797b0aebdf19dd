import WireModel.Proofs.Collection.Closing
import WireModel.Proofs.Collection.Exactness
import WireModel.Proofs.Search

/-!
Where a record has its fields from. An inherited field has the type that the nearest class with an
annotation of its name gives it, read in the module of that class and closed with what the record
itself was instantiated with: the type variables in it are told by their names, whatever the record
gives to the class that it inherits from.
-/

namespace WireModel

theorem Evaluation.bind_ok {α β : Type} {step : Evaluation α} {next : α → Evaluation β}
    {locals later : Locals} {before after : Memory} {result : β} :
    ((step >>= next).run locals).run.run before = (.ok (result, later), after) ↔
      ∃ value between memory, (step.run locals).run.run before = (.ok (value, between), memory) ∧
        ((next value).run between).run.run memory = (.ok (result, later), after) := by
  rw [StateT.run_bind, Resolving.bind_ok]
  simp

/-- A step whose failures are told otherwise succeeds where it did. -/
theorem Resolving.adapt_ok {ε ε' α : Type} {tell : ε → ε'} {step : ExceptT ε (StateM Memory) α}
    {before after : Memory} {value : α} :
    (ExceptT.adapt tell step).run.run before = (.ok value, after) ↔
      step.run.run before = (.ok value, after) := by
  have run : (ExceptT.adapt tell step).run.run before =
      ((step.run.run before).1.mapError tell, (step.run.run before).2) := rfl
  rw [run]
  rcases step.run.run before with ⟨failure | found, memory⟩
  · constructor <;> (intro same; cases same)
  · constructor <;> (intro same; cases same; rfl)

namespace Model

/-- The nearest of some classes with an annotation of a name, and that annotation. -/
def nearest? (declared : List ClassDecl) (name : String) : Option (ClassDecl × HostType) :=
  declared.findSome? fun origin =>
    ((origin.annotations.getD []).reverse.lookup name).map (origin, ·)

/-- The class that a record has a field from, and the annotation there. -/
def annotation? (model : Model) (ref : ClassRef) (name : String) : Option (ClassDecl × HostType) :=
  nearest? (model.declarations ref) name

/-- The scope of the annotations of a record. -/
def scopeOf (model : Model) (origin : ClassDecl) : Scope :=
  ⟨model, origin.ref.module, none, some origin.ref⟩

/-- The annotation of a class is read as a type, in the module of the class. -/
def Reads (model : Model) (origin : ClassDecl) (written hint : HostType) : Prop :=
  ∃ locals later before after,
    (((model.scopeOf origin).fieldType written).run locals).run.run before =
    (.ok (hint, later), after)

def ownTypes (model : Model) (origin : ClassDecl) : Building (List (String × HostType)) :=
  (model.scopeOf origin).run ((origin.annotations.getD []).mapM fun field => do
    return (field.1, ← (model.scopeOf origin).fieldType field.2))

/-- The types of the annotations of some classes, of which the first one has the last word. -/
def typesOf (model : Model) (declared : List ClassDecl) : Building (List (String × HostType)) :=
  declared.reverse.foldlM (fun known origin => do
    return (← model.ownTypes origin).foldl (fun known field =>
      bindEntry known field.1 field.2) known) []

variable {model : Model} {origin : ClassDecl} {before after : Memory}

theorem fieldTypes_eq (ref : ClassRef) :
    model.fieldTypes ref = model.typesOf (model.declarations ref) :=
  rfl

theorem mapM_reads {fields own : List (String × HostType)} {locals later : Locals}
    (succeeds : ((fields.mapM fun field => do
        return (field.1, ← (model.scopeOf origin).fieldType field.2) :
          Evaluation (List (String × HostType))).run locals).run.run before =
            (.ok (own, later), after)) :
    List.Forall₂ (fun field typed => typed.1 = field.1 ∧ model.Reads origin field.2 typed.2)
      fields own := by
  induction fields generalizing own locals before with
  | nil =>
    cases succeeds
    exact .nil
  | cons field rest ih =>
    rw [List.mapM_cons] at succeeds
    obtain ⟨first, between, memory, reads, behind⟩ := Evaluation.bind_ok.mp succeeds
    obtain ⟨others, last, kept, remaining, same⟩ := Evaluation.bind_ok.mp behind
    obtain ⟨hint, seen, held, found, typed⟩ := Evaluation.bind_ok.mp reads
    cases typed
    cases same
    exact .cons ⟨rfl, locals, _, before, _, found⟩ (ih remaining)

theorem ownTypes_reads {own : List (String × HostType)}
    (succeeds : (model.ownTypes origin).run.run before = (.ok own, after)) :
    List.Forall₂ (fun field typed => typed.1 = field.1 ∧ model.Reads origin field.2 typed.2)
      (origin.annotations.getD []) own := by
  obtain ⟨locals, between, -, behind⟩ := Resolving.bind_ok.mp succeeds
  obtain ⟨⟨own', later⟩, last, reads, same⟩ := Resolving.bind_ok.mp behind
  cases same
  exact mapM_reads reads

/-- The nearest class with an annotation of a name has the last word. -/
theorem lookup_typesOf {declared : List ClassDecl} {types : List (String × HostType)}
    (succeeds : (model.typesOf declared).run.run before = (.ok types, after)) {name : String}
    {written : HostType} (nearest : nearest? declared name = some (origin, written)) :
    ∃ hint, types.lookup name = some hint ∧ model.Reads origin written hint := by
  induction declared generalizing types after with
  | nil => cases nearest
  | cons first rest ih =>
    rw [typesOf, List.reverse_cons, List.foldlM_append] at succeeds
    obtain ⟨known, between, others, behind⟩ := Resolving.bind_ok.mp succeeds
    rw [List.foldlM_cons] at behind
    obtain ⟨bound, last, step, same⟩ := Resolving.bind_ok.mp behind
    cases same
    obtain ⟨own, held, reads, same⟩ := Resolving.bind_ok.mp step
    cases same
    have related := List.rel_reverse (ownTypes_reads reads)
    rw [Search.lookup_foldl_bindEntry]
    rw [nearest?, List.findSome?_cons] at nearest
    cases given : (first.annotations.getD []).reverse.lookup name with
    | some type =>
      rw [given] at nearest
      cases nearest
      obtain ⟨hint, found, reads⟩ := Search.lookup_related related given
      exact ⟨hint, by rw [found, Option.some_or], reads⟩
    | none =>
      rw [given] at nearest
      obtain ⟨hint, found, reads⟩ := ih others nearest
      exact ⟨hint, by rw [Search.lookup_related_none related given, Option.none_or, found], reads⟩

/-- A field has the type of the nearest annotation of its name. -/
theorem typedFields_reads {ref : ClassRef} {memory : Memory} {fields : List (String × HostType)}
    (typed : ((model.typedFields ref).run.run memory).1 = .ok fields) {field : String × HostType}
    (member : field ∈ fields) {written : HostType}
    (nearest : model.annotation? ref field.1 = some (origin, written)) :
    model.Reads origin written field.2 := by
  have run : (model.typedFields ref).run.run memory =
      (.ok fields, ((model.typedFields ref).run.run memory).2) := Prod.ext typed rfl
  obtain ⟨types, between, read, same⟩ := Resolving.bind_ok.mp run
  obtain rfl := Except.ok.inj (Prod.mk.inj same).1
  have read := Resolving.adapt_ok.mp read
  obtain ⟨entry, -, rfl⟩ := List.mem_map.mp member
  obtain ⟨hint, found, reads⟩ := lookup_typesOf read nearest
  rwa [found]

end Model

variable {model : Model} {start : Memory} {ref : ClassRef} {bindings : TypeBindings}

/-- What the bases of a class, and theirs in turn, give to the type parameters of an ancestor where
the class itself was given some types. -/
inductive Instantiates (model : Model) (start : Memory) (ref : ClassRef) (bindings : TypeBindings) :
    ClassRef → TypeBindings → Prop
  | self : Instantiates model start ref bindings ref bindings
  | plain {child base : ClassRef} {outer : TypeBindings} {declared : ClassDecl} :
      Instantiates model start ref bindings child outer → model.find? child = some declared →
      .declared base ∈ declared.bases → Instantiates model start ref bindings base []
  | generic {child base : ClassRef} {outer : TypeBindings} {declared : ClassDecl}
      {args values : List HostType} :
      Instantiates model start ref bindings child outer → model.find? child = some declared →
      .applied (.declared base) args ∈ declared.bases →
      List.Forall₂ (ClosesTo model start child outer) args values →
      Instantiates model start ref bindings base (base.parameters.zip values)

/-- The type of a field is the annotation of a class closed by the type parameters of the record:
all type variables in it have names of those. It is what the bases of the record make of the
annotation wherever they give to these type variables the types that the record was given for its
own. -/
structure InheritedFrom (model : Model) (start : Memory) (ref : ClassRef) (bindings : TypeBindings)
    (origin : ClassDecl) (hint closed : HostType) : Prop where
  closes : ClosesTo model start ref bindings hint closed
  named : ∀ name ∈ hint.variablesIn, name ∈ ref.parameters
  instantiated : ∀ values, Instantiates model start ref bindings origin.ref values →
    hint.AgreeOn bindings values → ClosesTo model start ref values hint closed

theorem InheritedFrom.of_closes {origin : ClassDecl} {hint closed type : HostType}
    (bound : Collect.bindings model ref type = .ok bindings)
    (closes : ClosesTo model start ref bindings hint closed) :
    InheritedFrom model start ref bindings origin hint closed := by
  obtain ⟨memory, arises, found⟩ := closes
  refine ⟨⟨memory, arises, found⟩, fun name member => ?_, fun values _ agree =>
    ⟨memory, arises, ?_⟩⟩
  · have run : (model.close ref bindings hint).run.run memory = (.ok closed, _) :=
      Prod.ext found rfl
    have isBound := HostType.bound_of_closeWith hint run name member
    rw [Collect.bindings_eq bound] at isBound
    obtain ⟨value, given⟩ := Option.isSome_iff_exists.mp isBound
    obtain ⟨front, back, entries, -⟩ := List.lookup_eq_some_iff.mp given
    exact (List.of_mem_zip (show (name, value) ∈ _ by rw [entries]; simp)).1
  · rwa [← Model.close_congr agree]

namespace Collect

variable {target : Target} {roots : List HostType}

/-- The fields of a record have the types that their annotations stand for where these were
written. -/
theorem HasContent.inherited {type : HostType} {fields : List (String × HostType)}
    (content : HasContent model start type (.record ref fields)) :
    ∃ bindings, Collect.bindings model ref type = .ok bindings ∧ ∀ field ∈ fields, ∀ origin written,
      model.annotation? ref field.1 = some (origin, written) →
      ∃ hint, model.Reads origin written hint ∧
        InheritedFrom model start ref bindings origin hint field.2 := by
  cases content with
  | record _ bound _ typed closes =>
    refine ⟨_, bound, fun field member origin written nearest => ?_⟩
    obtain ⟨declared, inside, same, closesTo⟩ := Outcome.exists_related closes.flip member
    rw [same] at nearest
    exact ⟨declared.2, Model.typedFields_reads typed inside nearest, .of_closes bound closesTo⟩

/-- Each field of a collected record has the type that the nearest class with an annotation of its
name gives it, closed by what the record was instantiated with: inherited fields of generic classes
are what the bases make of them wherever equal names of type variables stand for equal types. -/
theorem addAll_inherited {collection : Collection} {memory : Memory}
    (succeeds : ((addAll model roots).run.run (.empty target)).run start =
      ((.ok (), collection), memory)) :
    ∃ walk : List Expansion, collection.schema.entities.Perm (walk.filterMap Expansion.entity) ∧
      (∀ root ∈ roots, ∃ expansion ∈ walk, root.view.identity = .ok expansion.identity) ∧
      ∀ expansion ∈ walk, expansion.Valid model start target ∧
        ∀ ref fields, expansion.content = .record ref fields →
          ∃ bindings, Collect.bindings model ref expansion.type = .ok bindings ∧
            ∀ field ∈ fields, ∀ origin written,
              model.annotation? ref field.1 = some (origin, written) →
              ∃ hint, model.Reads origin written hint ∧
                InheritedFrom model start ref bindings origin hint field.2 := by
  obtain ⟨walk, walked⟩ := addAll_walked succeeds
  refine ⟨walk, walked.entities, fun root member => ?_, fun expansion member => ?_⟩
  · obtain ⟨identity, seen, known⟩ := walked.rooted root member
    obtain ⟨expansion, inside, rfl⟩ := walked.mem_seen.mp seen
    exact ⟨expansion, inside, known⟩
  · have valid := walked.valid expansion member
    refine ⟨valid, fun ref fields made => ?_⟩
    exact HasContent.inherited (made ▸ valid.content)

def baseRef : ClassRef where
  serial := 0
  module := "models"
  qualifiedName := "Base"
  name := "Base"
  category := .record
  parameters := ["K"]
  brackets := .parameters

def heirRef : ClassRef where
  serial := 1
  module := "models"
  qualifiedName := "Heir"
  name := "Heir"
  category := .record
  parameters := ["K"]
  brackets := .parameters

def baseClass : ClassDecl where
  ref := baseRef
  bases := [.applied .generic [.variable "K"]]
  parents := [.language "Generic"]
  ancestry := [.declared baseRef, .language "Generic", .language "object"]
  annotations := some [("x", .variable "K")]
  entries := some [⟨"x", .field, .variable "K", none⟩]
  memberNames := []
  members := []
  variants := []

/-- A record that gives a type to the type parameter of its base, and has one of the same name. -/
def heirClass (given : HostType) : ClassDecl where
  ref := heirRef
  bases := [.applied (.declared baseRef) [given], .applied .generic [.variable "K"]]
  parents := [.declared baseRef, .language "Generic"]
  ancestry := [.declared heirRef, .declared baseRef, .language "Generic", .language "object"]
  annotations := some [("y", .variable "K")]
  entries := some [⟨"x", .field, .variable "K", none⟩, ⟨"y", .field, .variable "K", none⟩]
  memberNames := []
  members := []
  variants := []

def heirModel (given : HostType) : Model where
  classes := [baseClass, heirClass given]
  bindings := [⟨"models", "Base", baseRef⟩, ⟨"models", "Heir", heirRef⟩]
  typeVariables := ["K"]

def heirType : HostType :=
  .applied (.declared heirRef) [.primitive .str]

def heirRun (given : HostType) : (Except Failure Unit × Collection) × Memory :=
  ((addAll (heirModel given) [heirType]).run.run (.empty .python)).run .empty

private theorem heirRun_succeeds (given : HostType) :
    heirRun given = ((.ok (), (heirRun given).1.2), (heirRun given).2) := by
  have succeeds : (heirRun given).1.1 = .ok () := rfl
  rw [← succeeds]

private theorem base_of_heir {given value : HostType}
    (closes : ClosesTo (heirModel given) .empty heirRef [("K", .primitive .str)] given value) :
    Instantiates (heirModel given) .empty heirRef [("K", .primitive .str)] baseRef [("K", value)] :=
  .generic .self rfl (List.mem_cons_self ..) (.cons closes .nil)

/-- A base that is given the type parameter of the heir itself. -/
theorem addAll_inherited_heir :
    (∃ walk : List Expansion,
      (heirRun (.variable "K")).1.2.schema.entities.Perm (walk.filterMap Expansion.entity) ∧
      ∀ expansion ∈ walk, ∀ ref fields, expansion.content = .record ref fields →
        ∃ bindings, Collect.bindings (heirModel (.variable "K")) ref expansion.type = .ok bindings ∧
          ∀ field ∈ fields, ∀ origin written,
            (heirModel (.variable "K")).annotation? ref field.1 = some (origin, written) →
            ∃ hint, (heirModel (.variable "K")).Reads origin written hint ∧
              InheritedFrom (heirModel (.variable "K")) .empty ref bindings origin hint field.2) ∧
    ∃ values, Instantiates (heirModel (.variable "K")) .empty heirRef [("K", .primitive .str)]
      baseRef values ∧
      HostType.AgreeOn (.variable "K") [("K", .primitive .str)] values := by
  obtain ⟨walk, entities, -, each⟩ := addAll_inherited (heirRun_succeeds (.variable "K"))
  refine ⟨⟨walk, entities, fun expansion member => (each expansion member).2⟩, _,
    base_of_heir ⟨.empty, .start, rfl⟩, fun _ _ => rfl⟩

/-- The base is given another type than the heir under one name of a type variable: the inherited
field gets the type that was given to the heir. -/
theorem not_inherited_by_own_parameters :
    ¬ ∀ (target : Target) (model : Model) (start memory : Memory) (roots : List HostType)
      (collection : Collection),
      ((addAll model roots).run.run (.empty target)).run start = ((.ok (), collection), memory) →
      ∀ type ref fields bindings, Needed model start roots type →
        HasContent model start type (.record ref fields) →
        Collect.bindings model ref type = .ok bindings → ∀ field ∈ fields, ∀ origin written,
          model.annotation? ref field.1 = some (origin, written) →
          ∀ values, Instantiates model start ref bindings origin.ref values →
            ∃ hint, model.Reads origin written hint ∧
              ClosesTo model start ref values hint field.2 := by
  intro inherits
  have closes : ClosesTo (heirModel (.primitive .int)) .empty heirRef [("K", .primitive .str)]
      (.variable "K") (.primitive .str) := ⟨.empty, .start, rfl⟩
  have content : HasContent (heirModel (.primitive .int)) .empty heirType
      (.record heirRef [("x", .primitive .str), ("y", .primitive .str)]) :=
    .record rfl rfl .start rfl (.cons ⟨rfl, closes⟩ (.cons ⟨rfl, closes⟩ .nil))
  obtain ⟨hint, ⟨_, _, _, _, reads⟩, _, _, closed⟩ := inherits .python _ _ _ _ _
    (heirRun_succeeds (.primitive .int)) heirType heirRef _ _
      (.root (List.mem_singleton_self _)) content rfl
    ("x", .primitive .str) (List.mem_cons_self ..) baseClass (.variable "K") rfl
    [("K", .primitive .int)]
    (base_of_heir ⟨.empty, .start, rfl⟩)
  cases reads
  cases closed

end Collect

end WireModel
