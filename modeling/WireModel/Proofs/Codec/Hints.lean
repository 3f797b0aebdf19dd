import WireModel.Proofs.Codec.HintText
import WireModel.Proofs.Codec.Typing
import WireModel.Proofs.Collection.References

/-!
What the type expressions of a package stand for. The names in them are looked for among the classes
of the package first, so that they stand for what was meant only where no class has the name of a
type of the language.
-/

namespace WireModel

open Schema Text
open Expression (maxNesting)

/-- The type of the language that values of a primitive type have. -/
def Primitive.erased : Primitive → Primitive
  | .bool => .bool
  | .i8 | .i16 | .i32 | .i64 | .int => .int
  | .f32 | .f64 | .float => .float
  | .str => .str

namespace Codec

/-- The names of the language in type expressions. -/
def builtinTypeNames : List String :=
  ["bool", "int", "float", "str", "list", "dict"]

theorem pythonType_mem_builtinTypeNames (shown : Primitive) :
    shown.pythonType ∈ builtinTypeNames := by
  cases shown <;> decide

/-- One class of an entity is not nested in another one. -/
theorem Class.exists_top (entity : Entity) :
    ∃ type ∈ ofEntity entity, type.path = .top entity.className := by
  cases entity with
  | record entity => exact ⟨_, List.mem_singleton_self _, rfl⟩
  | enumeration entity => exact ⟨_, List.mem_singleton_self _, rfl⟩
  | dataEnum entity => exact ⟨_, List.mem_cons_self .., rfl⟩

namespace Library

/-- An expression stands for a type in the modules of a package: a name for what it leads to, and
brackets for what their target makes of the one or the two arguments in them. -/
inductive Evaluates (library : Library) : Expression → HostType → Prop
  | name {identifier : String} {type : HostType} :
      library.typeNamed identifier = .ok type → Evaluates library (.name identifier) type
  | one {target index : Expression} {container arg type : HostType} :
      (∀ items, index ≠ .display .tuple items) → Evaluates library target container →
      Evaluates library index arg → (container.subscript [arg] false).alone = .ok type →
      Evaluates library (.subscript target index) type
  | two {target first second : Expression} {container firstArg secondArg type : HostType} :
      Evaluates library target container → Evaluates library first firstArg →
      Evaluates library second secondArg →
      (container.subscript [firstArg, secondArg] true).alone = .ok type →
      Evaluates library (.subscript target (.display .tuple [first, second])) type

/-- A text is read as a type in the modules of a package. -/
def Reads (library : Library) (text : String) (type : HostType) : Prop :=
  ∃ expression, Expression.ofText text = .ok expression ∧ library.Evaluates expression type

variable {library : Library}

/-- An expression stands for one type at most. -/
theorem Evaluates.unique {expression : Expression} {type other : HostType}
    (evaluates : library.Evaluates expression type) (again : library.Evaluates expression other) :
    type = other := by
  induction evaluates generalizing other with
  | name found =>
    cases again with
    | name same => exact Except.ok.inj (found.symm.trans same)
  | one single _ _ applied targetIh argIh =>
    cases again with
    | one _ target arg same =>
      obtain rfl := targetIh target
      obtain rfl := argIh arg
      exact Except.ok.inj (applied.symm.trans same)
    | two => exact absurd rfl (single _)
  | two _ _ _ applied targetIh firstIh secondIh =>
    cases again with
    | one single => exact absurd rfl (single _)
    | two target first second same =>
      obtain rfl := targetIh target
      obtain rfl := firstIh first
      obtain rfl := secondIh second
      exact Except.ok.inj (applied.symm.trans same)

theorem Reads.unique {text : String} {type other : HostType} (reads : library.Reads text type)
    (again : library.Reads text other) : type = other := by
  obtain ⟨expression, parsed, evaluates⟩ := reads
  obtain ⟨same, parsedAgain, evaluatesAgain⟩ := again
  obtain rfl : expression = same := Except.ok.inj (parsed.symm.trans parsedAgain)
  exact evaluates.unique evaluatesAgain

theorem evaluates_of_evaluate {hint : TypeExpr} {type : HostType}
    (found : library.evaluate hint = .ok type) : library.Evaluates hint.expression type := by
  induction hint generalizing type with
  | named name => exact .name found
  | list item ih =>
    simp only [evaluate, Outcome.bind_ok] at found
    obtain ⟨container, named, arg, evaluated, applied⟩ := found
    have single : ∀ items, item.expression ≠ .display .tuple items := by
      cases item <;> simp [TypeExpr.expression]
    exact .one single (.name named) (ih evaluated) applied
  | map key value keyIh valueIh =>
    simp only [evaluate, Outcome.bind_ok] at found
    obtain ⟨container, named, keyType, keyFound, valueType, valueFound, applied⟩ := found
    exact .two (.name named) (keyIh keyFound) (valueIh valueFound) applied

/-- A type expression stands for what its text is read as. -/
theorem reads_of_resolve {hint : TypeExpr} {type : HostType} (plain : hint.HasPlainNames)
    (resolved : library.resolve hint = .ok type) : library.Reads (hint.text .python) type := by
  obtain ⟨shallow, found⟩ := resolve_ok.mp resolved
  exact ⟨_, TypeExpr.ofText_text plain shallow, evaluates_of_evaluate found⟩

/-- A type is erased to another one in a package whose classes were collected by a walk: optional
types and boxes to their content, primitive types, lists and maps to those of the language, and a
class to the one that was generated for its identity. -/
inductive Erases (library : Library) (walk : List Expansion) : View → HostType → Prop
  | primitive {shown : Primitive} :
      Erases library walk (.primitive shown) (.primitive shown.erased)
  | list {item : View} {rest : List View} {erased : HostType} :
      Erases library walk item erased →
      Erases library walk (.list (item :: rest)) (.applied (.list .native) [erased])
  | map {key value : View} {rest : List View} {erasedKey erasedValue : HostType} :
      Erases library walk key erasedKey → Erases library walk value erasedValue →
      Erases library walk (.map (key :: value :: rest))
        (.applied (.map .native) [erasedKey, erasedValue])
  | optional {type : View} {erased : HostType} :
      Erases library walk type erased → Erases library walk (.optional type) erased
  | box {type : View} {rest : List View} {erased : HostType} :
      Erases library walk type erased → Erases library walk (.box (type :: rest)) erased
  | generated {view : View} {expansion : Expansion} {entity : Entity} {type : Class} :
      view.class?.isSome → expansion ∈ walk → view.identity = .ok expansion.identity →
      expansion.entity = some entity → type ∈ Class.ofEntity entity →
      type.path = .top entity.className → Erases library walk view (library.typeOf type)

/-- A name of the language leads to no class if and only if no class has it. -/
theorem Loaded.at?_builtin (loaded : library.Loaded) {name : String}
    (known : name ∈ builtinTypeNames) :
    library.at? (.top (normalized name)) = none ↔
      ∀ entity ∈ library.entities, entity.className ≠ name := by
  have plain : ∀ name ∈ builtinTypeNames, normalized name = name := by decide
  rw [plain name known]
  constructor
  · rintro absent entity inside rfl
    obtain ⟨type, made, top⟩ := Class.exists_top entity
    rw [loaded.at?_top (mem_classes.mpr ⟨entity, inside, plain _ known, made⟩) top] at absent
    cases absent
  · intro apart
    rw [Option.eq_none_iff_forall_ne_some]
    intro type found
    obtain ⟨member, path⟩ := mem_of_at? found
    obtain ⟨entity, inside, -, made⟩ := mem_classes.mp member
    have className : entity.className = name := by
      rw [← Class.outermost_of_mem made, path]
      rfl
    exact apart entity inside className

/-- The word for a primitive type stands for that type if and only if no class has it as its
name. -/
theorem Loaded.typeNamed_primitive (loaded : library.Loaded) (shown : Primitive) :
    library.typeNamed shown.pythonType = .ok (.primitive shown.erased) ↔
      ∀ entity ∈ library.entities, entity.className ≠ shown.pythonType := by
  rw [← loaded.at?_builtin (pythonType_mem_builtinTypeNames shown)]
  unfold typeNamed
  cases library.at? (.top (normalized shown.pythonType)) with
  | none =>
    refine iff_of_true ?_ rfl
    cases shown <;> rfl
  | some type =>
    refine iff_of_false (fun same => ?_) (Option.some_ne_none type)
    cases same

/-- A class whose name is in its normal form is found under it, whatever else has that name. -/
theorem Loaded.typeNamed_class (loaded : library.Loaded) {entity : Entity}
    (member : entity ∈ library.entities) (normal : normalized entity.className = entity.className)
    {type : Class} (made : type ∈ Class.ofEntity entity) (top : type.path = .top entity.className) :
    library.typeNamed entity.className = .ok (library.typeOf type) := by
  have known : type ∈ library.classes := mem_classes.mpr ⟨entity, member, normal, made⟩
  unfold typeNamed
  rw [normal, loaded.at?_top known top]

/-- Each class of the package is found under its own name, and no name of the language leads to
one. -/
structure NamesVisible (library : Library) : Prop where
  normal : ∀ entity ∈ library.entities, normalized entity.className = entity.className
  apart : ∀ entity ∈ library.entities, entity.className ∉ builtinTypeNames

section Visible

variable (visible : library.NamesVisible) (loaded : library.Loaded)

include visible loaded

theorem NamesVisible.at?_builtin {name : String} (known : name ∈ builtinTypeNames) :
    library.at? (.top (normalized name)) = none :=
  (loaded.at?_builtin known).mpr fun entity inside same =>
    visible.apart entity inside (same ▸ known)

theorem NamesVisible.primitive (shown : Primitive) :
    library.typeNamed shown.pythonType = .ok (.primitive shown.erased) :=
  (loaded.typeNamed_primitive shown).mpr fun entity inside same =>
    visible.apart entity inside (same ▸ pythonType_mem_builtinTypeNames shown)

theorem NamesVisible.list : library.typeNamed "list" = .ok (.builtin (.classNamed "list")) := by
  unfold typeNamed
  rw [visible.at?_builtin loaded (by decide)]
  rfl

theorem NamesVisible.map : library.typeNamed "dict" = .ok (.builtin (.classNamed "dict")) := by
  unfold typeNamed
  rw [visible.at?_builtin loaded (by decide)]
  rfl

/-- What is spelled by a type expression is what it is evaluated as; the spelling carries the
induction. -/
theorem NamesVisible.evaluates {walk : List Expansion} {names : List String}
    (collected : ∀ expansion ∈ walk, ∀ entity, expansion.entity = some entity →
      entity ∈ library.entities)
    {view : View} {hint : TypeExpr} (spelled : Spells .python walk names view hint) :
    ∃ erased, library.Erases walk view erased ∧ library.evaluate hint = .ok erased := by
  induction spelled with
  | primitive => exact ⟨_, .primitive, visible.primitive loaded _⟩
  | @collected view expansion entity isClass inside identified made _ =>
    have member := collected expansion inside entity made
    obtain ⟨type, known, top⟩ := Class.exists_top entity
    exact ⟨_, .generated isClass inside identified made known top,
      loaded.typeNamed_class member (visible.normal entity member) known top⟩
  | list _ ih =>
    obtain ⟨erased, erases, found⟩ := ih
    refine ⟨_, .list erases, ?_⟩
    rw [evaluate, visible.list loaded, found]
    rfl
  | map _ _ keyIh valueIh =>
    obtain ⟨erasedKey, erasesKey, foundKey⟩ := keyIh
    obtain ⟨erasedValue, erasesValue, foundValue⟩ := valueIh
    refine ⟨_, .map erasesKey erasesValue, ?_⟩
    rw [evaluate, visible.map loaded, foundKey, foundValue]
    rfl
  | optional _ ih =>
    obtain ⟨erased, erases, found⟩ := ih
    exact ⟨erased, .optional erases, found⟩
  | box _ ih =>
    obtain ⟨erased, erases, found⟩ := ih
    exact ⟨erased, .box erases, found⟩

theorem NamesVisible.plain {walk : List Expansion} {names : List String}
    (collected : ∀ expansion ∈ walk, ∀ entity, expansion.entity = some entity →
      entity ∈ library.entities)
    {view : View} {hint : TypeExpr} (spelled : Spells .python walk names view hint) :
    hint.HasPlainNames := by
  induction spelled with
  | @primitive shown =>
    have words : ∀ name ∈ builtinTypeNames, isIdentifier name = true ∧
        reservedWords.contains name = false ∧ normalized name = name := by decide +kernel
    obtain ⟨identifier, free, normal⟩ := words _ (pythonType_mem_builtinTypeNames shown)
    exact ⟨identifier, free, normal⟩
  | @collected view expansion entity _ inside _ made _ =>
    have member := collected expansion inside entity made
    have bindable := Render.Python.isBindable_of_isReadable (loaded.readable entity member)
    simp only [isBindable, Bool.and_eq_true, Bool.not_eq_true'] at bindable
    exact ⟨bindable.1.1, bindable.1.2, visible.normal entity member⟩
  | list _ ih => exact ih
  | map _ _ keyIh valueIh => exact ⟨keyIh, valueIh⟩
  | optional _ ih => exact ih
  | box _ ih => exact ih

end Visible

/-- The package of classes that stand in fields by themselves, in a list and in a map. -/
def nestingLibrary : Library where
  package := "sample"
  entities := Collect.nestingSchema.entities

def nestingRun : Except Failure Library × Memory :=
  (Library.ofTypes "sample" Collect.nestingModel [.declared Collect.ownerRef]).run.run .empty

theorem nestingRun_succeeds : nestingRun = (.ok nestingLibrary, nestingRun.2) := by
  refine made_of_parts rfl ?_
  rw [nestingRun, Library.ofTypes, Schema.ofTypes_eq_paired (by decide +kernel)]
  decide +kernel

/-- A class that is named like the integers. -/
def wordRef : ClassRef :=
  Collect.plainRef 0 "m" "int" "int"

/-- A class with a field of integers, and one of the other class. -/
def counterRef : ClassRef :=
  Collect.plainRef 1 "m" "S" "S"

def counterFields : List (String × HostType) :=
  [("n", .primitive .int), ("i", .declared wordRef)]

def wordModel : Model :=
  Collect.plainModel [(wordRef, [("x", .primitive .str)]), (counterRef, counterFields)]

def counterRecord : Record :=
  ⟨.ofPascal "S", "S", [⟨.ofSnake "n", "n", .named "int"⟩, ⟨.ofSnake "i", "i", .named "int"⟩]⟩

def wordLibrary : Library where
  package := "sample"
  entities := [.record ⟨.ofPascal "int", "int", [⟨.ofSnake "x", "x", .named "str"⟩]⟩,
    .record counterRecord]

def wordRun : Except Failure Library × Memory :=
  (Library.ofTypes "sample" wordModel [.declared counterRef]).run.run .empty

theorem wordRun_succeeds : wordRun = (.ok wordLibrary, wordRun.2) := by
  refine made_of_parts rfl ?_
  rw [wordRun, Library.ofTypes, Schema.ofTypes_eq_paired (by decide +kernel)]
  decide +kernel

end Library

end Codec

end WireModel
