import WireModel.Proofs.Codec.Lookup

/-!
What the values of a package are expected to be: values of a type expression, or instances of a
class. The absent value is expected everywhere.
-/

namespace WireModel.Codec

open Schema Text
open Render.Python (attributeName keptName)

/-- What a value is expected to be. -/
inductive Expected where
  | hint (type : TypeExpr)
  | instanceOf (type : Class)

/-- The discriminant of a variant of a data enum, by their names. -/
def discriminantOf (className : String) (name : Name) : Value :=
  .constant (.nested className Constants.discriminantClass) (normalized name.upperSnake) name.pascal

def declaredDiscriminant (entity : DataEnum) (v : Schema.Variant) : Value :=
  discriminantOf entity.className v.name

/-- The value is what is expected, at every depth. -/
inductive Typed (library : Library) : Expected → Value → Prop
  | null {expected : Expected} : Typed library expected .null
  | bool (value : Bool) : Typed library (.hint (.named "bool")) (.bool value)
  | int (value : Int) : Typed library (.hint (.named "int")) (.int value)
  | float (value : Double) : Typed library (.hint (.named "float")) (.float value)
  | text (value : String) : Typed library (.hint (.named "str")) (.text value)
  | list {item : TypeExpr} {items : List Value} :
      (∀ value ∈ items, Typed library (.hint item) value) →
      Typed library (.hint (.list item)) (.list items)
  | map {key value : TypeExpr} {entries : List (Value × Value)} :
      (∀ entry ∈ entries, entry.1 ≠ .null) →
      (∀ entry ∈ entries, Typed library (.hint key) entry.1) →
      (∀ entry ∈ entries, Typed library (.hint value) entry.2) →
      Typed library (.hint (.map key value)) (.map entries)
  | named {name : String} {type : Class} {value : Value} :
      library.at? (.top (normalized name)) = some type →
      Typed library (.instanceOf type) value → Typed library (.hint (.named name)) value
  | record {path : ClassPath} {label : String} {fields : List Field}
      {attributes : List (String × Value)} :
      attributes.map Prod.fst = fields.map attributeName →
      (∀ pair ∈ fields.zip attributes, Typed library (.hint pair.1.type) pair.2.2) →
      Typed library (.instanceOf (.record path label fields)) (.record path attributes)
  | constant {constants : Constants} {tag : String} {value : Value} :
      constants.ofTag? tag = some value →
      Typed library (.instanceOf (.enumeration constants)) value
  | unit {entity : DataEnum} {v : Schema.Variant} :
      v ∈ entity.variants → v.payload = .unit →
      Typed library (.instanceOf (.dataEnum entity))
        (.choice entity.className (declaredDiscriminant entity v) .null)
  | tuple {entity : DataEnum} {v : Schema.Variant} {slots : List TypeExpr} {items : List Value} :
      v ∈ entity.variants → v.payload = .tuple slots → items.length = slots.length →
      (∀ pair ∈ slots.zip items, Typed library (.hint pair.1) pair.2) →
      Typed library (.instanceOf (.dataEnum entity))
        (.choice entity.className (declaredDiscriminant entity v) (.tuple items))
  | object {entity : DataEnum} {v : Schema.Variant} {fields : List Field} {payload : Value} :
      v ∈ entity.variants → v.payload = .object fields →
      Typed library
        (.instanceOf (.record (Class.holderPath entity v) v.name.pascal fields)) payload →
      Typed library (.instanceOf (.dataEnum entity))
        (.choice entity.className (declaredDiscriminant entity v) payload)

/-- What is expected as the types of the package have it. -/
inductive Denotes (library : Library) : Expected → HostType → Prop
  | hint {hint : TypeExpr} {type : HostType} :
      library.resolve hint = .ok type → Denotes library (.hint hint) type
  | instanceOf {type : Class} :
      type ∈ library.classes → Denotes library (.instanceOf type) (library.typeOf type)

namespace Library

variable {library : Library}

/-- A name stands for a class of the package, and else for a type of the language. -/
theorem typeNamed_ok {name : String} {type : HostType} (found : library.typeNamed name = .ok type) :
    (∃ known, library.at? (.top (normalized name)) = some known ∧ type = library.typeOf known) ∨
    (library.at? (.top (normalized name)) = none ∧
      ((name = "bool" ∧ type = .primitive .bool) ∨ (name = "int" ∧ type = .primitive .int) ∨
        (name = "float" ∧ type = .primitive .float) ∨ (name = "str" ∧ type = .primitive .str) ∨
        (name = "list" ∧ type = .builtin (.classNamed "list")) ∨
        (name = "dict" ∧ type = .builtin (.classNamed "dict")))) := by
  unfold typeNamed at found
  split at found
  · rename_i known same
    cases found
    exact .inl ⟨known, same, rfl⟩
  · rename_i absent
    refine .inr ⟨absent, ?_⟩
    split at found <;> cases found <;> simp

private theorem alone_bind_throw (outcome : Except Fault Unit) (fault : Fault) (type : HostType) :
    Building.alone (do
      liftM outcome
      throw fault) ≠ .ok type := by
  intro found
  rcases outcome with error | ⟨⟩ <;> cases found

/-- Brackets cannot stand behind a class of the package. -/
theorem subscript_typeOf {known : Class} {args : List HostType} {isTuple : Bool} {type : HostType} :
    ((library.typeOf known).subscript args isTuple).alone ≠ .ok type := by
  intro applied
  cases known with
  | record => cases applied
  | dataEnum => cases applied
  | enumeration constants =>
    simp only [typeOf, HostType.subscript, HostType.subscriptClass, ref, Class.category] at applied
    exact alone_bind_throw _ _ _ applied

/-- A type expression stands for what it is evaluated as, if its brackets do not nest too deep. -/
theorem resolve_ok {hint : TypeExpr} {type : HostType} : library.resolve hint = .ok type ↔
    hint.nesting ≤ Expression.maxNesting ∧ library.evaluate hint = .ok type := by
  unfold resolve
  split
  next deep => simp [Nat.not_le.mpr deep]
  next shallow => simp [Nat.not_lt.mp shallow]

theorem resolve_list {item : TypeExpr} {type : HostType}
    (found : library.resolve (.list item) = .ok type) :
    ∃ itemType, library.resolve item = .ok itemType ∧
      type = .applied (.list .native) [itemType] := by
  obtain ⟨shallow, found⟩ := resolve_ok.mp found
  simp only [evaluate, Outcome.bind_ok] at found
  obtain ⟨container, named, itemType, resolved, applied⟩ := found
  refine ⟨itemType, resolve_ok.mpr ⟨Nat.le_of_succ_le shallow, resolved⟩, ?_⟩
  rcases typeNamed_ok named with ⟨known, -, rfl⟩ | ⟨-, other⟩
  · exact absurd applied subscript_typeOf
  · obtain rfl : container = .builtin (.classNamed "list") := by simpa using other
    cases applied
    rfl

theorem resolve_map {key value : TypeExpr} {type : HostType}
    (found : library.resolve (.map key value) = .ok type) :
    ∃ keyType valueType, library.resolve key = .ok keyType ∧
      library.resolve value = .ok valueType ∧
      type = .applied (.map .native) [keyType, valueType] := by
  obtain ⟨shallow, found⟩ := resolve_ok.mp found
  have below : max key.nesting value.nesting ≤ Expression.maxNesting := Nat.le_of_succ_le shallow
  simp only [evaluate, Outcome.bind_ok] at found
  obtain ⟨container, named, keyType, keyResolved, valueType, valueResolved, applied⟩ := found
  refine ⟨keyType, valueType, resolve_ok.mpr ⟨by omega, keyResolved⟩,
    resolve_ok.mpr ⟨by omega, valueResolved⟩, ?_⟩
  rcases typeNamed_ok named with ⟨known, -, rfl⟩ | ⟨-, other⟩
  · exact absurd applied subscript_typeOf
  · obtain rfl : container = .builtin (.classNamed "dict") := by simpa using other
    cases applied
    rfl

theorem resolve_primitive {hint : TypeExpr} {primitive : Primitive}
    (found : library.resolve hint = .ok (.primitive primitive)) : hint = .named primitive.name := by
  cases hint with
  | named name =>
    rcases typeNamed_ok found with ⟨known, -, same⟩ | ⟨-, ⟨rfl, same⟩ | ⟨rfl, same⟩ | ⟨rfl, same⟩ |
      ⟨rfl, same⟩ | ⟨rfl, same⟩ | ⟨rfl, same⟩⟩ <;> cases same <;> rfl
  | list item =>
    obtain ⟨_, -, same⟩ := resolve_list found
    cases same
  | map key value =>
    obtain ⟨_, _, -, -, same⟩ := resolve_map found
    cases same

theorem resolveAll_ok {className : String} {hints : List TypeExpr} {types : List HostType} :
    library.resolveAll className hints = .ok types ↔
      List.Forall₂ (fun hint type => library.resolve hint = .ok type) hints types := by
  rw [← Outcome.mapM_ok, resolveAll]
  rcases hints.mapM library.resolve with fault | resolved
  · simp
  · simp

/-- The names of a data enum do not clash: no two variants share the name of a constant, a Pascal
name or a nested class, and no constant is private. -/
structure Clear (entity : DataEnum) : Prop where
  constants : (entity.variants.map fun v => normalized v.name.upperSnake).Nodup
  pascals : (entity.variants.map fun v => v.name.pascal).Nodup
  nested : ((Class.nestedIn entity).map fun type => type.path.name).Nodup
  plain : ∀ v ∈ entity.variants, (normalized v.name.upperSnake).toList.head? ≠ some '_'

/-- No names clash within a data enum of the package. -/
def AllClear (library : Library) : Prop :=
  ∀ entity, .dataEnum entity ∈ library.entities → Clear entity

/-- No two methods of a data enum of the package share a name. -/
def MethodsDistinct (library : Library) : Prop :=
  ∀ entity, .dataEnum entity ∈ library.entities → ((methods entity).map Prod.fst).Nodup

theorem AllClear.nested (clear : library.AllClear) : library.NestedDistinct :=
  fun entity member => (clear entity member).nested

theorem AllClear.ofClass (clear : library.AllClear) {entity : DataEnum}
    (known : .dataEnum entity ∈ library.classes) : Clear entity :=
  clear entity (dataEnum_mem_classes.mp known).1

end Library

/-- What is expected is never a union. -/
theorem Denotes.content? {library : Library} {expected : Expected} {type : HostType}
    (denotes : Denotes library expected type) : Codec.content? type = some type := by
  cases denotes with
  | instanceOf => rfl
  | @hint hint _ resolved =>
    cases hint with
    | named name =>
      rcases Library.typeNamed_ok resolved with
        ⟨known, -, rfl⟩ | ⟨-, ⟨-, rfl⟩ | ⟨-, rfl⟩ | ⟨-, rfl⟩ |
        ⟨-, rfl⟩ | ⟨-, rfl⟩ | ⟨-, rfl⟩⟩ <;> rfl
    | list item =>
      obtain ⟨_, -, rfl⟩ := Library.resolve_list resolved
      rfl
    | map key value =>
      obtain ⟨_, _, -, -, rfl⟩ := Library.resolve_map resolved
      rfl

/-- The name begins with two underscores, and so a class may keep it in another form. -/
def isHidden (name : String) : Bool :=
  "__".toList.isPrefixOf name.toList

theorem isHidden_of_plain {name : String} (plain : name.toList.head? ≠ some '_') :
    isHidden name = false := by
  by_contra hidden
  rw [isHidden, Bool.not_eq_false, List.isPrefixOf_iff_prefix] at hidden
  obtain ⟨rest, same⟩ := hidden
  rw [← same] at plain
  exact plain rfl

theorem mangled_of_shown {className name : String} (shows : isHidden name = false) :
    mangled className name = name := by
  unfold mangled
  split
  · rename_i rest same
    rw [isHidden, same] at shows
    cases shows
  · rfl

theorem mangled_of_plain {className name : String} (plain : name.toList.head? ≠ some '_') :
    mangled className name = name :=
  mangled_of_shown (isHidden_of_plain plain)

theorem isDunder_of_shown {name : String} (shows : isHidden name = false) :
    isDunder name = false := by
  unfold isDunder
  split
  · rename_i same _
    rw [isHidden, same] at shows
    cases shows
  · rfl

theorem isPrivateOf_of_plain {className name : String} (plain : name.toList.head? ≠ some '_') :
    isPrivateOf className name = false := by
  by_contra isPrivate
  simp only [isPrivateOf, String.toList_append, Bool.not_eq_false, Bool.and_eq_true] at isPrivate
  obtain ⟨rest, same⟩ := List.isPrefixOf_iff_prefix.mp isPrivate.1.1
  rw [← same] at plain
  simp at plain

/-- The discriminants of a data enum are apart: no two variants share the name of a constant or a
Pascal name, and each constant is kept as one. -/
structure Library.VariantsApart (entity : DataEnum) : Prop where
  constants : (entity.variants.map fun v => normalized v.name.upperSnake).Nodup
  pascals : (entity.variants.map fun v => v.name.pascal).Nodup
  kept : ∀ v ∈ entity.variants, isHidden (normalized v.name.upperSnake) = false ∧
    isPrivateOf Constants.discriminantClass (normalized v.name.upperSnake) = false

theorem Library.Clear.apart {entity : DataEnum} (clear : Library.Clear entity) :
    Library.VariantsApart entity where
  constants := clear.constants
  pascals := clear.pascals
  kept := fun v member =>
    ⟨isHidden_of_plain (clear.plain v member), isPrivateOf_of_plain (clear.plain v member)⟩

/-- The discriminant of a variant is the one that it declares. -/
theorem Library.VariantsApart.discriminant {entity : DataEnum}
    (apart : Library.VariantsApart entity) {v : Schema.Variant} (member : v ∈ entity.variants) :
    Library.discriminant entity v = .ok (declaredDiscriminant entity v) := by
  have kept (className : String) {other : Schema.Variant} (inside : other ∈ entity.variants) :
      keptName className other.name.upperSnake = normalized other.name.upperSnake :=
    mangled_of_shown (apart.kept other inside).1
  have entries : (Constants.ofVariants entity).entries =
      entity.variants.map fun v => (normalized v.name.upperSnake, v.name.pascal) := by
    refine List.map_congr_left fun other inside => ?_
    rw [kept _ inside]
  have found : (Constants.ofVariants entity).entries.reverse.lookup
      (normalized v.name.upperSnake) = some v.name.pascal := by
    apply Search.lookup_reverse_of_mem
    · simpa only [entries, List.map_map, Function.comp_def] using apart.constants
    · rw [entries]
      exact List.mem_map.mpr ⟨v, member, rfl⟩
  have isConstant : (Constants.ofVariants entity).isConstant (normalized v.name.upperSnake) =
      true := by
    obtain ⟨shows, isOpen⟩ := apart.kept v member
    have isOpen : isPrivateOf (Constants.ofVariants entity).owner.name
        (normalized v.name.upperSnake) = false := isOpen
    rw [Constants.isConstant, isOpen, isDunder_of_shown shows]
    rfl
  have only : (Constants.ofVariants entity).entries.find? (fun entry =>
      (Constants.ofVariants entity).isConstant entry.1 && entry.2 == v.name.pascal) =
      some (normalized v.name.upperSnake, v.name.pascal) := by
    apply Search.find?_unique
    · rw [entries]
      exact List.mem_map.mpr ⟨v, member, rfl⟩
    · simp [isConstant]
    · intro other inside holds
      rw [entries] at inside
      obtain ⟨w, variant, rfl⟩ := List.mem_map.mp inside
      simp only [Bool.and_eq_true, beq_iff_eq] at holds
      rw [Search.eq_of_key apart.pascals member variant holds.2]
  rw [Library.discriminant, kept _ member, Constants.named?, found]
  simp only [isConstant, if_true, Constants.ofTag?, only, Option.map_some]
  rfl

theorem Library.Clear.discriminant {entity : DataEnum} (clear : Library.Clear entity)
    {v : Schema.Variant} (member : v ∈ entity.variants) :
    Library.discriminant entity v = .ok (declaredDiscriminant entity v) :=
  clear.apart.discriminant member

end WireModel.Codec
