import WireModel.Schema.Collection

/-!
Collecting where no variant takes the place of the type parameters of a class. An instantiation then
gives the type parameters its arguments one by one, and no attribute of a class is looked up for it.
Collecting without that look-up comes to the same, and what it comes to for a model is quick to work
out.
-/

namespace WireModel

/-- No variant has the name under which the type parameters of a class are found. -/
def Model.ParametersShown (model : Model) : Prop :=
  ∀ declared ∈ model.classes, ∀ variant ∈ declared.variants, variant.name ≠ "__parameters__"

instance (model : Model) : Decidable model.ParametersShown :=
  inferInstanceAs (Decidable (∀ declared ∈ model.classes, ∀ variant ∈ declared.variants, _))

theorem Attribute.placeholder_ne_record (entry : LanguageAttribute) (owner : RecordClass)
    (attributes : List (String × HostType)) : placeholder entry ≠ .record owner attributes := by
  unfold placeholder
  split <;> exact nofun

/-- A class has a record of its own under the name of its type parameters only if a variant has that
name. -/
theorem ClassDecl.exists_variant_of_ownValue {declared : ClassDecl} {owner : RecordClass}
    {attributes : List (String × HostType)}
    (found : declared.ownValue? "__parameters__" = some (.record owner attributes)) :
    ∃ variant ∈ declared.variants, variant.name = "__parameters__" := by
  rw [ownValue?, Option.or_eq_some_iff, Option.or_eq_some_iff] at found
  rcases found with (asMember | ⟨-, asVariant⟩) | ⟨-, named⟩
  · obtain ⟨member, -, same⟩ := Option.map_eq_some_iff.mp asMember
    cases same
  · obtain ⟨variant, found, -⟩ := Option.map_eq_some_iff.mp asVariant
    exact ⟨variant, List.mem_of_find?_eq_some found, by simpa using List.find?_some found⟩
  · change (if declared.ancestry.contains (.language "Generic") then some declared.parameterValues
      else none) = _ at named
    split at named
    · cases named
    · cases named

theorem Model.exists_variant_of_ownAttribute {model : Model} {type : Ancestor} {slot : Attribute}
    {owner : RecordClass} {attributes : List (String × HostType)}
    (found : model.ownAttribute? type "__parameters__" = some slot)
    (same : slot.value = .record owner attributes) :
    ∃ declared ∈ model.classes, ∃ variant ∈ declared.variants, variant.name = "__parameters__" := by
  cases type with
  | language name =>
    obtain ⟨type, -, entry, -, rfl⟩ : ∃ type, LanguageClass.find? name = some type ∧
        ∃ entry, type.attribute? "__parameters__" = some entry ∧
          Attribute.ofLanguage type entry = slot := by
      simpa [ownAttribute?, Option.bind_eq_some_iff] using found
    exact absurd same (Attribute.placeholder_ne_record entry owner attributes)
  | declared ref =>
    obtain ⟨declared, known, found⟩ := Option.bind_eq_some_iff.mp found
    refine ⟨declared, List.mem_of_find?_eq_some known, ?_⟩
    split at found
    next value own =>
      cases found
      exact ClassDecl.exists_variant_of_ownValue (own.trans (congrArg some same))
    · split at found
      · cases found
        cases same
      · cases found

namespace Collect

variable {model : Model}

theorem hidesParameters_eq_false (shown : model.ParametersShown) (ref : ClassRef) :
    hidesParameters model ref = false := by
  unfold hidesParameters
  split
  next owner attributes found =>
    obtain ⟨slot, found, same⟩ := Option.map_eq_some_iff.mp found
    obtain ⟨type, -, own⟩ := List.exists_of_findSome?_eq_some found
    obtain ⟨declared, member, variant, inside, named⟩ :=
      Model.exists_variant_of_ownAttribute own same
    exact absurd named (shown declared member variant inside)
  · rfl

/-- The type parameters of a class with the arguments of an instantiation, one by one. -/
def pairing (ref : ClassRef) (type : HostType) : Except Failure TypeBindings :=
  if ref.parameters.length = type.parts.length then .ok (ref.parameters.zip type.parts)
  else
    .error (.generation (.argumentCount ref.qualifiedName ref.parameters.length type.parts.length))

theorem bindings_eq_pairing (shown : model.ParametersShown) (ref : ClassRef) (type : HostType) :
    bindings model ref type = pairing ref type := by
  simp [bindings, pairing, hidesParameters_eq_false shown]

section Visit

variable (model : Model) (visit visitArgument : HostType → Collect Unit)

def pairedRecord (ref : ClassRef) (type : HostType) : Collect Schema.Record := do
  let bindings ← pairing ref type
  let fields ← resolve (model.typedFields ref)
  let className ← className type
  return ⟨.ofPascal ref.name, className, ← fields.mapM (field model visit ref bindings)⟩

def pairedDataEnum (ref : ClassRef) (type : HostType) : Collect Schema.DataEnum := do
  let bindings ← pairing ref type
  let className ← className type
  let variants ← (model.variants ref).mapM («variant» model visit ref bindings)
  return ⟨.ofPascal ref.name, className, .external, variants⟩

/-- Visits the parts of a type as collecting does, but for the look-up. -/
def visitPaired (type : HostType) : Collect Unit := do
  match type.view with
  | .record ref _ => do
    discard (className type)
    let collected ← pairedRecord model visit ref type
    modify (·.add (.record collected))
  | .dataEnum ref _ => do
    discard (className type)
    let collected ← pairedDataEnum model visit ref type
    modify (·.add (.dataEnum collected))
  | _ => visitParts model visit visitArgument type

theorem visitParts_eq_paired {model : Model} (shown : model.ParametersShown) (type : HostType) :
    visitParts model visit visitArgument type = visitPaired model visit visitArgument type := by
  unfold visitPaired
  split
  next seenAs => simp only [visitParts, seenAs, record, pairedRecord, bindings_eq_pairing shown]
  next seenAs => simp only [visitParts, seenAs, dataEnum, pairedDataEnum, bindings_eq_pairing shown]
  · rfl

end Visit

/-- Collects a type as collecting does, but for the look-up. -/
def addPairedAt (model : Model) : Nat → HostType → Collect Unit
  | depth + 3, type => do
    let identity ← ofRule type.view.identity
    if depth < 2 * identity.height then throw (.fault .tooDeep)
    if (← get).hasSeen identity then return
    modify (·.mark identity)
    visitPaired model (addPairedAt model depth) (addPairedAt model (depth + 2)) type
  | _, _ => throw (.fault .tooDeep)

theorem addAt_eq_paired (shown : model.ParametersShown) (depth : Nat) :
    addAt model depth = addPairedAt model depth := by
  funext type
  induction depth using Nat.strongRecOn generalizing type with
  | _ depth ih =>
  rcases depth with _ | _ | _ | depth
  · rfl
  · rfl
  · rfl
  have inside : addAt model depth = addPairedAt model depth := funext (ih depth (by omega))
  have beside : addAt model (depth + 2) = addPairedAt model (depth + 2) :=
    funext (ih (depth + 2) (by omega))
  simp only [addAt, addPairedAt, inside, beside, visitParts_eq_paired _ _ shown]

end Collect

/-- The classes that some types need, without the look-up. -/
def Schema.ofPaired (target : Target) (model : Model) (types : List HostType) : Resolving Schema :=
  ExceptT.mk do
    let (result, collection) ←
      (types.forM (Collect.addPairedAt model Collect.maxDepth)).run.run (.empty target)
    return result.map fun _ => collection.schema

theorem Schema.ofTypes_eq_paired {model : Model} (shown : model.ParametersShown) (target : Target)
    (types : List HostType) : ofTypes target model types = ofPaired target model types := by
  rw [ofPaired, ← Collect.addAt_eq_paired shown]
  rfl

end WireModel
