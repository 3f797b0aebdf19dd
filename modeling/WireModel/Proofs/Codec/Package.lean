import Mathlib.Data.List.Nodup
import WireModel.Codec.Library
import WireModel.Proofs.Outcome

/-!
What a package that was loaded is known to be: nothing about its classes was changed, no two of them
have one name, and the language takes each of them.
-/

namespace WireModel

open Schema

theorem Schema.firstRepeated?_eq_none {known names : List String} :
    firstRepeated? known names = none ↔ names.Nodup ∧ ∀ name ∈ names, name ∉ known := by
  induction names generalizing known with
  | nil => simp [firstRepeated?]
  | cons name rest ih =>
    rw [firstRepeated?]
    by_cases old : name ∈ known
    · simp [old]
    · rw [if_neg old, ih]
      simp only [List.nodup_cons, List.mem_cons, not_or]
      constructor
      · rintro ⟨distinct, fresh⟩
        refine ⟨⟨fun inside => (fresh name inside).1 rfl, distinct⟩, ?_⟩
        rintro other (rfl | inside)
        · exact old
        · exact (fresh other inside).2
      · rintro ⟨⟨absent, distinct⟩, fresh⟩
        refine ⟨distinct, fun other inside => ⟨?_, fresh other (.inr inside)⟩⟩
        rintro rfl
        exact absent inside

/-- Classes are generated if no two of them have one name. -/
theorem Schema.distinctEntities_ok {schema : Schema} {entities : List Entity}
    (found : schema.distinctEntities = .ok entities) :
    entities = schema.entities ∧ (schema.entities.map Entity.className).Nodup := by
  unfold distinctEntities at found
  split at found
  · cases found
  rename_i distinct
  cases found
  exact ⟨rfl, (firstRepeated?_eq_none.mp distinct).1⟩

/-- What generating the classes of a schema checks. -/
theorem Schema.generate_ok {schema : Schema} {generated : List GeneratedClass}
    (succeeds : schema.generate .python = .ok generated) :
    (schema.entities.map Entity.className).Nodup ∧
      (∀ entity ∈ schema.entities, Render.Python.isReadable entity = true) ∧
      ∀ entity, .dataEnum entity ∈ schema.entities →
        entity.check Render.Python.reservedNames = .ok () := by
  obtain ⟨entities, found, all⟩ := Outcome.bind_ok.mp succeeds
  obtain ⟨rfl, distinct⟩ := distinctEntities_ok found
  refine ⟨distinct, ?_, ?_⟩
  · intro entity member
    obtain ⟨code, -, done⟩ := Outcome.exists_related (Outcome.mapM_ok.mp all) member
    obtain ⟨lines, -, rest⟩ := Outcome.bind_ok.mp done
    by_contra unreadable
    rw [if_neg unreadable] at rest
    cases rest
  · intro entity member
    obtain ⟨code, -, done⟩ := Outcome.exists_related (Outcome.mapM_ok.mp all) member
    obtain ⟨lines, lined, -⟩ := Outcome.bind_ok.mp done
    obtain ⟨⟨⟩, checked, -⟩ := Outcome.bind_ok.mp lined
    exact checked

/-- A step that may fail and keeps a memory succeeds if its parts do. -/
theorem Resolving.bind_ok {ε α β : Type} {step : ExceptT ε (StateM Memory) α}
    {next : α → ExceptT ε (StateM Memory) β} {before after : Memory} {result : β} :
    (step >>= next).run.run before = (.ok result, after) ↔
      ∃ value between, step.run.run before = (.ok value, between) ∧
        (next value).run.run between = (.ok result, after) :=
  Outcome.run_bind_ok

theorem Schema.ofTypes_ok {target : Target} {model : Model} {types : List HostType}
    {before after : Memory} {schema : Schema}
    (succeeds : (Schema.ofTypes target model types).run.run before = (.ok schema, after)) :
    ∃ collection, ((Collect.addAll model types).run.run (.empty target)).run before =
      ((.ok (), collection), after) ∧ collection.schema = schema := by
  have run : (Schema.ofTypes target model types).run.run before =
      ((((Collect.addAll model types).run.run (.empty target)).run before).1.1.map fun _ =>
        (((Collect.addAll model types).run.run (.empty target)).run before).1.2.schema,
        (((Collect.addAll model types).run.run (.empty target)).run before).2) := rfl
  rw [run] at succeeds
  generalize ((Collect.addAll model types).run.run (.empty target)).run before = out
    at succeeds ⊢
  obtain ⟨⟨outcome | ⟨⟩, collection⟩, memory⟩ := out
  · cases succeeds
  · cases succeeds
    exact ⟨collection, rfl, rfl⟩

namespace Codec

/-- What loading a package makes sure of. -/
structure Library.Loaded (library : Library) : Prop where
  unchanged : library.changes = []
  distinct : (library.entities.map Entity.className).Nodup
  readable : ∀ entity ∈ library.entities, Render.Python.isReadable entity = true
  checked : ∀ entity, .dataEnum entity ∈ library.entities →
    entity.check Render.Python.reservedNames = .ok ()

/-- A package that was made of some types holds the classes that were collected for them. -/
theorem Library.ofTypes_ok {package : String} {model : Model} {types : List HostType}
    {before after : Memory} {library : Library}
    (succeeds : (Library.ofTypes package model types).run.run before = (.ok library, after)) :
    library.Loaded ∧ ∃ collection memory,
      ((Collect.addAll model types).run.run (.empty .python)).run before =
        ((.ok (), collection), memory) ∧ library.entities = collection.schema.entities := by
  obtain ⟨schema, between, collected, rest⟩ := Resolving.bind_ok.mp succeeds
  obtain ⟨collection, found, rfl⟩ := Schema.ofTypes_ok collected
  obtain ⟨generated, _, accepted, rest⟩ := Resolving.bind_ok.mp rest
  have generates : collection.schema.generate .python = .ok generated := by
    rcases outcome : collection.schema.generate .python with error | classes
    · rw [outcome] at accepted
      cases accepted
    · rw [outcome] at accepted
      cases accepted
      rfl
  have loaded : library = { package := package, entities := collection.schema.entities } := by
    split at rest
    · cases rest
    · obtain ⟨_, _, -, rest⟩ := Resolving.bind_ok.mp rest
      cases rest
      rfl
  subst loaded
  obtain ⟨distinct, readable, checked⟩ := Schema.generate_ok generates
  exact ⟨⟨rfl, distinct, readable, checked⟩, collection, between, found, rfl⟩

/-- What a package is made of, and whether it is as it was loaded. -/
def Library.parts (library : Library) : String × List Entity × Bool :=
  (library.package, library.entities, library.changes.isEmpty)

/-- A run that gives the parts of an unchanged package gives the package. -/
theorem Library.made_of_parts {run : Except Failure Library × Memory} {library : Library}
    (unchanged : library.changes = [])
    (same : run.1.toOption.map Library.parts = some library.parts) :
    run = (.ok library, run.2) := by
  obtain ⟨outcome | ⟨package, entities, changes⟩, memory⟩ := run
  · cases same
  · obtain ⟨package', entities', changes'⟩ := library
    subst unchanged
    simp only [parts, Except.toOption, Option.map_some, Option.some.injEq, Prod.mk.injEq,
      List.isEmpty_nil, List.isEmpty_iff] at same
    obtain ⟨rfl, rfl, rfl⟩ := same
    rfl

end Codec

end WireModel
