import WireModel.Command.Run
import WireModel.Proofs.Collection.ClassNames
import WireModel.Proofs.Package

/-!
The command writes all that it is asked for, or, if it refuses any of it, nothing.
-/

namespace WireModel

namespace Command

variable {model : Model} {memory : Memory} {arguments : Arguments} {tree after : FileTree}
  {failure : Failure} {types : List HostType} {schema : Schema} {classes : List GeneratedClass}

/-- The references lead to the types. -/
def Loads (model : Model) (arguments : Arguments) (types : List HostType) : Prop :=
  List.Forall₂ (fun reference type => load model reference = .ok type) arguments.types types

/-- The references lead to types whose classes are collected. -/
def Collects (model : Model) (memory : Memory) (arguments : Arguments) (schema : Schema) : Prop :=
  ∃ types, Loads model arguments types ∧
    ((Schema.ofTypes arguments.target model types).run.run memory).1 = .ok schema

/-- Types are loaded, their classes are collected, and what was collected is generated. -/
theorem run_classes : ((Command.classes model arguments).run.run memory).1 = (do
    let types ← arguments.types.mapM (load model)
    let schema ← ((Schema.ofTypes arguments.target model types).run.run memory).1
    (schema.generate arguments.target).mapError Failure.generation) := by
  rw [classes]
  rcases arguments.types.mapM (load model) with failure | types
  · rfl
  · have loaded : (liftM (Except.ok types : Except Failure (List HostType)) :
        Resolving (List HostType)).run.run memory = (.ok types, memory) := rfl
    rw [Outcome.run_bind_of_ok loaded, Outcome.ok_bind, generate]
    rcases collected : (Schema.ofTypes arguments.target model types).run.run memory with
      ⟨failure | schema, between⟩
    · rw [Outcome.run_bind_of_error collected]
      rfl
    · rw [Outcome.run_bind_of_ok collected, Outcome.ok_bind]
      rcases schema.generate arguments.target with error | generated
      · rfl
      · rfl

theorem classes_ok :
    ((Command.classes model arguments).run.run memory).1 = .ok classes ↔
      ∃ schema, Collects model memory arguments schema ∧ schema.generate arguments.target =
        .ok classes := by
  have mapped {outcome : Except GenerationError (List GeneratedClass)} :
      outcome.mapError Failure.generation = .ok classes ↔ outcome = .ok classes := by
    cases outcome <;> simp [Except.mapError]
  simp only [run_classes, Outcome.bind_ok, Outcome.mapM_ok, mapped, Collects, Loads]
  constructor
  · rintro ⟨types, loaded, schema, collected, generated⟩
    exact ⟨schema, ⟨types, loaded, collected⟩, generated⟩
  · rintro ⟨schema, ⟨types, loaded, collected⟩, generated⟩
    exact ⟨types, loaded, schema, collected, generated⟩

/-- What a fault comes from while the classes are made. -/
inductive Escapes (model : Model) (memory : Memory) (arguments : Arguments) : Fault → Prop
  | directory {path : String} {fault : Fault} :
      path ∈ arguments.paths → checkDirectory path = .error fault →
        Escapes model memory arguments fault
  | reference {reference : String} {fault : Fault} :
      reference ∈ arguments.types → load model reference = .error (.fault fault) →
      Escapes model memory arguments fault
  | collecting {types : List HostType} {fault : Fault} :
      Loads model arguments types →
      ((Schema.ofTypes arguments.target model types).run.run memory).1 = .error (.fault fault) →
      Escapes model memory arguments fault

/-- Only loading and collecting can meet a fault: generating meets none. -/
theorem escapes_of_classes {fault : Fault}
    (fails : ((Command.classes model arguments).run.run memory).1 = .error (.fault fault)) :
    Escapes model memory arguments fault := by
  have only : Outcome.FailsOnly (fun failure => ∀ fault, failure = .fault fault →
      Escapes model memory arguments fault)
        ((Command.classes model arguments).run.run memory).1 := by
    rw [run_classes]
    refine .bind ?_ fun types loaded => .bind ?_ fun schema _ => ?_
    · intro failure failed fault same
      have found : Outcome.FailsOnly (fun failure => ∃ reference ∈ arguments.types,
          load model reference = .error failure) (arguments.types.mapM (load model)) :=
        .mapM fun reference member failure failed => ⟨reference, member, failed⟩
      obtain ⟨reference, member, fails⟩ := found failure failed
      exact .reference member (same ▸ fails)
    · intro failure failed fault same
      exact .collecting (Outcome.mapM_ok.mp loaded) (same ▸ failed)
    · intro failure failed fault same
      rcases generated : schema.generate arguments.target with error | all
      · rw [generated] at failed
        cases failed
        cases same
      · rw [generated] at failed
        cases failed
  exact only _ fails fault rfl

/-- The directories are walked and the classes are made before anything is written. -/
theorem run_writeClasses : (writeClasses model memory arguments).run.run tree =
    match (arguments.paths.forM checkDirectory).mapError Failure.fault with
    | .error failure => (.error failure, tree)
    | .ok _ =>
      match ((Command.classes model arguments).run.run memory).1 with
      | .error failure => (.error failure, tree)
      | .ok classes => (Package.write arguments.target classes (packageOf arguments)
          arguments.outputDir).run.run tree := by
  rw [writeClasses]
  rcases (arguments.paths.forM checkDirectory).mapError Failure.fault with failure | checked
  · rfl
  · have walked : (liftM (Except.ok checked : Except Failure Unit) :
        Writing Unit).run.run tree = (.ok checked, tree) := rfl
    rw [Outcome.run_bind_of_ok walked]
    rcases ((Command.classes model arguments).run.run memory).1 with failure | classes
    · rfl
    · have made : (liftM (Except.ok classes : Except Failure (List GeneratedClass)) :
          Writing (List GeneratedClass)).run.run tree = (.ok classes, tree) := rfl
      rw [Outcome.run_bind_of_ok made]

/-- An end of writing is an answer of the command: paths are printed, and an error of generation
is. -/
theorem run_eq : (run model memory arguments).run tree =
    match (writeClasses model memory arguments).run.run tree with
    | (.ok paths, after) => (.ok ⟨0, paths.map fun path => "Generated: " ++ path.text, []⟩, after)
    | (.error (.generation error), after) => (.ok ⟨1, [], ["error: " ++ error.message]⟩, after)
    | (.error (.fault fault), after) => (.error fault, after) := by
  rw [run, StateT.run_bind]
  rcases (writeClasses model memory arguments).run.run tree with ⟨(error | fault) | paths, after⟩
  · rfl
  · rfl
  · rfl

theorem Loads.eq {others : List HostType} (loads : Loads model arguments types)
    (again : Loads model arguments others) : types = others :=
  Except.ok.inj ((Outcome.mapM_ok.mpr loads).symm.trans (Outcome.mapM_ok.mpr again))

theorem Collects.eq {other : Schema} (collects : Collects model memory arguments schema)
    (again : Collects model memory arguments other) : schema = other := by
  obtain ⟨types, loads, collected⟩ := collects
  obtain ⟨others, reloads, recollected⟩ := again
  obtain rfl := loads.eq reloads
  exact Except.ok.inj (collected.symm.trans recollected)

/-- What the command refuses: a reference that leads to no type, types that cannot be collected,
collected classes of one name, of one Python module, or that cannot be generated. -/
inductive Refused (model : Model) (memory : Memory) (arguments : Arguments) : Prop
  | reference {reference : String} {error : GenerationError} :
      reference ∈ arguments.types → load model reference = .error (.generation error) →
      Refused model memory arguments
  | collecting {types : List HostType} {error : GenerationError} :
      Loads model arguments types →
      ((Schema.ofTypes arguments.target model types).run.run memory).1 =
        .error (.generation error) →
      Refused model memory arguments
  | names {schema : Schema} :
      Collects model memory arguments schema →
      ¬ (schema.entities.map Schema.Entity.className).Nodup → Refused model memory arguments
  | rendering {schema : Schema} {entity : Schema.Entity} {error : GenerationError} :
      Collects model memory arguments schema → entity ∈ schema.entities →
      arguments.target.generateEntity entity = .error error → Refused model memory arguments
  | modules {schema : Schema} :
      Collects model memory arguments schema → arguments.target = .python →
      ¬ (schema.entities.map fun entity => Render.moduleName entity.className).Nodup →
      Refused model memory arguments

/-- Where classes were generated, only their modules can be refused. -/
theorem Refused.modules_of_generate (refused : Refused model memory arguments)
    (collects : Collects model memory arguments schema)
    (generates : schema.generate arguments.target = .ok classes) :
    arguments.target = .python ∧
      ¬ (classes.map fun generated => Render.moduleName generated.name).Nodup := by
  obtain ⟨each, distinct⟩ := Schema.generate_each generates
  cases refused with
  | reference member fails =>
    obtain ⟨types, loads, -⟩ := collects
    obtain ⟨type, -, found⟩ := Outcome.exists_related loads member
    cases found.symm.trans fails
  | collecting loads fails =>
    obtain ⟨types, again, collected⟩ := collects
    obtain rfl := loads.eq again
    cases collected.symm.trans fails
  | names again repeated =>
    obtain rfl := collects.eq again
    exact absurd distinct repeated
  | rendering again member fails =>
    obtain rfl := collects.eq again
    obtain ⟨generated, -, found⟩ := Outcome.exists_related each member
    cases found.symm.trans fails
  | modules again isPython repeated =>
    obtain rfl := collects.eq again
    refine ⟨isPython, ?_⟩
    have names := congrArg (List.map Render.moduleName) (Schema.generate_names generates).1
    rw [List.map_map, List.map_map] at names
    exact fun apart => repeated (names ▸ apart)

theorem writeClasses_refused (refused : Refused model memory arguments) (tree : FileTree) :
    ∃ failure, (writeClasses model memory arguments).run.run tree = (.error failure, tree) ∧
      ∀ fault, failure = .fault fault → Escapes model memory arguments fault := by
  rw [run_writeClasses]
  rcases walked : arguments.paths.forM checkDirectory with fault | ⟨⟩
  · refine ⟨.fault fault, rfl, fun other same => ?_⟩
    cases same
    have only :
        Outcome.FailsOnly (Escapes model memory arguments) (arguments.paths.forM checkDirectory) :=
      .forM fun path member fault fails => .directory member fails
    exact only fault walked
  · rcases made : ((Command.classes model arguments).run.run memory).1 with failure | classes
    · exact ⟨failure, rfl, fun fault same => escapes_of_classes (same ▸ made)⟩
    · obtain ⟨schema, collects, generates⟩ := classes_ok.mp made
      obtain ⟨isPython, repeated⟩ := refused.modules_of_generate collects generates
      rcases clash : Package.moduleClash? [] classes with _ | ⟨first, second, module⟩
      · exact absurd (Package.moduleClash?_none clash).1 repeated
      · refine ⟨.generation (.moduleClash first second module), ?_, fun fault same => by cases same⟩
        simp only [isPython, Package.write, Package.writePython, clash]
        rfl

/-- What is refused ends the command before it writes: an error is printed and nothing else, unless
a fault ends it. -/
theorem run_refused (refused : Refused model memory arguments) (tree : FileTree) :
    ∃ result, (run model memory arguments).run tree = (result, tree) ∧
      ((∃ error : GenerationError, result = .ok ⟨1, [], ["error: " ++ error.message]⟩) ∨
        ∃ fault, Escapes model memory arguments fault ∧ result = .error fault) := by
  obtain ⟨failure, fails, faults⟩ := writeClasses_refused refused tree
  rw [run_eq, fails]
  cases failure with
  | generation error => exact ⟨_, rfl, .inl ⟨error, rfl⟩⟩
  | fault fault => exact ⟨_, rfl, .inr ⟨fault, faults fault rfl, rfl⟩⟩

/-- What the command leaves and prints when it ends well: one file for each collected class, in
their order, with the text that was generated for it, and last the exports of a Python package. -/
structure Published (arguments : Arguments) (schema : Schema) (classes : List GeneratedClass)
    (tree : FileTree) (stdout : List String) (after : FileTree) : Prop where
  generated :
    List.Forall₂ (fun entity generated => arguments.target.generateEntity entity = .ok generated)
    schema.entities classes
  printed : stdout = (Package.files arguments.target classes (packageOf arguments)).map fun file =>
    "Generated: " ++
      ((Package.directory (packageOf arguments) arguments.outputDir).inside file.1).text
  distinct : stdout.Nodup
  holds : ∀ file ∈ Package.files arguments.target classes (packageOf arguments),
    after.Holds ((Package.directory (packageOf arguments) arguments.outputDir).inside file.1) file.2
  /-- Elsewhere nothing changed, but that directories were made. -/
  frame : ∀ place, (∀ file ∈ Package.files arguments.target classes (packageOf arguments),
      after.locate ((Package.directory (packageOf arguments) arguments.outputDir).inside file.1) ≠
        .ok place) →
    after.get? place = tree.get? place ∨ tree.get? place = none ∧ after.get? place = some .directory

theorem not_slash_mem_className (identifiers : ∀ declared ∈ model.classes,
      Text.isIdentifier declared.ref.name = true)
    (declares : ∀ types, Loads model arguments types → ∀ type, Needed model memory types type →
      model.Declares type)
    (collects : Collects model memory arguments schema) {entity : Schema.Entity}
    (member : entity ∈ schema.entities) : '/' ∉ entity.className.toList := by
  obtain ⟨types, loads, collected⟩ := collects
  rcases run : (Schema.ofTypes arguments.target model types).run.run memory with ⟨outcome, between⟩
  rw [run] at collected
  cases collected
  obtain ⟨collection, found, rfl⟩ := Schema.ofTypes_ok run
  obtain ⟨walk, walked⟩ := Collect.addAll_walked found
  have named : ∀ type, Needed model memory types type → type.NamesMadeOf (· ≠ '/') := by
    intro type needed ref mentions c inside same
    obtain ⟨declared, known, rfl⟩ := declares types loads type needed ref mentions
    exact Package.not_slash_mem_identifier (identifiers declared known) (same ▸ inside)
  have madeOf : MadeOf (· ≠ '/') entity.className := by
    refine walked.className_madeOf ?_ named member
    rintro c alphanumeric rfl
    cases alphanumeric
  exact fun inside => madeOf '/' inside rfl

theorem writeClasses_ok {paths : List FilePath} :
    (writeClasses model memory arguments).run.run tree = (.ok paths, after) →
      ∃ schema classes, Collects model memory arguments schema ∧
        schema.generate arguments.target = .ok classes ∧
        (Package.write arguments.target classes (packageOf arguments)
          arguments.outputDir).run.run tree =
          (.ok paths, after) := by
  rw [run_writeClasses]
  rcases arguments.paths.forM checkDirectory with fault | ⟨⟩
  · intro run
    cases run
  · rcases made : ((Command.classes model arguments).run.run memory).1 with failure | classes
    · intro run
      cases run
    · intro run
      obtain ⟨schema, collects, generates⟩ := classes_ok.mp made
      exact ⟨schema, classes, collects, generates, run⟩

theorem writeClasses_published {paths : List FilePath}
    (generates : schema.generate arguments.target = .ok classes)
    (flat : ∀ entity ∈ schema.entities, '/' ∉ entity.className.toList)
    (apart : arguments.target = .python → ∀ entity ∈ schema.entities,
      Render.moduleName entity.className ≠ "__init__")
    (run : (Package.write arguments.target classes (packageOf arguments)
      arguments.outputDir).run.run tree =
      (.ok paths, after)) :
    Published arguments schema classes tree (paths.map fun path =>
      "Generated: " ++ path.text) after := by
  obtain ⟨names, distinct⟩ := Schema.generate_names generates
  have entityOf : ∀ generated ∈ classes, ∃ entity ∈ schema.entities,
      entity.className = generated.name :=
    fun generated member => List.mem_map.mp (names ▸ List.mem_map_of_mem member)
  have flatNames : ∀ generated ∈ classes, '/' ∉ generated.name.toList := by
    intro generated member
    obtain ⟨entity, inside, same⟩ := entityOf generated member
    exact same ▸ flat entity inside
  have apartNames : arguments.target = .python → ∀ generated ∈ classes,
      Render.moduleName generated.name ≠ "__init__" := by
    intro isPython generated member
    obtain ⟨entity, inside, same⟩ := entityOf generated member
    exact same ▸ apart isPython entity inside
  obtain ⟨files, packed⟩ := Package.write_ok flatNames (names ▸ distinct) apartNames run
  have printed : (paths.map fun path => "Generated: " ++ path.text) =
      (Package.files arguments.target classes (packageOf arguments)).map fun file =>
        "Generated: " ++
          ((Package.directory (packageOf arguments) arguments.outputDir).inside file.1).text := by
    rw [packed.returned, List.map_map]
    rfl
  refine ⟨(Schema.generate_each generates).1, printed, ?_,
    fun file => packed.holds_of_mem files, ?_⟩
  · have lines : Function.Injective fun name => "Generated: " ++
        ((Package.directory (packageOf arguments) arguments.outputDir).inside name).text := by
      intro name other same
      have texts := congrArg String.toList same
      simp only [String.toList_append] at texts
      exact FilePath.text_inside_injective _ (String.toList_inj.mp (List.append_cancel_left texts))
    have distinctLines := files.map lines
    rw [List.map_map] at distinctLines
    rw [printed]
    exact distinctLines
  · intro place elsewhere
    apply packed.frame
    rw [packed.returned]
    intro path member
    obtain ⟨file, inside, rfl⟩ := List.mem_map.mp member
    exact elsewhere file inside

/-- The command writes nothing if it refuses anything, and then prints an error and nothing else,
unless a fault ends it. What it does not refuse it writes to one file for each class, unless a class
lives in the module of the exports. -/
theorem run_allOrNothing
    (identifiers : ∀ declared ∈ model.classes, Text.isIdentifier declared.ref.name = true)
    (declares : ∀ types, Loads model arguments types → ∀ type, Needed model memory types type →
      model.Declares type) (tree : FileTree) :
    (Refused model memory arguments →
      ∃ result, (run model memory arguments).run tree = (result, tree) ∧
        ((∃ error : GenerationError, result = .ok ⟨1, [], ["error: " ++ error.message]⟩) ∨
          ∃ fault, Escapes model memory arguments fault ∧ result = .error fault)) ∧
      ∀ stdout stderr after, (run model memory arguments).run tree =
        (.ok ⟨0, stdout, stderr⟩, after) →
        ∃ schema, Collects model memory arguments schema ∧
          ((arguments.target = .python → ∀ entity ∈ schema.entities,
              Render.moduleName entity.className ≠ "__init__") →
            ∃ classes, Published arguments schema classes tree stdout after) := by
  refine ⟨fun refused => run_refused refused tree, ?_⟩
  intro stdout stderr after
  rw [run_eq]
  rcases written : (writeClasses model memory arguments).run.run tree with
    ⟨(error | fault) | paths, final⟩
  · intro found
    cases found
  · intro found
    cases found
  · intro found
    cases found
    obtain ⟨schema, classes, collects, generates, run⟩ := writeClasses_ok written
    refine ⟨schema, collects, fun apart => ⟨classes, ?_⟩⟩
    exact writeClasses_published generates
      (fun entity => not_slash_mem_className identifiers declares collects) apart run

/-- The arguments that ask for a class without fields. -/
def leafArguments : Arguments :=
  ⟨["m:E"], .java, "", "generated", []⟩

theorem run_allOrNothing_leaf :
    readArguments ["m:E"] = .arguments leafArguments ∧
    (∀ declared ∈ Collect.nestingModel.classes, Text.isIdentifier declared.ref.name = true) ∧
    (∀ types, Loads Collect.nestingModel leafArguments types →
      ∀ type, Needed Collect.nestingModel .empty types type → Collect.nestingModel.Declares type) ∧
    ∃ stdout stderr after,
      (run Collect.nestingModel .empty leafArguments).run .empty =
        (.ok ⟨0, stdout, stderr⟩, after) ∧
      ∃ schema classes, Collects Collect.nestingModel .empty leafArguments schema ∧
        Published leafArguments schema classes .empty stdout after := by
  have identifiers : ∀ declared ∈ Collect.nestingModel.classes,
      Text.isIdentifier declared.ref.name = true := by decide +kernel
  have loads : Loads Collect.nestingModel leafArguments [.declared Collect.leafRef] :=
    .cons rfl .nil
  have declares : ∀ types, Loads Collect.nestingModel leafArguments types →
      ∀ type, Needed Collect.nestingModel .empty types type →
        Collect.nestingModel.Declares type := by
    intro types others type needed
    obtain rfl := loads.eq others
    exact Collect.declares_nesting (Collect.needed_nesting (by simp [Collect.nestingTypes]) needed)
  have shown : Collect.nestingModel.ParametersShown := by decide +kernel
  have ends : (((run Collect.nestingModel .empty leafArguments).run .empty).1.toOption.map
      Outcome.exitCode) = some 0 := by
    simp only [run, writeClasses, classes, generate, Schema.ofTypes_eq_paired shown]
    decide +kernel
  rcases written : (run Collect.nestingModel .empty leafArguments).run .empty with
    ⟨fault | ⟨exitCode, stdout, stderr⟩, after⟩
  · rw [written] at ends
    cases ends
  · rw [written] at ends
    cases ends
    obtain ⟨schema, collects, publishes⟩ :=
      (run_allOrNothing identifiers declares .empty).2 stdout stderr after written
    obtain ⟨classes, published⟩ := publishes fun isPython => by cases isPython
    exact ⟨rfl, identifiers, declares, stdout, stderr, after, rfl, schema, classes,
      collects, published⟩

/-- A reference to a relative module ends the command with a fault, so that the reference behind it
is not refused. -/
theorem not_run_refuses_reference :
    ¬ ∀ (model : Model) (memory : Memory) (argv : List String) (arguments : Arguments)
      (tree : FileTree)
      (reference : String) (error : GenerationError), readArguments argv = .arguments arguments →
      reference ∈ arguments.types → load model reference = .error (.generation error) →
      ∃ stderr, (run model memory arguments).run tree = (.ok ⟨1, [], stderr⟩, tree) := by
  intro refuses
  obtain ⟨stderr, ends⟩ := refuses .empty .empty [".a:B", "nosuch"]
    ⟨[".a:B", "nosuch"], .java, "", "generated", []⟩ .empty "nosuch" (.brokenReference "nosuch") rfl
    (by simp) rfl
  cases ends

end Command

end WireModel
