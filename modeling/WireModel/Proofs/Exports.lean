import WireModel.Proofs.Package
import WireModel.Proofs.Respelling
import WireModel.Render.Lines

/-!
What a package of Python modules binds when the module that exports its classes is run. Each import
loads a module of the package, which binds the name of the module, and then binds the name of a
class. A class that is named like a module lives in the module of that name, and so in packages that
are written no module takes the name of another class: the names of the classes are bound to the
classes.
-/

namespace WireModel

open Text

namespace Text

theorem partsFrom_append {mark : Char} {begun text rest : List Char} (flat : mark ∉ text) :
    partsFrom mark begun (text ++ mark :: rest) =
      String.ofList (begun.reverse ++ text) :: partsFrom mark [] rest := by
  induction text generalizing begun with
  | nil => rw [List.nil_append, partsFrom, if_pos rfl, List.append_nil]
  | cons c others ih =>
    rw [List.mem_cons, not_or] at flat
    rw [List.cons_append, partsFrom, if_neg (Ne.symm flat.1), ih flat.2, List.reverse_cons,
      List.append_assoc]
    rfl

/-- Lines are told apart by their ends, behind which stands an empty text. -/
theorem partsAt_joinLines {first : String} {lines : List String}
    (flat : ∀ line ∈ first :: lines, '\n' ∉ line.toList) :
    partsAt '\n' (Render.joinLines (first :: lines)) = first :: lines ++ [""] := by
  induction lines generalizing first with
  | nil =>
    have ended : (Render.joinLines [first]).toList = first.toList ++ '\n' :: [] := by
      rw [Render.joinLines, String.intercalate_singleton, String.toList_append]
      rfl
    rw [partsAt, ended, partsFrom_append (flat first (List.mem_cons_self ..)), List.reverse_nil,
      List.nil_append, String.ofList_toList]
    rfl
  | cons next lines ih =>
    obtain ⟨flatFirst, others⟩ := List.forall_mem_cons.mp flat
    have ended : (Render.joinLines (first :: next :: lines)).toList =
        first.toList ++ '\n' :: (Render.joinLines (next :: lines)).toList := by
      simp [Render.joinLines]
    rw [partsAt, ended, partsFrom_append flatFirst, List.reverse_nil, List.nil_append,
      String.ofList_toList, ← partsAt, ih others]
    rfl

theorem isIdentifier_iff {text : String} :
    isIdentifier text = true ↔ ∃ c rest, text.toList = c :: rest ∧ isIdentifierStart c = true ∧
      ∀ d ∈ rest, isIdentifierContinuation d = true := by
  unfold isIdentifier
  cases text.toList with
  | nil => simp
  | cons c rest => simp [and_assoc]

theorem isIdentifierContinuation_underscore : isIdentifierContinuation '_' = true := by
  decide +kernel

theorem isIdentifier_append_underscore {text : String} (identifier : isIdentifier text = true) :
    isIdentifier (text ++ "_") = true := by
  obtain ⟨c, rest, spelled, starts, continues⟩ := isIdentifier_iff.mp identifier
  refine isIdentifier_iff.mpr
    ⟨c, rest ++ ['_'], by rw [String.toList_append, spelled]; rfl, starts, ?_⟩
  rw [List.forall_mem_append, List.forall_mem_singleton]
  exact ⟨continues, isIdentifierContinuation_underscore⟩

end Text

namespace Name

theorem snakeOfCamel_of_notUpper {afterLower : Bool} {text : List Char}
    (notUpper : ∀ c ∈ text, c.isUpper = false) : snakeOfCamel afterLower text = text := by
  induction text generalizing afterLower with
  | nil => rfl
  | cons c rest ih =>
    obtain ⟨first, others⟩ := List.forall_mem_cons.mp notUpper
    rw [snakeOfCamel, first, Bool.and_false, if_neg Bool.false_ne_true,
      toLower_of_notUpper first, ih others]

/-- A capital letter of ASCII may stand in lower case where it stood. -/
theorem isIdentifierPart_toLower {c : Char} :
    (isIdentifierStart c = true → isIdentifierStart c.toLower = true) ∧
      (isIdentifierContinuation c = true → isIdentifierContinuation c.toLower = true) := by
  cases upper : c.isUpper with
  | false => rw [toLower_of_notUpper upper]; exact ⟨id, id⟩
  | true =>
    have lowered : isIdentifierStart c.toLower = true ∧ isIdentifierContinuation c.toLower = true :=
      forall_ascii (motive := fun c : Char => c.isUpper = true →
        isIdentifierStart c.toLower = true ∧ isIdentifierContinuation c.toLower = true)
        (by decide +kernel) (ascii_of_isUpper upper) upper
    exact ⟨fun _ => lowered.1, fun _ => lowered.2⟩

theorem isIdentifier_snake {text : String} (identifier : isIdentifier text = true) :
    isIdentifier (ofPascal text).snake = true := by
  obtain ⟨c, rest, spelled, starts, continues⟩ := isIdentifier_iff.mp identifier
  refine isIdentifier_iff.mpr ⟨c.toLower, snakeOfCamel c.isLower rest, ?_,
    isIdentifierPart_toLower.1 starts, ?_⟩
  · rw [snake_ofPascal, spelled, snakeOfCamel, Bool.false_and, if_neg Bool.false_ne_true]
  · intro d member
    rcases mem_snakeOfCamel member with rfl | ⟨e, inside, rfl⟩
    · exact isIdentifierContinuation_underscore
    · exact isIdentifierPart_toLower.2 (continues e inside)

end Name

namespace Render

/-- Behind its underscore a keyword is none. -/
theorem pythonIdentifier_not_mem (text : String) : pythonIdentifier text ∉ reservedWords := by
  have plain : ∀ word ∈ reservedWords, word.toList.getLast? ≠ some '_' := by decide +kernel
  rw [pythonIdentifier]
  split
  · intro reserved
    exact plain _ reserved (by simp)
  · next free => exact free

theorem pythonIdentifier_of_not_mem {text : String} (free : text ∉ reservedWords) :
    pythonIdentifier text = text :=
  if_neg free

theorem notUpper_of_mem_moduleName {name : String} {c : Char}
    (member : c ∈ (moduleName name).toList) :
    c.isUpper = false := by
  have lowered : ∀ d ∈ (Name.ofPascal name).snake.toList, d.isUpper = false := by
    rw [Name.snake_ofPascal]
    exact fun d => Name.notUpper_of_mem_snakeOfCamel
  rw [moduleName, pythonIdentifier] at member
  split at member
  · rw [String.toList_append, List.mem_append] at member
    rcases member with inside | underscore
    · exact lowered c inside
    · rw [List.mem_singleton.mp underscore]
      rfl
  · exact lowered c member

/-- A class that is named like a module lives in the module of that name. -/
theorem moduleName_moduleName (name : String) : moduleName (moduleName name) = moduleName name := by
  have kept : (Name.ofPascal (moduleName name)).snake = moduleName name := by
    rw [← String.toList_inj, Name.snake_ofPascal]
    exact Name.snakeOfCamel_of_notUpper fun c => notUpper_of_mem_moduleName
  have free : moduleName name ∉ reservedWords := pythonIdentifier_not_mem _
  calc moduleName (moduleName name)
    _ = pythonIdentifier (moduleName name) := by rw [moduleName, kept]
    _ = moduleName name := pythonIdentifier_of_not_mem free

theorem isIdentifier_moduleName {name : String} (identifier : isIdentifier name = true) :
    isIdentifier (moduleName name) = true := by
  have snake := Name.isIdentifier_snake identifier
  rw [moduleName, pythonIdentifier]
  split
  · exact isIdentifier_append_underscore snake
  · exact snake

end Render

namespace Package

open Render (moduleName)

/-- An import of a name from a module of the same package. -/
structure Import where
  module : String
  name : String
  deriving DecidableEq, Repr

/-- The import that a line states: two names, which are read in their normal form. The second one is
bound. -/
def Import.ofLine? (line : String) : Option Import := do
  let rest ← line.toList.dropPrefix? "from .".toList
  let module := String.ofList (rest.takeWhile (· != ' '))
  let name := String.ofList (← (rest.dropWhile (· != ' ')).dropPrefix? " import ".toList)
  if isIdentifier module && !reservedWords.contains module && isBindable name then
    some ⟨normalized module, normalized name⟩
  else
    none

/-- What a name of a package is bound to: a module of it, or what the text of a module binds to a
name. -/
inductive Binding where
  | module (name : String)
  | member (text name : String)
  deriving DecidableEq, Repr

/-- A package while the module that exports its classes runs: the modules that were loaded, and the
bindings, of which the last one of a name stands first. -/
structure Loading where
  loaded : List String := []
  bindings : List (String × Binding) := []
  deriving DecidableEq, Repr

namespace Loading

/-- A module is bound when it is loaded for the first time, and then the name that is imported from
it. -/
def bind (state : Loading) (statement : Import) (text : String) : Loading where
  loaded := statement.module :: state.loaded
  bindings := (statement.name, .member text statement.name) ::
    if statement.module ∈ state.loaded then state.bindings
    else (statement.module, .module statement.module) :: state.bindings

/-- Runs a line: it must be an import, the file of the module must be there, and its text must bind
the name. What texts bind is given. -/
def run? (defines : String → String → Bool) (files : List (String × String)) (state : Loading)
    (line : String) : Option Loading := do
  let statement ← Import.ofLine? line
  let text ← files.reverse.lookup (statement.module ++ ".py")
  if defines text statement.name then some (state.bind statement text) else none

end Loading

/-- The lines of a text that are neither empty nor comments. -/
def statements (text : String) : List String :=
  (partsAt '\n' text).filter fun line => line != "" && line.toList.head? != some '#'

/-- The bindings of a package that consists of some files, in the order in which they were written,
once all imports of the module that exports its classes have run. -/
def load? (defines : String → String → Bool) (files : List (String × String)) :
    Option (List (String × Binding)) := do
  let text ← files.reverse.lookup "__init__.py"
  let state ← (statements text).foldlM (Loading.run? defines files) {}
  return state.bindings

def importLine (className : String) : String :=
  "from ." ++ moduleName className ++ " import " ++ className

/-- The name is one of those between double underscores, which belong to the language. -/
def isSystemName (name : String) : Bool :=
  "__".toList.isPrefixOf name.toList && "__".toList.isSuffixOf name.toList

/-- An import reads a class name and the name of its module as they are written, and the language
gives neither a meaning of its own. -/
@[mk_iff]
structure ReadsAsWritten (className : String) : Prop where
  identifier : isIdentifier className = true
  normal : normalized className = className
  moduleNormal : normalized (moduleName className) = moduleName className
  ordinary : isSystemName (moduleName className) = false

instance : DecidablePred ReadsAsWritten :=
  fun className => decidable_of_iff' _ (readsAsWritten_iff className)

namespace ReadsAsWritten

variable {className : String}

theorem ne_exports (reads : ReadsAsWritten className) : moduleName className ≠ "__init__" := by
  intro same
  have ordinary := reads.ordinary
  rw [same] at ordinary
  revert ordinary
  decide

theorem isBindable (reads : ReadsAsWritten className) :
    Text.isBindable className = !reservedWords.contains className := by
  have other : className ≠ "__debug__" := by
    rintro rfl
    exact absurd reads.ordinary (by decide)
  rw [Text.isBindable, reads.identifier, reads.normal, Bool.true_and, bne_iff_ne.mpr other,
    Bool.and_true]

theorem not_mem_importLine (reads : ReadsAsWritten className) {c : Char}
    (starts : isIdentifierStart c = false)
    (continues : isIdentifierContinuation c = false) (other : c ∉ "from . import ".toList) :
    c ∉ (importLine className).toList := by
  have module : c ∉ (moduleName className).toList :=
    not_mem_identifier starts continues (Render.isIdentifier_moduleName reads.identifier)
  have name : c ∉ className.toList := not_mem_identifier starts continues reads.identifier
  simp only [importLine, String.toList_append, List.mem_append, not_or]
  refine ⟨⟨⟨?_, module⟩, ?_⟩, name⟩
  · exact fun member => other (List.mem_of_mem_take (i := 6) member)
  · exact fun member => other (List.mem_of_mem_drop (i := 6) member)

/-- The line is read as what it was written for, unless the class is named by a keyword. -/
theorem ofLine?_importLine (reads : ReadsAsWritten className) :
    Import.ofLine? (importLine className) =
      if className ∈ reservedWords then none else some ⟨moduleName className, className⟩ := by
  have identifier := Render.isIdentifier_moduleName reads.identifier
  have free : moduleName className ∉ reservedWords := Render.pythonIdentifier_not_mem _
  have noBlank : ∀ c ∈ (moduleName className).toList, (c != ' ') = true := by
    intro c member
    rw [bne_iff_ne]
    rintro rfl
    exact not_mem_identifier (by decide +kernel) (by decide +kernel) identifier member
  have spelled : (importLine className).toList =
      "from .".toList ++
        ((moduleName className).toList ++ (" import ".toList ++ className.toList)) := by
    simp only [importLine, String.toList_append, List.append_assoc]
  have dropped (front rest : List Char) : (front ++ rest).dropPrefix? front = some rest :=
    List.dropPrefix?_eq_some_iff.mpr ⟨front, rfl, beq_self_eq_true front⟩
  have moduleText :
      ((moduleName className).toList ++ (" import ".toList ++ className.toList)).takeWhile
      (· != ' ') =
      (moduleName className).toList := by
    rw [List.takeWhile_append_of_pos noBlank]
    exact List.append_nil _
  have behind : ((moduleName className).toList ++ (" import ".toList ++ className.toList)).dropWhile
      (· != ' ') =
      " import ".toList ++ className.toList := by
    rw [List.dropWhile_append_of_pos noBlank]
    rfl
  rw [Import.ofLine?, spelled, dropped]
  simp only [Option.bind_eq_bind, Option.bind_some, moduleText, behind, dropped,
    String.ofList_toList, identifier, reads.isBindable, reads.normal, reads.moduleNormal,
    Bool.true_and]
  by_cases reserved : className ∈ reservedWords
  · simp [reserved]
  · simp [reserved, free]

end ReadsAsWritten

theorem statements_exports {classes : List GeneratedClass}
    (reads : ∀ generated ∈ classes, ReadsAsWritten generated.name) :
    statements (exports classes) = classes.map fun generated => importLine generated.name := by
  have lines : exports classes = Render.joinLines
      ("# AUTO-GENERATED - DO NOT EDIT" :: classes.map fun generated =>
        importLine generated.name) := rfl
  have flat : ∀ line ∈ "# AUTO-GENERATED - DO NOT EDIT" :: classes.map fun generated =>
      importLine generated.name,
      '\n' ∉ line.toList := by
    rw [List.forall_mem_cons, List.forall_mem_map]
    exact ⟨by decide, fun generated member =>
      (reads generated member).not_mem_importLine (by decide +kernel) (by decide +kernel)
        (by decide)⟩
  have kept : ∀ line ∈ classes.map fun generated => importLine generated.name,
      (line != "" && line.toList.head? != some '#') = true := by
    rw [List.forall_mem_map]
    intro generated _
    have begins : (importLine generated.name).toList.head? = some 'f' := by
      simp [importLine]
    have named : importLine generated.name ≠ "" := by
      intro empty
      rw [empty] at begins
      cases begins
    rw [begins, bne_iff_ne.mpr named]
    rfl
  rw [statements, lines, Text.partsAt_joinLines flat, List.cons_append,
    List.filter_cons_of_neg (by decide), List.filter_append, List.filter_eq_self.mpr kept]
  exact List.append_nil _

/-- In modules of their own, a class that is named like a module is the class that lives there. -/
theorem eq_of_name_eq_moduleName {classes : List GeneratedClass} {generated other : GeneratedClass}
    (distinct : (classes.map fun generated => moduleName generated.name).Nodup)
    (member : generated ∈ classes)
    (otherMember : other ∈ classes) (same : generated.name = moduleName other.name) :
    generated = other := by
  refine Search.eq_of_key distinct otherMember member ?_
  rw [same, Render.moduleName_moduleName]

namespace Loading

variable {defines : String → String → Bool} {classes : List GeneratedClass}
    {generated other : GeneratedClass}
  {state last : Loading}

/-- The name of the class is bound to what the text of its module binds it to. -/
def Holds (state : Loading) (generated : GeneratedClass) : Prop :=
  state.bindings.lookup generated.name = some (.member generated.code generated.name)

theorem holds_bind (state : Loading) (generated : GeneratedClass) :
    (state.bind ⟨moduleName generated.name, generated.name⟩ generated.code).Holds generated := by
  rw [Holds, bind, Search.lookup_entry, if_pos rfl]

/-- Importing a class leaves the names of other classes bound as they are. -/
theorem Holds.bind (holds : state.Holds generated) (apart : generated.name ≠ other.name)
    (apartModule : generated.name ≠ moduleName other.name) :
    (state.bind ⟨moduleName other.name, other.name⟩ other.code).Holds generated := by
  rw [Holds, Loading.bind, Search.lookup_entry, if_neg apart]
  split
  · exact holds
  · rw [Search.lookup_entry, if_neg apartModule]
    exact holds

/-- Running the line of a class imports it, if its name may be bound and its text binds it. -/
theorem run?_importLine (distinct : (classes.map fun generated => moduleName generated.name).Nodup)
    (member : generated ∈ classes) (reads : ReadsAsWritten generated.name) :
    state.run? defines (pythonFiles classes) (importLine generated.name) =
      if generated.name ∉ reservedWords ∧ defines generated.code generated.name = true then
        some (state.bind ⟨moduleName generated.name, generated.name⟩ generated.code)
      else none := by
  rw [run?, reads.ofLine?_importLine]
  by_cases reserved : generated.name ∈ reservedWords
  · simp [reserved]
  · simp [reserved, lookup_module distinct member reads.ne_exports]

/-- What runs to its end binds each class that it imports, and leaves those bound that were. -/
theorem holds_of_foldlM (distinct : (classes.map fun generated => moduleName generated.name).Nodup)
    (reads : ∀ generated ∈ classes, ReadsAsWritten generated.name) {imported : List GeneratedClass}
    (inside : imported ⊆ classes)
    (ran : (imported.map fun generated => importLine generated.name).foldlM
      (run? defines (pythonFiles classes)) state = some last) :
    (∀ generated ∈ imported, last.Holds generated) ∧
      ∀ generated ∈ classes, state.Holds generated → last.Holds generated := by
  induction imported generalizing state with
  | nil =>
    cases ran
    exact ⟨by simp, fun _ _ => id⟩
  | cons next rest ih =>
    obtain ⟨member, others⟩ := List.cons_subset.mp inside
    rw [List.map_cons, List.foldlM_cons, Option.bind_eq_bind] at ran
    obtain ⟨middle, step, ran⟩ := Option.bind_eq_some_iff.mp ran
    rw [run?_importLine distinct member (reads next member), Option.ite_none_right_eq_some] at step
    have bindsNext := Option.some.inj step.2
    obtain ⟨bound, kept⟩ := ih others ran
    rw [← bindsNext] at kept
    have self := kept next member (holds_bind state next)
    refine ⟨List.forall_mem_cons.mpr ⟨self, bound⟩, fun generated inClasses holds => ?_⟩
    by_cases same : generated = next
    · rwa [same]
    · have apart : generated.name ≠ next.name := fun names =>
        same (Search.eq_of_key distinct member inClasses (congrArg moduleName names))
      have apartModule : generated.name ≠ moduleName next.name := fun names =>
        same (eq_of_name_eq_moduleName distinct inClasses member names)
      exact kept generated inClasses (holds.bind apart apartModule)

/-- The imports run to their end if each class may be bound and is bound by the text of its
module. -/
theorem isSome_foldlM (distinct : (classes.map fun generated => moduleName generated.name).Nodup)
    (reads : ∀ generated ∈ classes, ReadsAsWritten generated.name) {imported : List GeneratedClass}
    (inside : imported ⊆ classes) :
    ((imported.map fun generated => importLine generated.name).foldlM
      (run? defines (pythonFiles classes)) state).isSome = true ↔
      ∀ generated ∈ imported,
        generated.name ∉ reservedWords ∧ defines generated.code generated.name = true := by
  induction imported generalizing state with
  | nil => simp
  | cons next rest ih =>
    obtain ⟨member, others⟩ := List.cons_subset.mp inside
    rw [List.map_cons, List.foldlM_cons, run?_importLine distinct member (reads next member),
      List.forall_mem_cons]
    by_cases imports : next.name ∉ reservedWords ∧ defines next.code next.name = true
    · rw [if_pos imports, and_iff_right imports]
      exact ih others
    · rw [if_neg imports]
      exact iff_of_false Bool.false_ne_true fun both => imports both.1

end Loading

/-- Classes that are not refused for their modules live in modules of their own. -/
theorem nodup_of_accepted {classes : List GeneratedClass} {package root : String} {tree : FileTree}
    (accepted : ∀ first second module, ((writePython classes package root).run.run tree).1 ≠
      .error (.generation (.moduleClash first second module))) :
    (classes.map fun generated => moduleName generated.name).Nodup := by
  rcases clash : moduleClash? [] classes with _ | ⟨first, second, module⟩
  · exact (moduleClash?_none clash).1
  · refine absurd ?_ (accepted first second module)
    rw [writePython, clash]
    rfl

/-- Classes that are written are not refused for their modules. -/
theorem accepted_of_isOk {classes : List GeneratedClass} {package root : String} {tree : FileTree}
    (written : ((writePython classes package root).run.run tree).1.isOk = true)
    (first second module : String) :
    ((writePython classes package root).run.run tree).1 ≠
      .error (.generation (.moduleClash first second module)) := by
  intro refused
  rw [refused] at written
  cases written

/-- The module name of a class is the one of itself; so among classes that are written in modules of
their own, none is named like the module of another one, and once all imports have run the name of
each class is bound to that class. They run exactly if no class is named by a keyword and each text
binds its class. For the names of the language, and for names that an import reads otherwise than
they are written, this is left open. -/
theorem writePython_binds {classes : List GeneratedClass} {package root : String} {tree : FileTree}
    (accepted : ∀ first second module, ((writePython classes package root).run.run tree).1 ≠
      .error (.generation (.moduleClash first second module))) :
    (∀ className, moduleName (moduleName className) = moduleName className) ∧
      (∀ generated ∈ classes, ∀ other ∈ classes,
        generated.name = moduleName other.name → generated = other) ∧
      ((∀ generated ∈ classes, ReadsAsWritten generated.name) → ∀ defines,
        ((load? defines (pythonFiles classes)).isSome = true ↔
          ∀ generated ∈ classes,
            generated.name ∉ reservedWords ∧ defines generated.code generated.name = true) ∧
        ∀ bindings, load? defines (pythonFiles classes) = some bindings →
          ∀ generated ∈ classes,
            bindings.lookup generated.name = some (.member generated.code generated.name)) := by
  have distinct := nodup_of_accepted accepted
  refine ⟨Render.moduleName_moduleName, fun generated member other otherMember =>
    eq_of_name_eq_moduleName distinct member otherMember, fun reads defines => ?_⟩
  have runs : load? defines (pythonFiles classes) =
      ((classes.map fun generated => importLine generated.name).foldlM
        (Loading.run? defines (pythonFiles classes)) {}).map Loading.bindings := by
    rw [load?, lookup_exports, Option.bind_eq_bind, Option.bind_some, statements_exports reads,
      Option.map_eq_bind]
    rfl
  rw [runs]
  constructor
  · rw [Option.isSome_map]
    exact Loading.isSome_foldlM distinct reads (List.Subset.refl _)
  · intro bindings loaded
    obtain ⟨last, ran, rfl⟩ := Option.map_eq_some_iff.mp loaded
    exact (Loading.holds_of_foldlM distinct reads (List.Subset.refl _) ran).1

/-- A module may have the normal form of another name, in which an import binds that one. -/
example : moduleName "\u0130B" = normalized "I\u0307b" := by
  decide +kernel

def declares (text className : String) : Bool :=
  (partsAt '\n' text).contains ("class " ++ className ++ ":")

/-- Classes in several styles, one of which lives in a module with the name of a keyword. -/
def styledClasses : List GeneratedClass :=
  [⟨"Class", "class Class:\n"⟩, ⟨"a_b", "class a_b:\n"⟩, ⟨"Point", "class Point:\n"⟩]

theorem writePython_binds_styled :
    (∀ first second module, ((writePython styledClasses "p" "").run.run .empty).1 ≠
      .error (.generation (.moduleClash first second module))) ∧
      (∀ generated ∈ styledClasses, ReadsAsWritten generated.name) ∧
      ∃ bindings, load? declares (pythonFiles styledClasses) = some bindings ∧
        ∀ generated ∈ styledClasses,
          bindings.lookup generated.name = some (.member generated.code generated.name) := by
  have accepted : ∀ first second module, ((writePython styledClasses "p" "").run.run .empty).1 ≠
      .error (.generation (.moduleClash first second module)) :=
    accepted_of_isOk (by decide +kernel)
  have reads : ∀ generated ∈ styledClasses, ReadsAsWritten generated.name := by decide +kernel
  obtain ⟨runs, binds⟩ := (writePython_binds accepted).2.2 reads declares
  obtain ⟨bindings, loaded⟩ := Option.isSome_iff_exists.mp (runs.mpr (by decide +kernel))
  exact ⟨accepted, reads, bindings, loaded, binds bindings loaded⟩

/-- The exports are written over the class whose module is called like theirs, and its name is bound
to what they bind it to. -/
theorem not_writePython_binds :
    ¬ ∀ (classes : List GeneratedClass) (package root : String) (tree : FileTree),
      (∀ first second module, ((writePython classes package root).run.run tree).1 ≠
        .error (.generation (.moduleClash first second module))) →
      (classes.map GeneratedClass.name).Nodup →
      (∀ generated ∈ classes, isIdentifier generated.name = true) →
      ∀ defines bindings, load? defines (pythonFiles classes) = some bindings →
        ∀ generated ∈ classes,
          bindings.lookup generated.name = some (.member generated.code generated.name) := by
  intro binds
  have accepted : ∀ first second module,
      ((writePython [⟨"__init__", "x = 1\n"⟩] "p" "").run.run .empty).1 ≠
        .error (.generation (.moduleClash first second module)) :=
          accepted_of_isOk (by decide +kernel)
  have loaded : load? (fun _ _ => true) (pythonFiles [⟨"__init__", "x = 1\n"⟩]) =
      some [("__init__", .member (exports [⟨"__init__", "x = 1\n"⟩]) "__init__"),
        ("__init__", .module "__init__")] := by
    decide +kernel
  have bound := binds _ _ _ _ accepted (List.nodup_singleton _) (by decide +kernel) _ _ loaded _
    (List.mem_singleton_self ..)
  exact absurd bound (by decide +kernel)

end Package

end WireModel
