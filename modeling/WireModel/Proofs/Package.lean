import WireModel.Package
import WireModel.Proofs.FileTree
import WireModel.Proofs.Naming
import WireModel.Proofs.Search

/-!
Writing a package. Each file of it is one entry of its directory and holds what was written last
under its name, and no other file changes.
-/

namespace WireModel

namespace Text

theorem partsFrom_flat {mark : Char} {begun text : List Char} (flat : mark ∉ text) :
    partsFrom mark begun text = [String.ofList (begun.reverse ++ text)] := by
  induction text generalizing begun with
  | nil => rw [partsFrom, List.append_nil]
  | cons c rest ih =>
    rw [List.mem_cons, not_or] at flat
    rw [partsFrom, if_neg (Ne.symm flat.1), ih flat.2, List.reverse_cons, List.append_assoc]
    rfl

theorem partsAt_flat {mark : Char} {text : String} (flat : mark ∉ text.toList) :
    partsAt mark text = [text] := by
  rw [partsAt, partsFrom_flat flat, List.reverse_nil, List.nil_append, String.ofList_toList]

end Text

/-- The name of an entry of a directory: no way through others, and none that is left out or leads
up. -/
@[mk_iff]
structure IsFileName (name : String) : Prop where
  flat : '/' ∉ name.toList
  named : name ≠ ""
  here : name ≠ "."
  down : name ≠ ".."

instance : DecidablePred IsFileName :=
  fun name => decidable_of_iff' _ (isFileName_iff name)

namespace FilePath

def inside (directory : FilePath) (name : String) : FilePath :=
  { directory with parts := directory.parts ++ [name] }

theorem inside_injective (directory : FilePath) : Function.Injective directory.inside := by
  intro name other same
  have parts := congrArg FilePath.parts same
  simpa [inside] using parts

theorem append_ofText (directory : FilePath) {name : String} (isName : IsFileName name) :
    directory.append (.ofText name) = directory.inside name := by
  have slashes : (ofText name).slashes = 0 := by
    have none : name.toList.takeWhile (· == '/') = [] := by
      cases spelled : name.toList with
      | nil => rfl
      | cons c rest =>
        have flat := isName.flat
        rw [spelled, List.mem_cons, not_or] at flat
        rw [List.takeWhile_cons, beq_false_of_ne (Ne.symm flat.1), if_neg Bool.false_ne_true]
    rw [ofText, none]
    rfl
  have parts : (ofText name).parts = [name] := by
    rw [ofText, Text.partsAt_flat isName.flat]
    simp [isName.named, isName.here]
  rw [append, if_pos slashes, parts]
  rfl

private theorem exists_intercalate_append (parts : List String) :
    ∃ front, ∀ name, "/".intercalate (parts ++ [name]) = front ++ name := by
  induction parts with
  | nil => exact ⟨"", fun name => by simp⟩
  | cons part rest ih =>
    cases rest with
    | nil =>
      refine ⟨part ++ "/", fun name => ?_⟩
      rw [List.cons_append, List.nil_append, String.intercalate_cons_cons,
        String.intercalate_singleton]
    | cons next others =>
      obtain ⟨front, same⟩ := ih
      refine ⟨part ++ "/" ++ front, fun name => ?_⟩
      rw [List.cons_append, List.cons_append, String.intercalate_cons_cons,
        ← List.cons_append, same]
      simp only [String.append_assoc]

/-- The paths of different names in one directory are written differently. -/
theorem text_inside_injective (directory : FilePath) :
    Function.Injective fun name => (directory.inside name).text := by
  obtain ⟨front, ends⟩ := exists_intercalate_append directory.parts
  have written (name : String) : (directory.inside name).text =
      String.ofList (List.replicate directory.slashes '/') ++ front ++ name := by
    rw [text, if_neg (by simp [inside]), inside, ends, String.append_assoc]
  intro name other same
  have texts := congrArg String.toList same
  simp only [written, String.toList_append] at texts
  exact String.toList_inj.mp (List.append_cancel_left texts)

end FilePath

/-- A name with an ending is that of a file if it is no path by itself. -/
theorem IsFileName.ofEnding {name ending : String} (flat : '/' ∉ name.toList)
    (flatEnding : '/' ∉ ending.toList) (long : 2 < ending.toList.length) :
    IsFileName (name ++ ending) := by
  have size : (name ++ ending).toList.length = name.toList.length + ending.toList.length := by
    rw [String.toList_append, List.length_append]
  have differ {short : String} (few : short.toList.length ≤ 2) : name ++ ending ≠ short := by
    intro same
    rw [same] at size
    omega
  refine ⟨?_, differ (by decide), differ (by decide), differ (by decide)⟩
  rw [String.toList_append, List.mem_append, not_or]
  exact ⟨flat, flatEnding⟩

namespace Package

open Render (moduleName)

variable {target : Target} {directory path : FilePath} {tree between after : FileTree}
    {text : String}

theorem checkPath_ok {value : Unit} (run : (checkPath path).run.run tree = (.ok value, after)) :
    after = tree := by
  rw [checkPath] at run
  by_cases unencodable : (!Text.isPathText path.text) = true
  · rw [if_pos unencodable] at run
    cases run
  rw [if_neg unencodable] at run
  by_cases ends : path.text.toList.contains '\x00' = true
  · rw [if_pos ends] at run
    cases run
  · rw [if_neg ends] at run
    cases run
    rfl

theorem change_ok {update : FileTree → Except (FileError × FilePath) FileTree} {value : Unit} :
    (change target directory update).run.run tree = (.ok value, after) ↔
      update tree = .ok after := by
  have reads : (get : Writing FileTree).run.run tree = (.ok tree, tree) := rfl
  rw [change, Outcome.run_bind_of_ok reads]
  rcases update tree with ⟨error, path⟩ | changed
  · constructor <;> intro found <;> cases found
  · constructor
    · intro found
      cases found
      rfl
    · intro found
      cases found
      rfl

/-- Making the directory of a package adds directories and nothing else. -/
theorem makeDirectory_ok {value : Unit}
    (run : (makeDirectory target directory).run.run tree = (.ok value, after)) :
    tree.AddsDirectories after := by
  obtain ⟨⟨⟩, between, checked, changed⟩ := Outcome.run_bind_ok.mp run
  obtain rfl := checkPath_ok checked
  exact FileTree.addsDirectories_makeDirectory (change_ok.mp changed)

theorem writeFile_ok {name : String} (isName : IsFileName name)
    (run : (writeFile target directory name text).run.run tree = (.ok path, after)) :
    path = directory.inside name ∧ tree.write (directory.inside name) text = .ok after := by
  rw [writeFile, directory.append_ofText isName] at run
  obtain ⟨⟨⟩, between, checked, rest⟩ := Outcome.run_bind_ok.mp run
  obtain rfl := checkPath_ok checked
  obtain ⟨⟨⟩, written, changed, returned⟩ := Outcome.run_bind_ok.mp rest
  rw [change_ok] at changed
  by_cases unencodable : Text.hasSurrogate text = true
  · rw [if_pos unencodable] at returned
    cases returned
  rw [if_neg unencodable] at returned changed
  cases returned
  refine ⟨rfl, ?_⟩
  rcases found : FileTree.write between (directory.inside name) text with error | result
  · rw [found] at changed
    cases changed
  · rw [found] at changed
    cases changed
    rfl

/-- Some files were written into a directory, one after the other: its entries hold what was written
last under their names, and nothing else changed. -/
structure Written (directory : FilePath) (tree : FileTree) (files : List (String × String))
    (after : FileTree) : Prop where
  names : ∀ file ∈ files, IsFileName file.1
  directories : tree.SameDirectories after
  frame : ∀ place, (∀ file ∈ files, after.locate (directory.inside file.1) ≠ .ok place) →
    after.get? place = tree.get? place
  holds : ∀ name text, files.reverse.lookup name = some text →
    after.Holds (directory.inside name) text

theorem Written.nil : Written directory tree [] tree where
  names := by simp
  directories _ := Iff.rfl
  frame _ _ := rfl
  holds := by simp

theorem Written.single {name : String} (isName : IsFileName name)
    (written : tree.write (directory.inside name) text = .ok after) :
    Written directory tree [(name, text)] after := by
  obtain ⟨place, located, free, rfl⟩ := FileTree.write_ok.mp written
  have named := FileTree.named_of_get? free
  have directories : tree.SameDirectories (tree.put place (.file text)) :=
    FileTree.sameDirectories_put free
  refine ⟨by simpa using isName, directories, ?_, ?_⟩
  · intro other elsewhere
    have reached := elsewhere (name, text) (List.mem_singleton_self ..)
    rw [FileTree.get?_put named, if_neg]
    rintro rfl
    exact reached (directories.locate.mp located)
  · intro another held found
    rw [List.reverse_singleton, Search.lookup_entry] at found
    split at found
    · rename_i same
      subst same
      cases found
      refine ⟨place, directories.locate.mp located, ?_⟩
      rw [FileTree.get?_put named, if_pos rfl]
    · cases found

theorem Written.append {files others : List (String × String)}
    (first : Written directory tree files between)
    (second : Written directory between others after) :
    Written directory tree (files ++ others) after where
  names := List.forall_mem_append.mpr ⟨first.names, second.names⟩
  directories := first.directories.trans second.directories
  frame := by
    intro place elsewhere
    obtain ⟨before, later⟩ := List.forall_mem_append.mp elsewhere
    rw [second.frame place later]
    refine first.frame place fun file member located => before file member ?_
    exact second.directories.locate.mp located
  holds := by
    intro name text found
    rw [List.reverse_append, List.lookup_append] at found
    cases later : others.reverse.lookup name with
    | some last =>
      rw [later, Option.some_or] at found
      cases found
      exact second.holds name _ later
    | none =>
      rw [later, Option.none_or] at found
      obtain ⟨place, located, held⟩ := first.holds name text found
      have down : name ≠ ".." := by
        have member := List.mem_reverse.mp (Search.mem_of_lookup found)
        exact (first.names _ member).down
      refine ⟨place, second.directories.locate.mp located, ?_⟩
      rw [second.frame place, held]
      -- A file that was written later has another name, and so another place.
      intro file member reached
      have same := FileTree.eq_of_locate (second.names file member).down down reached
        (second.directories.locate.mp located)
      have absent := List.lookup_eq_none_iff.mp later file (List.mem_reverse.mpr member)
      simp [same] at absent

/-- Writing one file for each of some items writes them in order. -/
theorem writeFiles_ok {α : Type} {items : List α} {name content : α → String}
    (names : ∀ item ∈ items, IsFileName (name item)) {paths : List FilePath}
    (run : (items.mapM fun item =>
      writeFile target directory (name item) (content item)).run.run tree =
      (.ok paths, after)) :
    paths = items.map (fun item => directory.inside (name item)) ∧
      Written directory tree (items.map fun item => (name item, content item)) after := by
  induction items generalizing tree paths with
  | nil =>
    rw [List.mapM_nil] at run
    cases run
    exact ⟨rfl, .nil⟩
  | cons item rest ih =>
    obtain ⟨isName, others⟩ := List.forall_mem_cons.mp names
    rw [List.mapM_cons] at run
    obtain ⟨path, between, written, run⟩ := Outcome.run_bind_ok.mp run
    obtain ⟨behind, last, writtenBehind, run⟩ := Outcome.run_bind_ok.mp run
    cases run
    obtain ⟨rfl, put⟩ := writeFile_ok isName written
    obtain ⟨rfl, files⟩ := ih others writtenBehind
    exact ⟨rfl, (Written.single isName put).append files⟩

/-- A package was written into a directory: what was returned are the paths of its files, each of
them holds what was written last under its name, and elsewhere nothing changed but that directories
were made. -/
structure Packed (directory : FilePath) (tree : FileTree) (files : List (String × String))
    (paths : List FilePath) (after : FileTree) : Prop where
  returned : paths = files.map fun file => directory.inside file.1
  holds : ∀ name text, files.reverse.lookup name = some text →
    after.Holds (directory.inside name) text
  frame : ∀ place, (∀ path ∈ paths, after.locate path ≠ .ok place) →
    after.get? place = tree.get? place ∨ tree.get? place = none ∧ after.get? place = some .directory

theorem Written.packed {files : List (String × String)} (made : tree.AddsDirectories between)
    (written : Written directory between files after) :
    Packed directory tree files (files.map fun file => directory.inside file.1) after where
  returned := rfl
  holds := written.holds
  frame := by
    intro place elsewhere
    rw [written.frame place fun file member => elsewhere _ (List.mem_map_of_mem member)]
    exact made place

theorem Packed.holds_of_mem {files : List (String × String)} {paths : List FilePath}
    (packed : Packed directory tree files paths after) (distinct : (files.map Prod.fst).Nodup)
    {file : String × String} (member : file ∈ files) :
    after.Holds (directory.inside file.1) file.2 :=
  packed.holds _ _ (Search.lookup_reverse_of_mem distinct member)

theorem ending_injective (ending : String) :
    Function.Injective fun name : String => name ++ ending := by
  intro name other same
  have texts := congrArg String.toList same
  rw [String.toList_append, String.toList_append] at texts
  exact String.toList_inj.mp (List.append_cancel_right texts)

/-- The files of a Java package: their names and texts. -/
def javaFiles (classes : List GeneratedClass) (package : String) : List (String × String) :=
  classes.map fun generated =>
    (generated.name ++ ".java", "package " ++ package ++ ";\n\n" ++ generated.code)

theorem writeJava_ok {classes : List GeneratedClass} {package root : String} {paths : List FilePath}
    (flat : ∀ generated ∈ classes, '/' ∉ generated.name.toList)
    (run : (writeJava classes package root).run.run tree = (.ok paths, after)) :
    Packed (Package.directory package root) tree (javaFiles classes package) paths after := by
  obtain ⟨⟨⟩, made, makes, writes⟩ := Outcome.run_bind_ok.mp run
  have names : ∀ generated ∈ classes, IsFileName (generated.name ++ ".java") :=
    fun generated member => .ofEnding (flat generated member) (by decide) (by decide)
  obtain ⟨rfl, written⟩ := writeFiles_ok names writes
  have packed := written.packed (makeDirectory_ok makes)
  rwa [List.map_map] at packed

theorem not_slash_mem_identifier {name : String} (identifier : Text.isIdentifier name = true) :
    '/' ∉ name.toList :=
  Text.not_mem_identifier (by decide +kernel) (by decide +kernel) identifier

theorem not_slash_mem_moduleName {name : String} (flat : '/' ∉ name.toList) :
    '/' ∉ (moduleName name).toList := by
  have flatSnake : '/' ∉ (Name.ofPascal name).snake.toList := by
    rw [Name.ofPascal, Name.ofCamel, String.toList_ofList]
    exact Name.not_mem_snakeOfCamel (by decide) (by decide) flat
  rw [moduleName, Render.pythonIdentifier]
  split
  · simpa using flatSnake
  · exact flatSnake

/-- Classes clash when two of them live in one module: the first one that does is named, and the one
before it. -/
theorem moduleClash?_some {known : List (String × String)} {classes : List GeneratedClass}
    {first second module : String} (lived : ∀ entry ∈ known, moduleName entry.2 = entry.1)
    (clash : moduleClash? known classes = some (first, second, module)) :
    moduleName first = module ∧ moduleName second = module ∧
      [first, second].Sublist (known.reverse.map Prod.snd ++ classes.map GeneratedClass.name) := by
  induction classes generalizing known with
  | nil => cases clash
  | cons generated rest ih =>
    rw [moduleClash?] at clash
    cases found : known.lookup (moduleName generated.name) with
    | some earlier =>
      simp only [found, Option.some.injEq, Prod.mk.injEq] at clash
      obtain ⟨rfl, rfl, rfl⟩ := clash
      have member := Search.mem_of_lookup found
      have before : [earlier].Sublist (known.reverse.map Prod.snd) :=
        List.singleton_sublist.mpr (List.mem_map.mpr ⟨_, List.mem_reverse.mpr member, rfl⟩)
      have behind : [generated.name].Sublist ((generated :: rest).map GeneratedClass.name) :=
        List.singleton_sublist.mpr (List.mem_cons_self ..)
      have lives := lived (moduleName generated.name, earlier) member
      exact ⟨lives, rfl, before.append behind⟩
    | none =>
      simp only [found] at clash
      have later := ih (List.forall_mem_cons.mpr ⟨rfl, lived⟩) clash
      rwa [List.reverse_cons, List.map_append, List.append_assoc] at later

/-- Classes that do not clash live in modules of their own. -/
theorem moduleClash?_none {known : List (String × String)} {classes : List GeneratedClass}
    (apart : moduleClash? known classes = none) :
    (classes.map fun generated => moduleName generated.name).Nodup ∧
      ∀ generated ∈ classes, known.lookup (moduleName generated.name) = none := by
  induction classes generalizing known with
  | nil => simp
  | cons generated rest ih =>
    rw [moduleClash?] at apart
    cases found : known.lookup (moduleName generated.name) with
    | some earlier =>
      simp only [found] at apart
      cases apart
    | none =>
      simp only [found] at apart
      obtain ⟨distinct, fresh⟩ := ih apart
      have differ : ∀ other ∈ rest, moduleName other.name ≠ moduleName generated.name := by
        intro other member same
        have absent := fresh other member
        rw [Search.lookup_entry, if_pos same] at absent
        cases absent
      rw [List.map_cons, List.nodup_cons, List.forall_mem_cons]
      refine ⟨⟨by simpa using differ, distinct⟩, found, fun other member => ?_⟩
      have absent := fresh other member
      rwa [Search.lookup_entry, if_neg (differ other member)] at absent

/-- The files of a Python package: their names and texts. -/
def pythonFiles (classes : List GeneratedClass) : List (String × String) :=
  (classes.map fun generated => (moduleName generated.name ++ ".py", generated.code)) ++
    [("__init__.py", exports classes)]

theorem writePython_ok {classes : List GeneratedClass} {package root : String}
    {paths : List FilePath} (flat : ∀ generated ∈ classes, '/' ∉ generated.name.toList)
    (run : (writePython classes package root).run.run tree = (.ok paths, after)) :
    (classes.map fun generated => moduleName generated.name).Nodup ∧
      Packed (Package.directory package root) tree (pythonFiles classes) paths after := by
  rw [writePython] at run
  cases clash : moduleClash? [] classes with
  | some found =>
    rw [clash] at run
    cases run
  | none =>
    simp only [clash] at run
    obtain ⟨⟨⟩, made, makes, writes⟩ := Outcome.run_bind_ok.mp run
    obtain ⟨written, between, writesModules, rest⟩ := Outcome.run_bind_ok.mp writes
    obtain ⟨last, final, writesExports, returned⟩ := Outcome.run_bind_ok.mp rest
    cases returned
    have names : ∀ generated ∈ classes, IsFileName (moduleName generated.name ++ ".py") :=
      fun generated member =>
        .ofEnding (not_slash_mem_moduleName (flat generated member)) (by decide)
        (by decide)
    obtain ⟨rfl, modules⟩ := writeFiles_ok names writesModules
    obtain ⟨rfl, put⟩ := writeFile_ok (by decide) writesExports
    have files := modules.append (.single (by decide) put)
    have packed := files.packed (makeDirectory_ok makes)
    rw [List.map_append, List.map_map] at packed
    exact ⟨(moduleClash?_none clash).1, packed⟩

theorem moduleFile_eq_exports {module : String} : module ++ ".py" = "__init__.py" ↔
    module = "__init__" :=
  (ending_injective ".py").eq_iff (b := "__init__")

theorem moduleFiles_nodup {classes : List GeneratedClass}
    (distinct : (classes.map fun generated => moduleName generated.name).Nodup) :
    (classes.map fun generated => moduleName generated.name ++ ".py").Nodup := by
  have mapped := distinct.map (ending_injective ".py")
  rwa [List.map_map] at mapped

/-- Modules apart are files apart, and the exports are apart from them unless a module is their
own. -/
theorem pythonFiles_nodup {classes : List GeneratedClass}
    (distinct : (classes.map fun generated => moduleName generated.name).Nodup) :
    ((pythonFiles classes).map Prod.fst).Nodup ↔
      ∀ generated ∈ classes, moduleName generated.name ≠ "__init__" := by
  have names : (pythonFiles classes).map Prod.fst =
      (classes.map fun generated => moduleName generated.name ++ ".py") ++ ["__init__.py"] := by
    rw [pythonFiles, List.map_append, List.map_map]
    rfl
  rw [names, List.nodup_append_comm, List.singleton_append, List.nodup_cons,
    and_iff_left (moduleFiles_nodup distinct), List.mem_map]
  simp only [moduleFile_eq_exports, not_exists, not_and, ne_eq]

/-- The exports are written last. -/
theorem lookup_exports (classes : List GeneratedClass) :
    (pythonFiles classes).reverse.lookup "__init__.py" = some (exports classes) := by
  rw [pythonFiles, List.reverse_append, List.reverse_singleton, List.singleton_append,
    Search.lookup_entry, if_pos rfl]

theorem lookup_module {classes : List GeneratedClass} {generated : GeneratedClass}
    (distinct : (classes.map fun generated => moduleName generated.name).Nodup)
    (member : generated ∈ classes)
    (other : moduleName generated.name ≠ "__init__") :
    (pythonFiles classes).reverse.lookup (moduleName generated.name ++ ".py") =
      some generated.code := by
  rw [pythonFiles, List.reverse_append, List.reverse_singleton, List.singleton_append,
    Search.lookup_entry, if_neg (mt moduleFile_eq_exports.mp other)]
  apply Search.lookup_reverse_of_mem
  · rw [List.map_map]
    exact moduleFiles_nodup distinct
  · exact List.mem_map_of_mem member

/-- What writing a Python package leaves and returns when nothing is refused: one module for each
class, and one that exports them all. A class of a module `__init__` is written where the exports
are written after it. -/
structure Exported (classes : List GeneratedClass) (directory : FilePath) (tree : FileTree)
    (paths : List FilePath) (after : FileTree) : Prop where
  returned :
    paths = (classes.map fun generated => directory.inside (moduleName generated.name ++ ".py")) ++
    [directory.inside "__init__.py"]
  distinct : paths.Nodup ↔ ∀ generated ∈ classes, moduleName generated.name ≠ "__init__"
  modules : ∀ generated ∈ classes, moduleName generated.name ≠ "__init__" →
    after.Holds (directory.inside (moduleName generated.name ++ ".py")) generated.code
  exports : after.Holds (directory.inside "__init__.py") (Package.exports classes)
  /-- Elsewhere nothing changed, but that directories were made. -/
  frame : ∀ place, (∀ path ∈ paths, after.locate path ≠ .ok place) →
    after.get? place = tree.get? place ∨ tree.get? place = none ∧ after.get? place = some .directory

theorem Packed.exported {classes : List GeneratedClass} {paths : List FilePath}
    (distinct : (classes.map fun generated => moduleName generated.name).Nodup)
    (packed : Packed directory tree (pythonFiles classes) paths after) :
    Exported classes directory tree paths after where
  returned := by
    rw [packed.returned, pythonFiles, List.map_append, List.map_map]
    rfl
  distinct := by
    have files : paths = ((pythonFiles classes).map Prod.fst).map directory.inside := by
      rw [packed.returned, List.map_map]
      rfl
    rw [files, List.nodup_map_iff directory.inside_injective, pythonFiles_nodup distinct]
  modules _ member other := packed.holds _ _ (lookup_module distinct member other)
  exports := packed.holds _ _ (lookup_exports classes)
  frame := packed.frame

/-- Writing a Python package refuses classes of one module and then leaves all files; and what it
returns are the paths at which the classes and their exports are, unless a class lives in the module
of the exports. -/
theorem writePython_exact {classes : List GeneratedClass}
    (named : ∀ generated ∈ classes, Text.isIdentifier generated.name = true) (package root : String)
    (tree : FileTree) :
    (¬ (classes.map fun generated => moduleName generated.name).Nodup →
      ∃ first second, [first, second].Sublist (classes.map GeneratedClass.name) ∧
        moduleName first = moduleName second ∧
        (writePython classes package root).run.run tree =
          (.error (.generation (.moduleClash first second (moduleName second))), tree)) ∧
      ∀ paths after, (writePython classes package root).run.run tree = (.ok paths, after) →
        Exported classes (Package.directory package root) tree paths after := by
  constructor
  · intro repeated
    rcases clash : moduleClash? [] classes with _ | ⟨first, second, module⟩
    · exact absurd (moduleClash?_none clash).1 repeated
    · obtain ⟨lives, rfl, both⟩ := moduleClash?_some (by simp) clash
      refine ⟨first, second, both, lives, ?_⟩
      rw [writePython, clash]
      rfl
  · intro paths after run
    have flat : ∀ generated ∈ classes, '/' ∉ generated.name.toList :=
      fun generated member => not_slash_mem_identifier (named generated member)
    obtain ⟨distinct, packed⟩ := writePython_ok flat run
    exact packed.exported distinct

def shapeClasses : List GeneratedClass := [⟨"Point", "x = 1\n"⟩, ⟨"DottedLine", "y = 2\n"⟩]

theorem writePython_exact_shapes :
    (∀ generated ∈ shapeClasses, Text.isIdentifier generated.name = true) ∧
      ∃ paths after, (writePython shapeClasses "plane.shapes" "out").run.run .empty =
        (.ok paths, after) ∧
        Exported shapeClasses (Package.directory "plane.shapes" "out") .empty paths after := by
  have named : ∀ generated ∈ shapeClasses, Text.isIdentifier generated.name = true := by
    decide +kernel
  have written :
      ((writePython shapeClasses "plane.shapes" "out").run.run .empty).1.isOk = true := by
    decide +kernel
  rcases run : (writePython shapeClasses "plane.shapes" "out").run.run .empty with
    ⟨error | paths, after⟩
  · rw [run] at written
    cases written
  · exact ⟨named, paths, after, rfl, (writePython_exact named "plane.shapes" "out" .empty).2
      paths after run⟩

/-- The exports may be written over a class: its module is called like theirs. -/
theorem not_writePython_apart :
    ¬ ∀ (classes : List GeneratedClass) (package root : String) (tree after : FileTree)
      (paths : List FilePath), (∀ generated ∈ classes, Text.isIdentifier generated.name = true) →
      (classes.map GeneratedClass.name).Nodup →
      (writePython classes package root).run.run tree = (.ok paths, after) →
      paths.Nodup ∧ List.Forall₂ (fun generated path => after.Holds path generated.code) classes
        paths.dropLast := by
  intro apart
  have named : ∀ generated ∈ [(⟨"__init__", "x = 1\n"⟩ : GeneratedClass)],
      Text.isIdentifier generated.name = true := by decide +kernel
  have written :
      ((writePython [⟨"__init__", "x = 1\n"⟩] "plane" "out").run.run .empty).1.isOk = true := by
    decide +kernel
  rcases run : (writePython [⟨"__init__", "x = 1\n"⟩] "plane" "out").run.run .empty with
    ⟨error | paths, after⟩
  · rw [run] at written
    cases written
  · obtain ⟨distinct, packed⟩ := writePython_ok (by decide) run
    have differ := (packed.exported distinct).distinct.mp
      (apart _ _ _ _ _ _ named (List.nodup_singleton _) run).1
    exact differ _ (List.mem_singleton_self ..) (by decide +kernel)

/-- The files of a package: their names and texts. -/
def files (target : Target) (classes : List GeneratedClass) (package : String) :
    List (String × String) :=
  match target with
  | .java => javaFiles classes package
  | .python => pythonFiles classes

/-- Classes of different names are written to different files, unless one lives in the module of the
exports. -/
theorem write_ok {classes : List GeneratedClass} {package root : String} {paths : List FilePath}
    (flat : ∀ generated ∈ classes, '/' ∉ generated.name.toList)
    (distinct : (classes.map GeneratedClass.name).Nodup)
    (apart : target = .python → ∀ generated ∈ classes, moduleName generated.name ≠ "__init__")
    (run : (write target classes package root).run.run tree = (.ok paths, after)) :
    ((files target classes package).map Prod.fst).Nodup ∧
      Packed (Package.directory package root) tree (files target classes package) paths after := by
  cases target with
  | java =>
    refine ⟨?_, writeJava_ok flat run⟩
    have mapped := distinct.map (ending_injective ".java")
    rw [List.map_map] at mapped
    rw [files, javaFiles, List.map_map]
    exact mapped
  | python =>
    obtain ⟨modules, packed⟩ := writePython_ok flat run
    exact ⟨(pythonFiles_nodup modules).mpr (apart rfl), packed⟩

end Package

end WireModel
