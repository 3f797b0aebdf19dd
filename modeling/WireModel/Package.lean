import WireModel.FileTree
import WireModel.Render.Generated
import WireModel.Render.PythonName
import WireModel.Text.Surrogate

/-!
Writing generated classes as a package: one file for each class, and for Python a module that
exports them all. What is written before a refusal stays.
-/

namespace WireModel

open Text

/-- A step of writing, which keeps what was written when it fails. -/
abbrev Writing (α : Type) := ExceptT Failure (StateM FileTree) α

namespace Package

/-- The directory of a package: its name is a path with dots for slashes. -/
def directory (package directory : String) : FilePath :=
  (FilePath.ofText directory).append (.ofText ("/".intercalate (partsAt '.' package)))

/-- Refuses a path that has no bytes, or none that can end it. -/
def checkPath (path : FilePath) : Writing Unit := do
  if !isPathText path.text then throw (.fault (.unencodable path.text))
  if path.text.toList.contains '\x00' then throw (.fault .nullInPath)

/-- Changes the tree; a refusal names the directory of the package and the path in question. -/
def change (target : Target) (directory : FilePath)
    (update : FileTree → Except (FileError × FilePath) FileTree) : Writing Unit := do
  match update (← get) with
  | .ok tree => set tree
  | .error (error, path) =>
    throw (.generation (.unwritable target directory.text error path.text))

def makeDirectory (target : Target) (directory : FilePath) : Writing Unit := do
  checkPath directory
  change target directory (·.makeDirectory directory)

/-- Writes one file of the package. When its text is refused, the file is there and empty. -/
def writeFile (target : Target) (directory : FilePath) (name text : String) : Writing FilePath := do
  let path := directory.append (.ofText name)
  checkPath path
  let written := if hasSurrogate text then "" else text
  change target directory fun tree => (tree.write path written).mapError fun error => (error, path)
  if hasSurrogate text then throw (.fault (.unencodable text))
  return path

def writeJava (classes : List GeneratedClass) (package : String) (root : String) :
    Writing (List FilePath) := do
  let directory := directory package root
  makeDirectory .java directory
  classes.mapM fun generated =>
    writeFile .java directory (generated.name ++ ".java")
      ("package " ++ package ++ ";\n\n" ++ generated.code)

/-- The first two classes that live in one module, with that module. -/
def moduleClash? (known : List (String × String)) :
    List GeneratedClass → Option (String × String × String)
  | [] => none
  | generated :: rest =>
    let module := Render.moduleName generated.name
    match known.lookup module with
    | some first => some (first, generated.name, module)
    | none => moduleClash? ((module, generated.name) :: known) rest

def exports (classes : List GeneratedClass) : String :=
  "\n".intercalate ("# AUTO-GENERATED - DO NOT EDIT" :: classes.map fun generated =>
    "from ." ++ Render.moduleName generated.name ++ " import " ++ generated.name) ++ "\n"

/-- Writes Python modules, and last the one that exports all classes. -/
def writePython (classes : List GeneratedClass) (package : String) (root : String) :
    Writing (List FilePath) := do
  match moduleClash? [] classes with
  | some (first, second, module) => throw (.generation (.moduleClash first second module))
  | none =>
    let directory := directory package root
    makeDirectory .python directory
    let written ← classes.mapM fun generated =>
      writeFile .python directory (Render.moduleName generated.name ++ ".py") generated.code
    return written ++ [← writeFile .python directory "__init__.py" (exports classes)]

/-- Writes classes for a target, and gives the paths of the files. -/
def write (target : Target) (classes : List GeneratedClass) (package root : String) :
    Writing (List FilePath) :=
  match target with
  | .java => writeJava classes package root
  | .python => writePython classes package root

end Package

end WireModel
