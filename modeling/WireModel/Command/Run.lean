import WireModel.Command.Arguments
import WireModel.Command.Load
import WireModel.Package
import WireModel.Render.Generation

/-!
The command as a function: from a model, arguments and a tree of files to what is printed, the exit
code and the new tree.
-/

namespace WireModel.Command

/-- What the command answers. -/
structure Outcome where
  exitCode : Nat
  stdout : List String
  stderr : List String

/-- The package that is written when none is given. -/
def packageOf (arguments : Arguments) : String :=
  if arguments.package.isEmpty then "dtos" else arguments.package

def classes (model : Model) (arguments : Arguments) : Resolving (List GeneratedClass) := do
  let types ← (arguments.types.mapM (load model) : Except Failure (List HostType))
  generate arguments.target model types

/-- Refuses a directory whose path cannot be walked: the first of its parts that has no bytes, or
that none can end, is complained about. -/
def checkDirectory (text : String) : Except Fault Unit :=
  (FilePath.ofText text).parts.forM fun part => do
    if !Text.isPathText part then throw (.unencodable part)
    if part.toList.contains '\x00' then throw .nullInPath

/-- Writes the classes that the command is asked for, once the directories in which modules are
looked for can be walked. -/
def writeClasses (model : Model) (memory : Memory) (arguments : Arguments) :
    Writing (List FilePath) := do
  (arguments.paths.forM checkDirectory).mapError Failure.fault
  let classes ← ((classes model arguments).run.run memory).1
  Package.write arguments.target classes (packageOf arguments) arguments.outputDir

/-- Runs the command. An error of generation is printed and leaves the tree as far as it was
written; a fault of the model is handed on. -/
def run (model : Model) (memory : Memory) (arguments : Arguments) :
    StateM FileTree (Except Fault Outcome) := do
  match ← (writeClasses model memory arguments).run with
  | .ok paths => return .ok ⟨0, paths.map fun path => "Generated: " ++ path.text, []⟩
  | .error (.generation error) => return .ok ⟨1, [], ["error: " ++ error.message]⟩
  | .error (.fault fault) => return .error fault

end WireModel.Command
