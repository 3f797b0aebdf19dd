import WireModel.Command.Run
import WireModel.Host.Notation
import WireModel.Json.Reader

/-!
The command line. A module `a.b` of a model is the file `a/b.json` with a list of declarations, in
the working directory or in one that `--path` names.
-/

namespace WireModel.Command

def moduleFile (directory module : String) : String :=
  directory ++ "/" ++ module.replace "." "/" ++ ".json"

def moduleOf (reference : String) : String :=
  String.ofList (reference.toList.takeWhile (· != ':'))

def readFirst : List String → IO (Option String)
  | [] => return none
  | file :: rest => do
    try
      return some (Text.ofCharacters (← IO.FS.readFile (Text.characters file)).toList)
    catch _ =>
      readFirst rest

/-- Adds a module of a file to a model; a module without a file adds nothing. -/
def readModule (paths : List String) (known : Except String (Model × Memory)) (module : String) :
    IO (Except String (Model × Memory)) := do
  match known, ← readFirst ((paths.reverse ++ ["."]).map fun path => moduleFile path module) with
  | .ok (model, memory), some text =>
    match Json.read text with
    | .ok (.array declarations) =>
      match (Notation.readModule module model declarations).run.run memory with
      | (.ok model, memory) => return .ok (model, memory)
      | (.error (.generation error), _) => return .error error.message
      | (.error (.fault fault), _) => return .error fault.text
    | _ => return .error ("broken model file of " ++ module)
  | known, _ => return known

/-- Writes the files of a tree, each with the directories above it. -/
def writeFiles (tree : FileTree) : IO Unit :=
  tree.files.forM fun (place, text) => do
    IO.FS.createDirAll (Text.characters place.path.parent.text)
    IO.FS.writeFile (Text.characters place.path.text) (Text.characters text)

/-- Runs the command on the file system. -/
def runOnFiles (arguments : Arguments) : IO UInt32 := do
  let modules := (arguments.types.map moduleOf).eraseDups
  match ← modules.foldlM (readModule arguments.paths) (.ok (.empty, .empty)) with
  | .error message =>
    IO.eprintln ("error: " ++ Text.characters message)
    return 1
  | .ok (model, memory) =>
    let (result, tree) := (run model memory arguments).run .empty
    writeFiles tree
    match result with
    | .error fault =>
      IO.eprintln ("error: " ++ Text.characters fault.text)
      return 1
    | .ok outcome =>
      outcome.stdout.forM fun line => IO.println (Text.characters line)
      outcome.stderr.forM fun line => IO.eprintln (Text.characters line)
      return outcome.exitCode.toUInt32

end WireModel.Command

/-- The entry of the program. -/
def main (arguments : List String) : IO UInt32 := do
  let kept := arguments.map fun argument => WireModel.Text.ofCharacters argument.toList
  match WireModel.Command.readArguments kept with
  | .help =>
    WireModel.Command.usage.forM IO.println
    return 0
  | .refused =>
    WireModel.Command.usage.forM IO.eprintln
    return 2
  | .arguments arguments => WireModel.Command.runOnFiles arguments
