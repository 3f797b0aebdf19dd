import WireModel.Error
import WireModel.Text.LineEnd
import WireModel.Text.Part
import WireModel.Text.Split

/-!
A tree of files as a value: which places are files with what text, and which are directories. Paths
are walked part by part, so that a step back leads out of the directory that was entered.
-/

namespace WireModel

/-- A path as it is written: the slashes in front of it, and its parts. -/
structure FilePath where
  /-- No slash for a path below the working directory, and one for a path from the root; exactly two
  slashes are kept. -/
  slashes : Nat
  parts : List String
  deriving DecidableEq, Repr

namespace FilePath

/-- The number of slashes that stay of those in front of a path. -/
def keptSlashes (count : Nat) : Nat :=
  if count > 2 then 1 else count

/-- The path that a text stands for; empty parts and single dots do not count. -/
def ofText (text : String) : FilePath where
  slashes := keptSlashes (text.toList.takeWhile (· == '/')).length
  parts := (Text.partsAt '/' text).filter fun part => part != "" && part != "."

def text (path : FilePath) : String :=
  if path.slashes = 0 ∧ path.parts.isEmpty then "."
  else String.ofList (List.replicate path.slashes '/') ++ "/".intercalate path.parts

/-- A path below another; one from the root stands for itself. -/
def append (path : FilePath) (below : FilePath) : FilePath :=
  if below.slashes = 0 then { path with parts := path.parts ++ below.parts } else below

/-- The path without its last part. -/
def parent (path : FilePath) : FilePath :=
  { path with parts := path.parts.dropLast }

/-- A path with this many bytes is too long. -/
def maxSize : Nat := 4096

/-- A part of a path may have this many bytes. -/
def maxPartSize : Nat := 255

end FilePath

/-- Where paths begin. -/
inductive Origin where
  /-- The directory this many levels above the working directory. -/
  | working (levels : Nat)
  | root
  deriving DecidableEq, Repr

/-- A place in the file system. -/
structure FilePlace where
  origin : Origin
  parts : List String
  deriving DecidableEq, Repr

namespace FilePlace

/-- The directory around a place; the root has none but itself. -/
def above (place : FilePlace) : FilePlace :=
  match place.parts, place.origin with
  | [], .working levels => ⟨.working (levels + 1), []⟩
  | [], .root => place
  | parts, origin => ⟨origin, parts.dropLast⟩

def inside (place : FilePlace) (part : String) : FilePlace :=
  { place with parts := place.parts ++ [part] }

/-- The place lies in the working directory. -/
def isOwn (place : FilePlace) : Bool :=
  place.origin == .working 0

def path (place : FilePlace) : FilePath :=
  match place.origin with
  | .working levels => ⟨0, List.replicate levels ".." ++ place.parts⟩
  | .root => ⟨1, place.parts⟩

def start (path : FilePath) : FilePlace :=
  ⟨if path.slashes = 0 then .working 0 else .root, []⟩

end FilePlace

/-- What is found at a place. -/
inductive FileEntry where
  | file (text : String)
  | directory
  deriving DecidableEq, Repr

/-- A tree of files; where paths begin is always a directory. -/
structure FileTree where
  entries : List (FilePlace × FileEntry)

namespace FileTree

/-- Nothing but the directories where paths begin. -/
def empty : FileTree :=
  ⟨[]⟩

def get? (tree : FileTree) (place : FilePlace) : Option FileEntry :=
  if place.parts.isEmpty then some .directory else tree.entries.lookup place

def put (tree : FileTree) (place : FilePlace) (entry : FileEntry) : FileTree :=
  if tree.entries.any (·.1 == place) then
    ⟨tree.entries.map fun old => if old.1 == place then (place, entry) else old⟩
  else
    ⟨tree.entries ++ [(place, entry)]⟩

/-- Walks some parts from a place: whatever is stepped out of must be a directory. -/
def walk (tree : FileTree) (place : FilePlace) : List String → Except FileError FilePlace
  | [] => .ok place
  | part :: rest =>
    match tree.get? place with
    | none => .error .notFound
    | some (.file _) => .error .notADirectory
    | some .directory =>
      if part = ".." then tree.walk place.above rest
      else if Text.pathSize part > FilePath.maxPartSize then .error .nameTooLong
      else tree.walk (place.inside part) rest

/-- The place that a path leads to, whether something is there or not. -/
def locate (tree : FileTree) (path : FilePath) : Except FileError FilePlace :=
  if Text.pathSize path.text ≥ FilePath.maxSize then .error .nameTooLong
  else tree.walk (.start path) path.parts

def isDirectory (tree : FileTree) (path : FilePath) : Bool :=
  match tree.locate path with
  | .ok place => tree.get? place == some .directory
  | .error _ => false

def addDirectory (tree : FileTree) (path : FilePath) : Except FileError FileTree := do
  let place ← tree.locate path
  match tree.get? place with
  | some _ => throw .exists
  | none => return tree.put place .directory

/-- Makes a directory unless it is there; a refusal names the path. -/
def ensureDirectory (tree : FileTree) (path : FilePath) : Except (FileError × FilePath) FileTree :=
  match tree.addDirectory path with
  | .ok tree => .ok tree
  | .error error =>
    if error ≠ .notFound ∧ tree.isDirectory path then .ok tree else .error (error, path)

/-- Makes the directory of some parts in reverse, after those above it if one is missing. -/
def makeReversed (slashes : Nat) : List String → FileTree → Except (FileError × FilePath) FileTree
  | [], tree => tree.ensureDirectory ⟨slashes, []⟩
  | part :: above, tree =>
    let path : FilePath := ⟨slashes, (part :: above).reverse⟩
    match tree.ensureDirectory path with
    | .error (.notFound, _) => do
      let tree ← makeReversed slashes above tree
      tree.ensureDirectory path
    | result => result

/-- Makes a directory and those above it; a refusal names the one in question. -/
def makeDirectory (tree : FileTree) (path : FilePath) : Except (FileError × FilePath) FileTree :=
  makeReversed path.slashes path.parts.reverse tree

def write (tree : FileTree) (path : FilePath) (text : String) : Except FileError FileTree := do
  let place ← tree.locate path
  match tree.get? place with
  | some .directory => throw .isADirectory
  | _ => return tree.put place (.file text)

/-- Writes a file and makes the directories above it. -/
def place (tree : FileTree) (path : FilePath) (text : String) : Except FileError FileTree :=
  match tree.makeDirectory path.parent with
  | .ok tree => tree.write path text
  | .error (error, _) => .error error

/-- The files with their places and texts. -/
def files (tree : FileTree) : List (FilePlace × String) :=
  tree.entries.filterMap fun (place, entry) =>
    match entry with
    | .file text => some (place, text)
    | .directory => none

/-- The files in the working directory as they are read: their paths, in order, with their texts, in
which all lines end alike. -/
def ownFiles (tree : FileTree) : List (String × String) :=
  ((tree.files.filter fun file => file.1.isOwn).map fun (place, text) =>
    (place.path.text, String.ofList (Text.unifyLineEnds text.toList))).mergeSort
      fun a b => !Text.isBefore b.1 a.1

end FileTree

end WireModel
