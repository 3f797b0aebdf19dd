import WireModel.Host.Fault

/-!
Why a model cannot be collected, rendered or written.
-/

namespace WireModel

open Text

/-- What the file system refuses. -/
inductive FileError where
  | notFound
  | notADirectory
  | isADirectory
  | exists
  | nameTooLong
  deriving DecidableEq, Repr

/-- The text of a refusal for a path. -/
def FileError.message (error : FileError) (path : String) : String :=
  match error with
  | .notFound => "[Errno 2] No such file or directory: " ++ quoted path
  | .notADirectory => "[Errno 20] Not a directory: " ++ quoted path
  | .isADirectory => "[Errno 21] Is a directory: " ++ quoted path
  | .exists => "[Errno 17] File exists: " ++ quoted path
  | .nameTooLong => "[Errno 36] File name too long: " ++ quoted path

/-- The languages that classes are generated for. -/
inductive Target where
  | java
  | python
  deriving DecidableEq, Repr, Inhabited

/-- The name of a target in messages. -/
def Target.title : Target → String
  | .java => "Java"
  | .python => "Python"

/-- Why generation fails. -/
inductive GenerationError where
  /-- A tuple variant without slots. -/
  | emptyTupleVariant
  /-- A data enum without variants. -/
  | noVariants (className : String)
  /-- A type variable where a type is needed. -/
  | unboundVariable (name : String)
  /-- A type variable that an instantiation gives no type. -/
  | unboundVariableIn (name owner : String)
  /-- A string annotation where a type is needed. -/
  | unresolvedReference (type : HostType)
  /-- A union that is not of one type and the absent value. -/
  | unsupportedUnion (type : HostType)
  | unsupportedType (type : HostType)
  /-- A string annotation that cannot be evaluated. -/
  | unresolvable (expression owner : String) (fault : Fault)
  /-- A generic class with a wrong number of arguments. -/
  | argumentCount (className : String) (expected actual : Nat)
  /-- A record whose annotations cannot be evaluated. -/
  | unreadableFields (className : String) (fault : Fault)
  /-- Two generated classes of one name. -/
  | repeatedClass (className : String)
  /-- A holder class with the name of another class. -/
  | holderClash (holder className : String)
  | unsupportedStyle (className style : String)
  /-- A generated class that its language would not take. -/
  | brokenClass (target : Target) (className : String)
  /-- Two generated classes of one module. -/
  | moduleClash (first second module : String)
  | unwritable (target : Target) (directory : String) (error : FileError) (path : String)
  /-- A reference that is not of the form `module:Type`. -/
  | brokenReference (reference : String)
  | missingModule (module text : String)
  | missingAttribute (module path : String)

def GenerationError.message : GenerationError → String
  | emptyTupleVariant => "A tuple variant needs at least one slot"
  | noVariants className => "Data enum " ++ className ++ " declares no variants"
  | unboundVariable name => "Unbound type variable: ~" ++ name
  | unboundVariableIn name owner => "Unbound type variable ~" ++ name ++ " in " ++ owner
  | unresolvedReference type => "Unresolved forward reference: " ++ type.shown
  | unsupportedUnion type => "Only Optional unions are supported, got " ++ type.shown
  | unsupportedType type => "Unsupported type: " ++ type.shown
  | unresolvable expression owner fault =>
    "Cannot resolve " ++ quoted expression ++ " in " ++ owner ++ ": " ++ fault.text
  | argumentCount className expected actual =>
    className ++ " expects " ++ toString expected ++ " type argument(s), got " ++ toString actual
  | unreadableFields className fault =>
    "Cannot read the fields of " ++ className ++ ": " ++ fault.text
  | repeatedClass className => "Two distinct types map to the class name " ++ className
  | holderClash holder className =>
    "Object variant " ++ holder ++ " of " ++ className ++ " clashes with a generated class name"
  | unsupportedStyle className style =>
    "Unsupported data enum style for " ++ className ++ ": " ++ style
  | brokenClass target className =>
    "Failed to generate " ++ target.title ++ " code for " ++ className
  | moduleClash first second module =>
    "Classes " ++ first ++ " and " ++ second ++ " both map to the module " ++ module ++ ".py"
  | unwritable target directory error path =>
    "Failed to write " ++ target.title ++ " sources to " ++ directory ++ ": " ++ error.message path
  | brokenReference reference => "Expected module:Type, got " ++ quoted reference
  | missingModule module text => "Cannot import " ++ module ++ ": " ++ text
  | missingAttribute module path => module ++ " has no attribute " ++ path

/-- Why an operation on a model fails: by a rule of generation, or by a fault of the model
itself. -/
inductive Failure where
  | generation (error : GenerationError)
  | fault (fault : Fault)

end WireModel
