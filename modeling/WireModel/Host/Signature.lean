import WireModel.Host.Model

/-!
The text of a record with the names and types of its parameters, which is its documentation.
-/

namespace WireModel

namespace HostType

/-- The type is a form of the module of qualified types. -/
def isQualifiedForm : HostType → Bool
  | .builtin type =>
    match type with
    | .any | .listForm | .mapForm | .optionalForm | .unionForm | .classVarForm | .annotatedForm
    | .genericForm => true
    | _ => false
  | .applied head _ =>
    match head with
    | .list .qualified | .map .qualified | .classVar | .literal | .generic => true
    | _ => false
  | .union .qualified _ => true
  | _ => false

def isClass : HostType → Bool
  | .primitive type => !type.isMarker
  | .declared _ | .noneType => true
  | .builtin type =>
    match type with
    | .classNamed _ | .any | .box | .annotatedForm | .genericForm => true
    | _ => false
  | _ => false

/-- The text of the type of a parameter: classes by their dotted names, and qualified forms without
their module. -/
def shownInSignature (type : HostType) : String :=
  if type.isQualifiedForm then type.shown.replace "typing." ""
  else if type.isClass then type.shownAt .argument
  else type.shown

end HostType

/-- The text of a parameter with its type, and with its value where it may be left out. -/
def RecordEntry.shown (entry : RecordEntry) : String :=
  let typed := entry.name ++ ": " ++ entry.type.shownInSignature
  match entry.default with
  | some value => typed ++ " = " ++ value.shown
  | none => typed

def RecordEntry.isParameter (entry : RecordEntry) : Bool :=
  entry.role != .classVariable

def ClassDecl.signature (declared : ClassDecl) (entries : List RecordEntry) : String :=
  declared.ref.name ++ "(" ++
    ", ".intercalate ((entries.filter RecordEntry.isParameter).map RecordEntry.shown) ++ ")"

end WireModel
