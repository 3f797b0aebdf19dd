import WireModel.Error
import WireModel.Host.Scope
import WireModel.Text.Split

/-!
Finding a type by a reference of the form `module:Type`, where the part behind the colon may go on
with attributes.
-/

namespace WireModel.Command

open Text

/-- The parts of a text before and behind the first colon. -/
def splitAtColon : List Char → Option (List Char × List Char)
  | [] => none
  | ':' :: rest => some ([], rest)
  | c :: rest => (splitAtColon rest).map fun (before, behind) => (c :: before, behind)

/-- The name of the module around a module, empty for one that stands by itself. -/
def parentModule (name : String) : String :=
  ".".intercalate (partsAt '.' name).dropLast

/-- Why a module is not found: the first of the modules around it that is not declared. A declared
one has no modules inside. -/
def missingModuleText (model : Model) : Nat → String → String
  | 0, name => "No module named " ++ quoted name
  | fuel + 1, name =>
    let parent := parentModule name
    if parent.isEmpty then "No module named " ++ quoted name
    else if model.hasModule parent then
      "No module named " ++ quoted name ++ "; " ++ quoted parent ++ " is not a package"
    else missingModuleText model fuel parent

def moduleValue (name : String) : HostType :=
  .named "module" ("<module " ++ quoted name ++ ">")

def moduleAttribute? (model : Model) (module name : String) : Option HostType :=
  (Scope.moduleName? model module name).or
    ((moduleValue module).getAttribute model name).toOption

/-- What a path of attributes leads to in a module. -/
def follow? (model : Model) (module : String) : List String → Option HostType
  | [] => none
  | first :: rest => do
    rest.foldlM (fun type name => (type.getAttribute model name).toOption)
      (← moduleAttribute? model module first)

/-- The type that a reference leads to. -/
def load (model : Model) (reference : String) : Except Failure HostType :=
  match splitAtColon reference.toList with
  | none => .error (.generation (.brokenReference reference))
  | some (module, path) =>
    if module.isEmpty || path.isEmpty then .error (.generation (.brokenReference reference))
    else
      let module := String.ofList module
      let path := String.ofList path
      if model.hasModule module then
        match follow? model module (partsAt '.' path) with
        | some type => .ok type
        | none => .error (.generation (.missingAttribute module path))
      else if module.toList.head? = some '.' then .error (.fault (.relativeModule module))
      else
        .error (.generation (.missingModule module (missingModuleText model module.length module)))

/-- The name of what a reference leads to: its own, else that of its type. -/
def loadedName (model : Model) (type : HostType) : String :=
  match ((type.getAttribute model "__qualname__").toOption).bind HostType.asText? with
  | some name => if name.isEmpty then lastComponent type.typeName else name
  | none => lastComponent type.typeName

end WireModel.Command
