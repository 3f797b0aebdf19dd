import WireModel.Host.Call.Function

/-!
Calls in string annotations: classes make instances, enumerations look up members, functions work on
the values they are given, and methods on the value that has them too.
-/

namespace WireModel

namespace HostType

/-- The text of what is called, in complaints about its arguments. -/
def calleeText (model : Model) (type : HostType) : String :=
  let textAt (name : String) : Option String :=
    ((type.getAttribute model name).toOption).bind asText?
  match textAt "__qualname__", textAt "__module__" with
  | some name, some module => (if module = "builtins" then "" else module ++ ".") ++ name ++ "()"
  | some name, Option.none => name ++ "()"
  | Option.none, _ => type.shown

/-- How deep calls may be inside calls. -/
def callDepth : Nat := 1000

/-- What a call of a value gives, where calls may be so deep inside it, given what the functions
give that expressions have made. -/
def calledWithin (onFunction : Nat → CallArguments → Building HostType) :
    Nat → Model → HostType → CallArguments → Building HostType
  | 0, _, _, _ => throw .tooDeep
  | depth + 1, model, type, arguments => do
    let context : MethodContext := ⟨model, calledWithin onFunction depth model⟩
    match type with
    | .primitive type => ofPrimitive type arguments
    | .noneType =>
      if arguments.places.isEmpty && arguments.named.isEmpty then return .none
      else wrongCount "NoneType takes no arguments"
    | .declared ref => ofDeclared model ref arguments
    | .builtin type =>
      match type with
      | .renameFunction =>
        let shape := FunctionShape.plain "rename" 0 [("json_name", Option.none)]
        match ← shape.bind arguments with
        | [tag] => return .record .rename [("json_name", tag)]
        | _ => throw .missingArgument
      | .classNamed name => ofClassNamed context name arguments
      | .functionNamed name => applyFunction context name arguments
      | .any => wrongCount "Any cannot be instantiated"
      | .annotatedForm => wrongCount "Type Annotated cannot be instantiated."
      | .box => return .named "Box" "<Box object>"
      | .genericForm =>
        wrongCount "Type Generic cannot be instantiated; it can be used only as a base class"
      | .listForm => wrongCount "Type List cannot be instantiated; use list() instead"
      | .mapForm => wrongCount "Type Dict cannot be instantiated; use dict() instead"
      | .optionalForm => wrongCount "Cannot instantiate typing.Optional"
      | .unionForm => wrongCount "Cannot instantiate typing.Union"
      | .classVarForm => wrongCount "Cannot instantiate typing.ClassVar"
    | .applied head _ =>
      match head with
      | .list .native => ofClassNamed context "list" arguments
      | .map .native => ofClassNamed context "dict" arguments
      | .list .qualified => wrongCount "Type List cannot be instantiated; use list() instead"
      | .map .qualified => wrongCount "Type Dict cannot be instantiated; use dict() instead"
      | .builtin name => ofClassNamed context name arguments
      | .declared ref => ofDeclared model ref arguments
      | .box => return .named "Box" "<Box object>"
      | .classVar => wrongCount "Cannot instantiate typing.ClassVar"
      | .literal => wrongCount "Cannot instantiate typing.Literal"
      | .generic =>
        wrongCount "Type Generic cannot be instantiated; it can be used only as a base class"
    | .union .qualified _ => wrongCount "Cannot instantiate typing.Union"
    | .annotated base _ => calledWithin onFunction depth model base arguments
    | .bound receiver owner routine =>
      return (← callBound context receiver owner routine arguments).1
    | .record (.function serial) _ => onFunction serial arguments
    | .constant (.routine typeName qualifiedName _) =>
      callRoutine context typeName qualifiedName arguments
    | type => throw (.notCallable type.typeName)

/-- What a call of a value gives, given what the functions give that expressions have made. -/
def called (model : Model) (onFunction : Nat → CallArguments → Building HostType) :
    HostType → CallArguments → Building HostType :=
  calledWithin onFunction callDepth model

end HostType

end WireModel
