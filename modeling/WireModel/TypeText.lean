import WireModel.Host.View
import WireModel.TypeExpr

/-!
The types of generated code: the type expression of a field, and the name of the class that is
generated for an instantiation, made of the declared name and a fragment for each argument.
-/

namespace WireModel

namespace Primitive

/-- The boxed Java type, which has room for an absent value. -/
def javaType : Primitive → String
  | .bool => "Boolean"
  | .i8 => "Byte"
  | .i16 => "Short"
  | .i32 => "Integer"
  | .i64 | .int => "Long"
  | .f32 => "Float"
  | .f64 | .float => "Double"
  | .str => "String"

def pythonType : Primitive → String
  | .bool => "bool"
  | .i8 | .i16 | .i32 | .i64 | .int => "int"
  | .f32 | .f64 | .float => "float"
  | .str => "str"

/-- The fragment of class names for Python, which is another for each type. -/
def pythonFragment : Primitive → String
  | .bool => "Bool"
  | .i8 => "I8"
  | .i16 => "I16"
  | .i32 => "I32"
  | .i64 => "I64"
  | .int => "Int"
  | .f32 => "F32"
  | .f64 => "F64"
  | .float => "Float"
  | .str => "Str"

end Primitive

namespace Target

def primitiveType : Target → Primitive → String
  | .java => Primitive.javaType
  | .python => Primitive.pythonType

/-- The fragment of class names for a primitive type. -/
def primitiveFragment : Target → Primitive → String
  | .java => Primitive.javaType
  | .python => Primitive.pythonFragment

end Target

namespace View

def refusal {α : Type} (error : GenerationError) : Except Failure α :=
  .error (.generation error)

def lacking {α : Type} : Except Failure α :=
  .error (.fault .missingArgument)

mutual

/-- The fragment that a type adds to the name of a class; optional and boxed types add that of
their content. -/
def fragment (target : Target) : View → Except Failure String
  | .refused error => refusal error
  | .primitive type => .ok (target.primitiveFragment type)
  | .list [] => lacking
  | .list (item :: _) => do return "List" ++ (← fragment target item)
  | .map [] => lacking
  | .map [key] => do
    discard (fragment target key)
    lacking
  | .map (key :: value :: _) => do
    let key ← fragment target key
    return "Map" ++ key ++ (← fragment target value)
  | .optional type => fragment target type
  | .box [] => lacking
  | .box (type :: _) => fragment target type
  | .record ref args => do return ref.name ++ (← fragments target args)
  | .enumeration ref => .ok ref.name
  | .dataEnum ref args => do return ref.name ++ (← fragments target args)

def fragments (target : Target) : List View → Except Failure String
  | [] => .ok ""
  | type :: rest => do
    let first ← fragment target type
    return first ++ (← fragments target rest)

end

/-- The name of the class that is generated for a type: its declared name and the fragments of its
arguments. -/
def className (target : Target) : View → Except Failure String
  | .refused error => refusal error
  | .primitive type => .ok type.name
  | .list args => do return "list" ++ (← fragments target args)
  | .map args => do return "dict" ++ (← fragments target args)
  | .optional type => do return "Optional" ++ (← fragments target [type])
  | .box args => do return "Box" ++ (← fragments target args)
  | .record ref args => do return ref.name ++ (← fragments target args)
  | .enumeration ref => .ok ref.name
  | .dataEnum ref args => do return ref.name ++ (← fragments target args)

/-- The type expression of a field; optional and boxed types are written as their content. -/
def typeExpr (target : Target) : View → Except Failure TypeExpr
  | .refused error => refusal error
  | .primitive type => .ok (.named (target.primitiveType type))
  | .list [] => lacking
  | .list (item :: _) => do return .list (← typeExpr target item)
  | .map [] => lacking
  | .map [key] => do
    discard (typeExpr target key)
    lacking
  | .map (key :: value :: _) => do
    let key ← typeExpr target key
    return .map key (← typeExpr target value)
  | .optional type => typeExpr target type
  | .box [] => lacking
  | .box (type :: _) => typeExpr target type
  | .record ref args => do return .named (ref.name ++ (← fragments target args))
  | .enumeration ref => .ok (.named ref.name)
  | .dataEnum ref args => do return .named (ref.name ++ (← fragments target args))

/-- The text of the type expression of a field. -/
def typeText (target : Target) (view : View) : Except Failure String := do
  return (← view.typeExpr target).text target

end View

end WireModel
