import WireModel.Error

/-!
Type expressions of generated code: the name of a type, a list or a map.
-/

namespace WireModel

/-- A type expression. -/
inductive TypeExpr where
  | named (name : String)
  | list (item : TypeExpr)
  | map (key value : TypeExpr)
  deriving DecidableEq, Repr, Inhabited

/-- How many brackets of a type expression stand inside each other at most. -/
def TypeExpr.nesting : TypeExpr → Nat
  | .named _ => 0
  | .list item => item.nesting + 1
  | .map key value => max key.nesting value.nesting + 1

def TypeExpr.text (target : Target) : TypeExpr → String
  | .named name => name
  | .list item =>
    match target with
    | .java => "java.util.List<" ++ item.text target ++ ">"
    | .python => "list[" ++ item.text target ++ "]"
  | .map key value =>
    match target with
    | .java => "java.util.Map<" ++ key.text target ++ ", " ++ value.text target ++ ">"
    | .python => "dict[" ++ key.text target ++ ", " ++ value.text target ++ "]"

end WireModel
