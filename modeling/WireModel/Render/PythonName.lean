import WireModel.Name
import WireModel.Text.Identifier

/-!
Names in generated Python: keywords take an underscore behind them, and a class lives in a module
of its snake-case name.
-/

namespace WireModel.Render

/-- A text that is no keyword: a keyword takes an underscore behind it. -/
def pythonIdentifier (text : String) : String :=
  if text ∈ Text.reservedWords then text ++ "_" else text

def moduleName (className : String) : String :=
  pythonIdentifier (Name.ofPascal className).snake

end WireModel.Render
