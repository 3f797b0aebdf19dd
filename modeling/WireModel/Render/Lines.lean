/-!
Source text as a list of lines.
-/

namespace WireModel.Render

/-- Four blanks for each level. -/
def padding (level : Nat) : String :=
  String.ofList (List.replicate (4 * level) ' ')

/-- Lines moved to the right; an empty line stays empty. -/
def indent (level : Nat) (lines : List String) : List String :=
  lines.map fun line => if line.isEmpty then line else padding level ++ line

/-- The text of some lines, each with its end. -/
def joinLines (lines : List String) : String :=
  "\n".intercalate lines ++ "\n"

def braced (text : String) : String :=
  "\x7b" ++ text ++ "\x7d"

/-- Lines between a head with an opening brace and a closing brace. -/
def block (head : String) (body : List String) : List String :=
  (head ++ " \x7b") :: body ++ ["\x7d"]

end WireModel.Render
