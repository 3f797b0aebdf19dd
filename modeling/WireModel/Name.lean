import WireModel.Text.Case

/-!
Identifiers and their four styles. A name is kept in snake case; a word boundary of camel and
Pascal case is an upper-case letter right after a lower-case one.
-/

namespace WireModel

open Text

/-- An identifier, kept in snake case. -/
structure Name where
  snake : String
  deriving DecidableEq, Repr, Inhabited

/-- The styles in which an identifier can be written. -/
inductive NameStyle where
  | snake
  | upperSnake
  | camel
  | pascal
  deriving DecidableEq, Repr

namespace Name

/-- Snake case from camel case. Only letters of ASCII make boundaries and are lowered; the flag says
that a lower-case letter stands in front. -/
def snakeOfCamel (afterLower : Bool) : List Char → List Char
  | [] => []
  | c :: rest =>
    if afterLower && c.isUpper then '_' :: c.toLower :: snakeOfCamel false rest
    else c.toLower :: snakeOfCamel c.isLower rest

/-- Camel case from snake case: an underscore is dropped and the next character raised. -/
def camelOfSnake : List Char → List Char
  | [] => []
  | ['_'] => []
  | '_' :: c :: rest => upperChar c ++ camelOfSnake rest
  | c :: rest => c :: camelOfSnake rest

/-- The text with its first character raised. -/
def raiseFirst : List Char → List Char
  | [] => []
  | c :: rest => upperChar c ++ rest

/-- The name written in snake case. -/
def ofSnake (text : String) : Name :=
  ⟨text⟩

/-- The name written in upper snake case. -/
def ofUpperSnake (text : String) : Name :=
  ⟨String.ofList (lower text.toList)⟩

/-- The name written in camel case. -/
def ofCamel (text : String) : Name :=
  ⟨String.ofList (snakeOfCamel false text.toList)⟩

/-- The name written in Pascal case, which is read like camel case. -/
def ofPascal (text : String) : Name :=
  ofCamel text

def upperSnake (name : Name) : String :=
  String.ofList (upper name.snake.toList)

def camel (name : Name) : String :=
  String.ofList (camelOfSnake name.snake.toList)

def pascal (name : Name) : String :=
  String.ofList (raiseFirst (camelOfSnake name.snake.toList))

/-- The name that a text stands for in a style. -/
def ofStyle : NameStyle → String → Name
  | .snake => ofSnake
  | .upperSnake => ofUpperSnake
  | .camel => ofCamel
  | .pascal => ofPascal

end Name

end WireModel
