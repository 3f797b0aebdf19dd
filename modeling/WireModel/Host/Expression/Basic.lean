import WireModel.Host.Type

/-!
The expressions that string annotations are written in. Most name a type with brackets and bars;
they are the expressions of a general language all the same, with arithmetic, comparisons, calls and
comprehensions.
-/

namespace WireModel

/-- The operators before one operand. -/
inductive UnaryOperator where
  | negative
  | positive
  | inverted
  | negation
  deriving DecidableEq, Repr, Inhabited

/-- The operators between two operands. -/
inductive BinaryOperator where
  | add
  | subtract
  | multiply
  | matrixMultiply
  | divide
  | floorDivide
  | remainder
  | power
  | leftShift
  | rightShift
  | bitAnd
  | bitOr
  | bitXor
  deriving DecidableEq, Repr, Inhabited

/-- The comparisons between two operands. -/
inductive Comparison where
  | equal
  | notEqual
  | less
  | lessEqual
  | greater
  | greaterEqual
  | identical
  | notIdentical
  | contained
  | notContained
  deriving DecidableEq, Repr, Inhabited

/-- What a value is made into before it is written into a text. -/
inductive Conversion where
  | plain
  | shown
  /-- Shown without characters of more than seven bits. -/
  | ascii
  deriving DecidableEq, Repr, Inhabited

/-- How a parameter of a function is given its value. -/
inductive ParameterKind where
  /-- By place only. -/
  | placed
  /-- By place or by name. -/
  | plain
  /-- By name only. -/
  | named
  /-- All other values by place. -/
  | otherPlaces
  /-- All other values by name. -/
  | otherNames
  deriving DecidableEq, Repr, Inhabited

/-- A parameter of a function without a name. -/
structure Parameter where
  name : String
  kind : ParameterKind
  /-- It has a value of its own, where it is given none. -/
  hasDefault : Bool
  deriving DecidableEq, Repr, Inhabited

/-- The expression of a string annotation. -/
inductive Expression where
  | name (identifier : String)
  | value (type : HostType)
  | attribute (target : Expression) (name : String)
  | subscript (target index : Expression)
  /-- A range of places between brackets; a bound that is left out is the absent value. -/
  | slice (first last step : Expression)
  /-- A call with the names of its named arguments; an empty name unpacks a map. -/
  | call (target : Expression) (args : List Expression) (names : List String)
    (named : List Expression)
  | unary (operator : UnaryOperator) (operand : Expression)
  | binary (operator : BinaryOperator) (left right : Expression)
  /-- The second operand counts only if the first one is true, or false. -/
  | both (left right : Expression)
  | either (left right : Expression)
  /-- A chain of comparisons, all of which must hold. -/
  | comparison (first : Expression) (comparisons : List Comparison) (rest : List Expression)
  | conditional (test consequent alternative : Expression)
  /-- A container that is written out; the items of a map are pairs. -/
  | display (kind : Container) (items : List Expression)
  /-- All items of a container in place of one. -/
  | unpacked (item : Expression)
  | assignment (name : String) (value : Expression)
  /-- A function without a name, with the values that some of its parameters have of their own. -/
  | function (parameters : List Parameter) (defaults : List Expression) (body : Expression)
  /-- A container of what a source gives; without a kind it is only walked. -/
  | comprehension (kind : Option Container) (source : Expression)
  /-- A source: for each item that fits the conditions what the inner source gives. -/
  | each (target items : Expression) (conditions : List Expression) (inner : Expression)
  /-- A text with values written into it. -/
  | formatted (parts : List Expression)
  /-- A value as it is written into a text by a specification. -/
  | field (conversion : Option Conversion) (value spec : Expression)
  deriving Inhabited

end WireModel
