import WireModel.Host.Printing

/-!
What can be wrong with the declarations and annotations of a model, before the generator itself has
anything to say about them.
-/

namespace WireModel

open Text

/-- The kinds of faults. -/
inductive FaultKind where
  | unknownName
  | wrongType
  | brokenText
  | missingAttribute
  | missingKey
  | missingIndex
  | wrongValue
  | overflow
  | missingModule
  | tooDeep
  /-- A text that cannot be written as bytes. -/
  | unencodable
  | divisionByZero
  /-- A module without a name that is asked for. -/
  | missingName
  /-- An encoding, or a way to go on without one, that is not known. -/
  | unknownEncoding
  /-- Bytes that cannot be read as a text. -/
  | undecodable
  /-- Items that were all taken. -/
  | exhausted
  deriving DecidableEq, Repr

/-- A fault of a declaration or of an annotation. -/
inductive Fault where
  /-- A name that nothing in scope has. -/
  | unknownName (name : String)
  /-- A string annotation that holds no expression. -/
  | notAnExpression (text : String)
  /-- A wrong number of arguments between brackets. -/
  | argumentCount (target : String) (actual expected : Nat)
  /-- Brackets behind a type without type variables. -/
  | notGeneric (target : String)
  /-- Brackets behind a class that takes none. -/
  | classNotSubscriptable (name : String)
  /-- Brackets behind something else that takes none. -/
  | notSubscriptable (typeName : String)
  /-- Brackets behind a string. -/
  | stringIndex (typeName : String)
  /-- Brackets behind an enumeration that hold no name of a member. -/
  | unknownMember (key : String)
  /-- A bar between two things that do not unite. -/
  | unsupportedUnion (left right : String)
  /-- A form that needs arguments and stands without them. -/
  | plainForm (form : String)
  /-- A form that may not stand as an argument. -/
  | invalidArgument (argument : String)
  /-- Several types where one is expected. -/
  | tupleArgument (expectation shown : String)
  /-- A union of no types. -/
  | emptyUnion
  /-- An annotated type without metadata. -/
  | annotationMissing
  /-- Brackets of type parameters around something else. -/
  | notAllVariables
  /-- Brackets of type parameters around one of them twice. -/
  | repeatedVariables
  /-- Brackets of type parameters around nothing. -/
  | noVariables
  /-- Brackets behind those of type parameters. -/
  | appliedTwice (target : String)
  /-- A value in a set that cannot stand in one. -/
  | unhashable (typeName : String)
  /-- An operation that its operands refuse, with its own text. -/
  | operation (kind : FaultKind) (text : String)
  /-- A class without an attribute of that name. -/
  | noClassAttribute (className name : String)
  /-- A value without an attribute of that name. -/
  | noValueAttribute (typeName name : String)
  /-- An enumeration without a member of that name. -/
  | noMember (name : String)
  /-- A call of something that is no function. -/
  | notCallable (typeName : String)
  /-- A star before something that holds no items. -/
  | notIterable (typeName : String)
  /-- Two members of an enumeration with one name. -/
  | repeatedMember (name : String)
  /-- A member with a name that is reserved. -/
  | reservedMemberName (name : String)
  /-- A member whose value does not suit its enumeration. -/
  | unsuitedMemberValue (kind : FaultKind)
  /-- A field whose name cannot be a parameter. -/
  | brokenFieldName (name : String)
  /-- A field whose name is not in its normal form. -/
  | unnormalizedFieldName (name : String)
  /-- A field that may not be left out behind one that may. -/
  | misplacedField (name : String)
  /-- A field whose value, where it is left out, could change. -/
  | mutableDefault (name : String)
  /-- A variant whose name means something else in a class. -/
  | reservedVariantName (name : String)
  /-- Bases that cannot be put in one order, or are no classes. -/
  | unsuitedBases
  /-- A reference to something that is not declared. -/
  | undeclared (name : String)
  /-- A module named by its place relative to nothing. -/
  | relativeModule (name : String)
  /-- A container that lacks an argument. -/
  | missingArgument
  /-- Types nested without an end. -/
  | tooDeep
  /-- A path with a null character. -/
  | nullInPath
  /-- A text with half of a pair of code units. -/
  | unencodable (text : String)
  deriving Repr

namespace Fault

def kind : Fault → FaultKind
  | unknownName _ => .unknownName
  | notAnExpression _ | brokenFieldName _ => .brokenText
  | argumentCount .. | notGeneric _ | classNotSubscriptable _ | notSubscriptable _ | stringIndex _
  | unsupportedUnion .. | plainForm _ | invalidArgument _ | tupleArgument .. | emptyUnion
  | annotationMissing | notAllVariables | repeatedVariables | noVariables | appliedTwice _
  | unhashable _ | notCallable _ | notIterable _
  | repeatedMember _ | unsuitedBases | relativeModule _ | unnormalizedFieldName _
  | misplacedField _ | reservedVariantName _ => .wrongType
  | unknownMember _ | undeclared _ => .missingKey
  | noClassAttribute .. | noValueAttribute .. | noMember _ => .missingAttribute
  | reservedMemberName _ | mutableDefault _ => .wrongValue
  | unsuitedMemberValue kind | operation kind _ => kind
  | missingArgument => .missingIndex
  | tooDeep => .tooDeep
  | nullInPath => .wrongValue
  | unencodable _ => .unencodable

/-- The text of a fault, as messages quote it. -/
def text : Fault → String
  | unknownName name => "name '" ++ name ++ "' is not defined"
  | notAnExpression expression =>
    "Forward reference must be an expression -- got " ++ quoted expression
  | argumentCount target actual expected =>
    "Too " ++ (if expected < actual then "many" else "few") ++ " arguments for " ++ target ++
      "; actual " ++ toString actual ++ ", expected " ++ toString expected
  | notGeneric target => target ++ " is not a generic class"
  | classNotSubscriptable name => "type '" ++ name ++ "' is not subscriptable"
  | notSubscriptable typeName => "'" ++ typeName ++ "' object is not subscriptable"
  | stringIndex typeName => "string indices must be integers, not '" ++ typeName ++ "'"
  | unknownMember key => key
  | unsupportedUnion left right =>
    "unsupported operand type(s) for |: '" ++ left ++ "' and '" ++ right ++ "'"
  | plainForm form => "Plain " ++ form ++ " is not valid as type argument"
  | invalidArgument argument => argument ++ " is not valid as type argument"
  | tupleArgument expectation shown => expectation ++ " Got " ++ (shown.take 100).toString ++ "."
  | emptyUnion => "Cannot take a Union of no types."
  | annotationMissing =>
    "Annotated[...] should be used with at least two arguments (a type and an annotation)."
  | notAllVariables =>
    "Parameters to Generic[...] must all be type variables or parameter specification variables."
  | repeatedVariables => "Parameters to Generic[...] must all be unique"
  | noVariables => "Parameter list to Generic[...] cannot be empty"
  | appliedTwice target => "Cannot subscript already-subscripted " ++ target
  | unhashable typeName => "unhashable type: " ++ quoted typeName
  | operation _ text => text
  | noClassAttribute className name =>
    "type object '" ++ className ++ "' has no attribute '" ++ name ++ "'"
  | noValueAttribute typeName name =>
    "'" ++ typeName ++ "' object has no attribute '" ++ name ++ "'"
  | noMember name => name
  | notCallable typeName => "'" ++ typeName ++ "' object is not callable"
  | notIterable typeName => "Value after * must be an iterable, not " ++ typeName
  | repeatedMember name => quoted name ++ " already defined"
  | reservedMemberName name => "invalid enum member name: " ++ quoted name
  | unsuitedMemberValue _ => "invalid enum member value"
  | brokenFieldName name => "invalid field name: " ++ quoted name
  | unnormalizedFieldName name => "field name not in normal form: " ++ quoted name
  | misplacedField name => "non-default argument " ++ quoted name ++ " follows default argument"
  | mutableDefault name => "mutable default for field " ++ name ++ " is not allowed"
  | reservedVariantName name => "invalid variant name: " ++ quoted name
  | unsuitedBases => "bases cannot be combined"
  | undeclared name => quoted name
  | relativeModule name =>
    "the 'package' argument is required to perform a relative import for " ++ quoted name
  | missingArgument => "tuple index out of range"
  | tooDeep => "maximum recursion depth exceeded"
  | nullInPath => "embedded null byte"
  | unencodable text =>
    match firstSurrogates? text with
    | some (first, last, code) =>
      "'utf-8' codec can't encode character" ++
        (if first = last then
          " '\\u" ++ String.ofList (Nat.toDigits 16 code) ++ "' in position " ++ toString first
        else "s in position " ++ toString first ++ "-" ++ toString last) ++
        ": surrogates not allowed"
    | none => "surrogates not allowed"

end Fault

end WireModel
