import WireModel.Host.Expression.Basic
import WireModel.Host.Expression.Token
import WireModel.Host.Fault
import WireModel.Text.LineEnd

/-!
Reading expressions. Operators bind in levels, from `or` at the loosest over comparisons and bars to
powers; what follows an operand in brackets, or behind a point, binds tightest. Each function takes
the expression in front of some tokens and gives the tokens behind it.
-/

namespace WireModel.Expression

open Text

/-- What stands in front of some tokens, and the tokens behind it. -/
abbrev Parse (α : Type) := List Token → Option (α × List Token)

/-- The operators between two operands below the comparisons, the loosest first. -/
def binaryLevels : List (List (String × BinaryOperator)) := [
  [("|", .bitOr)],
  [("^", .bitXor)],
  [("&", .bitAnd)],
  [("<<", .leftShift), (">>", .rightShift)],
  [("+", .add), ("-", .subtract)],
  [("*", .multiply), ("/", .divide), ("//", .floorDivide), ("%", .remainder),
    ("@", .matrixMultiply)]]

def unaryOperators : List (String × UnaryOperator) :=
  [("-", .negative), ("+", .positive), ("~", .inverted)]

/-- The comparison in front of some tokens. -/
def comparison? : Parse Comparison
  | .symbol "==" :: rest => some (.equal, rest)
  | .symbol "!=" :: rest => some (.notEqual, rest)
  | .symbol "<" :: rest => some (.less, rest)
  | .symbol "<=" :: rest => some (.lessEqual, rest)
  | .symbol ">" :: rest => some (.greater, rest)
  | .symbol ">=" :: rest => some (.greaterEqual, rest)
  | .keyword "is" :: .keyword "not" :: rest => some (.notIdentical, rest)
  | .keyword "is" :: rest => some (.identical, rest)
  | .keyword "not" :: .keyword "in" :: rest => some (.notContained, rest)
  | .keyword "in" :: rest => some (.contained, rest)
  | _ => none

/-- The value of a keyword that is always the same value. -/
def keywordValue? : String → Option HostType
  | "None" => some .none
  | "True" => some (.constant (.bool true))
  | "False" => some (.constant (.bool false))
  | _ => none

mutual

/-- Values can be bound to the expression. -/
def isTarget : Expression → Bool
  | .name identifier => identifier != "__debug__"
  | .attribute .. | .subscript .. => true
  | .unpacked item => isTarget item
  | .display .tuple items | .display .list items => areTargets items
  | _ => false

/-- Values can be bound to all of the expressions. -/
def areTargets : List Expression → Bool
  | [] => true
  | item :: rest => isTarget item && areTargets rest

end

/-- The string literals that stand side by side. -/
def takeLiterals : List Token → List (LiteralKind × Bool × List Char) × List Token
  | .literal kind isRaw content :: rest =>
    let (following, rest) := takeLiterals rest
    ((kind, isRaw, content) :: following, rest)
  | tokens => ([], tokens)

/-- Where a formatted text is read: the whole, or the specification of a field inside other ones. -/
structure FieldPlace where
  isRaw : Bool
  depth : Nat

def FieldPlace.inner (place : FieldPlace) : FieldPlace :=
  { place with depth := place.depth + 1 }

/-- The text before the expression that a formatted text goes on with, and what is behind it. Braces
that are written twice are text, and one that closes nothing is refused; in a specification it is
the end. The names of characters have braces of their own. -/
def takePlain? (place : FieldPlace) (inName : Bool) : List Char → Option (List Char × List Char)
  | [] => some ([], [])
  | c :: rest =>
    let goOn (inName : Bool) : Option (List Char × List Char) :=
      (takePlain? place inName rest).map fun (text, rest) => (c :: text, rest)
    if inName then goOn (c != '\x7d')
    else
      match c, rest with
      | '\\', 'N' :: '\x7b' :: rest =>
        if place.isRaw then goOn false
        else
          (takePlain? place true rest).map fun (text, rest) =>
            ('\\' :: 'N' :: '\x7b' :: text, rest)
      | '\x7b', '\x7b' :: rest =>
        if place.depth = 0 then
          (takePlain? place false rest).map fun (text, rest) => ('\x7b' :: text, rest)
        else some ([], c :: '\x7b' :: rest)
      | '\x7d', '\x7d' :: rest =>
        if place.depth = 0 then
          (takePlain? place false rest).map fun (text, rest) => ('\x7d' :: text, rest)
        else some ([], c :: '\x7d' :: rest)
      | '\x7b', rest => some ([], c :: rest)
      | '\x7d', rest => if place.depth = 0 then none else some ([], c :: rest)
      | _, _ => goOn false

/-- An operator of two characters stands in front whose second one is no end of an expression. -/
def isComparisonSign : List Char → Bool
  | c :: '=' :: _ => c ∈ ['!', '=', '<', '>']
  | _ => false

/-- The text of an expression in a formatted text, up to what ends it, given the closing brackets
and quotes that it still needs, and whether an operator was begun. It holds no backslash. -/
def takeEmbedded? (expected : List Char) (inOperator : Bool) :
    List Char → Option (List Char × List Char)
  | [] => none
  | c :: rest =>
    let next (expected : List Char) (inOperator : Bool) : Option (List Char × List Char) :=
      (takeEmbedded? expected inOperator rest).map fun (text, rest) => (c :: text, rest)
    match c, expected with
    | '\\', _ => none
    | c, '\'' :: outer => if c = '\'' then next outer false else next expected false
    | c, '"' :: outer => if c = '"' then next outer false else next expected false
    | c, expected =>
      if c = '#' then none
      else if inOperator then next expected false
      else if c = '\'' || c = '"' then next (c :: expected) false
      else if let some bracket := closing? (String.ofList [c]) then next (bracket :: expected) false
      else
        match expected with
        | bracket :: outer =>
          if c = bracket then next outer false
          else if isClosing (String.ofList [c]) then none
          else next expected false
        | [] =>
          if isComparisonSign (c :: rest) then next [] true
          else if c = '<' || c = '>' then next [] false
          else if c ∈ ['\x7d', ':', '!', '='] then some ([], c :: rest)
          else if isClosing (String.ofList [c]) then none
          else next [] false

/-- The sign behind an expression that asks for its own text, with the blanks around it, and what is
behind it. -/
def takeOwnText : List Char → List Char × List Char
  | '=' :: rest => ('=' :: rest.takeWhile isWordBlank, rest.dropWhile isWordBlank)
  | rest => ([], rest)

/-- The conversion behind an expression in a formatted text, and what is behind it. -/
def takeConversion? : List Char → Option (Option Conversion × List Char)
  | '!' :: 's' :: rest => some (some .plain, rest)
  | '!' :: 'r' :: rest => some (some .shown, rest)
  | '!' :: 'a' :: rest => some (some .ascii, rest)
  | '!' :: _ => none
  | rest => some (none, rest)

/-- A parameter of a function without a name: what takes several arguments has its stars in
front. -/
structure LambdaParameter where
  name : String
  default : Option Expression

/-- The parameter takes several arguments, or only marks where those by name begin. -/
def LambdaParameter.isSpecial (parameter : LambdaParameter) : Bool :=
  parameter.name.startsWith "*" || parameter.name == "/"

/-- The parameters may stand together: their names are distinct, each mark stands once and in its
place, and behind one with a value of its own all have one, up to a star. -/
def areLambdaParameters (parameters : List LambdaParameter) : Bool :=
  let names := (parameters.map fun p => (p.name.dropWhile (· == '*')).toString).filter (· != "")
  let byPlace := parameters.takeWhile fun p => !p.name.startsWith "*"
  let byName := parameters.dropWhile fun p => !p.name.startsWith "*"
  names.eraseDups.length = names.length &&
    ((byPlace.filter (!·.isSpecial)).dropWhile (·.default.isNone)).all (·.default.isSome) &&
    (byPlace.head?.map (·.name != "/")).getD true &&
    byName.all (·.name != "/") &&
    (byName.drop 1).all (fun p => p.name.startsWith "**" || !p.name.startsWith "*") &&
    (byName.dropLast.all fun p => !p.name.startsWith "**") &&
    (match byName with
      | [star] => star.name != "*"
      | star :: next :: _ => star.name != "*" || !next.isSpecial
      | [] => true)

/-- The parameters that the marks among them make. Those before a stroke are given by place only,
those behind a star by name only. -/
def parametersOf (written : List LambdaParameter) : List Parameter :=
  let placed := if written.any (·.name == "/") then written.takeWhile (·.name != "/") else []
  let rest := written.drop placed.length
  let plain := rest.takeWhile fun p => !p.name.startsWith "*"
  let named := rest.drop plain.length
  let ofKind (kind : ParameterKind) (p : LambdaParameter) : Option Parameter :=
    if p.name = "/" || p.name = "*" then none
    else if p.name.startsWith "**" then some ⟨(p.name.drop 2).toString, .otherNames, false⟩
    else if p.name.startsWith "*" then some ⟨(p.name.drop 1).toString, .otherPlaces, false⟩
    else some ⟨p.name, kind, p.default.isSome⟩
  placed.filterMap (ofKind .placed) ++ plain.filterMap (ofKind .plain) ++
    named.filterMap (ofKind .named)

/-- What stands before an argument of a call. -/
inductive Arguments where
  | nothing
  /-- Arguments by place. -/
  | places
  /-- Arguments by name. -/
  | names
  /-- A map whose entries are arguments by name. -/
  | map
  deriving DecidableEq, Repr

/-- What stands before the argument behind one of the other kind. -/
def Arguments.join : Arguments → Arguments → Arguments
  | .map, _ => .map
  | .names, _ => .names
  | _, next => next

mutual

/-- Takes an expression: one of two by a condition, a function without a name, or a disjunction. -/
def parseExpression : Nat → Parse Expression
  | 0, _ => none
  | fuel + 1, .keyword "lambda" :: rest => do
    let (parameters, rest) ← parseParameters fuel rest
    if !areLambdaParameters parameters then none
    let (body, rest) ← parseExpression fuel rest
    some (.function (parametersOf parameters) (parameters.filterMap (·.default)) body, rest)
  | fuel + 1, tokens => do
    let (first, rest) ← parseDisjunction fuel tokens
    match rest with
    | .keyword "if" :: rest =>
      let (test, rest) ← parseDisjunction fuel rest
      match rest with
      | .keyword "else" :: rest =>
        let (alternative, rest) ← parseExpression fuel rest
        some (.conditional test first alternative, rest)
      | _ => none
    | rest => some (first, rest)

/-- Takes the parameters of a function without a name, up to the colon. -/
def parseParameters : Nat → Parse (List LambdaParameter)
  | 0, _ => none
  | fuel + 1, tokens =>
    match tokens with
    | .symbol ":" :: rest => some ([], rest)
    | .word identifier :: .symbol "=" :: rest => do
      let (default, rest) ← parseExpression fuel rest
      let (following, rest) ← parseMoreParameters fuel rest
      some (⟨identifier, some default⟩ :: following, rest)
    | .word identifier :: rest => do
      let (following, rest) ← parseMoreParameters fuel rest
      some (⟨identifier, none⟩ :: following, rest)
    | .symbol symbol :: .word identifier :: rest => do
      if symbol != "*" && symbol != "**" then none
      let (following, rest) ← parseMoreParameters fuel rest
      some (⟨symbol ++ identifier, none⟩ :: following, rest)
    | .symbol symbol :: rest => do
      if symbol != "*" && symbol != "/" then none
      let (following, rest) ← parseMoreParameters fuel rest
      some (⟨symbol, none⟩ :: following, rest)
    | _ => none

def parseMoreParameters : Nat → Parse (List LambdaParameter)
  | 0, _ => none
  | _ + 1, .symbol ":" :: rest => some ([], rest)
  | fuel + 1, .symbol "," :: rest => parseParameters fuel rest
  | _ + 1, _ => none

/-- Takes an expression that may bind its value to a name. -/
def parseNamed : Nat → Parse Expression
  | 0, _ => none
  | fuel + 1, .word identifier :: .symbol ":=" :: rest => do
    if identifier = "__debug__" then none
    let (bound, rest) ← parseExpression fuel rest
    some (.assignment identifier bound, rest)
  | fuel + 1, tokens => parseExpression fuel tokens

def parseDisjunction : Nat → Parse Expression
  | 0, _ => none
  | fuel + 1, tokens => do
    let (left, rest) ← parseConjunction fuel tokens
    match rest with
    | .keyword "or" :: rest =>
      let (right, rest) ← parseDisjunction fuel rest
      some (.either left right, rest)
    | rest => some (left, rest)

def parseConjunction : Nat → Parse Expression
  | 0, _ => none
  | fuel + 1, tokens => do
    let (left, rest) ← parseNegation fuel tokens
    match rest with
    | .keyword "and" :: rest =>
      let (right, rest) ← parseConjunction fuel rest
      some (.both left right, rest)
    | rest => some (left, rest)

/-- Takes a comparison, perhaps behind `not`. -/
def parseNegation : Nat → Parse Expression
  | 0, _ => none
  | fuel + 1, .keyword "not" :: rest => do
    let (operand, rest) ← parseNegation fuel rest
    some (.unary .negation operand, rest)
  | fuel + 1, tokens => do
    let (first, rest) ← parseBinary fuel binaryLevels tokens
    let (others, rest) ← parseComparisons fuel rest
    if others.isEmpty then some (first, rest)
    else some (.comparison first (others.map (·.1)) (others.map (·.2)), rest)

/-- Takes comparisons with their second operands. -/
def parseComparisons : Nat → Parse (List (Comparison × Expression))
  | 0, _ => none
  | fuel + 1, tokens =>
    match comparison? tokens with
    | none => some ([], tokens)
    | some (operator, rest) => do
      let (operand, rest) ← parseBinary fuel binaryLevels rest
      let (others, rest) ← parseComparisons fuel rest
      some ((operator, operand) :: others, rest)

/-- Takes operands with operators of some levels between them. -/
def parseBinary : Nat → List (List (String × BinaryOperator)) → Parse Expression
  | 0, _, _ => none
  | fuel + 1, [], tokens => parseFactor fuel tokens
  | fuel + 1, level :: tighter, tokens => do
    let (first, rest) ← parseBinary fuel tighter tokens
    parseOperands fuel level tighter first rest

/-- Takes the operators of one level behind an operand, from the left. -/
def parseOperands : Nat → List (String × BinaryOperator) → List (List (String × BinaryOperator)) →
    Expression → Parse Expression
  | 0, _, _, _, _ => none
  | fuel + 1, level, tighter, left, tokens =>
    match tokens with
    | .symbol symbol :: rest =>
      match level.lookup symbol with
      | some operator => do
        let (right, rest) ← parseBinary fuel tighter rest
        parseOperands fuel level tighter (.binary operator left right) rest
      | none => some (left, .symbol symbol :: rest)
    | tokens => some (left, tokens)

/-- Takes an operand with the operators before it; a power binds tighter than those before its base,
and looser than those before its exponent. -/
def parseFactor : Nat → Parse Expression
  | 0, _ => none
  | fuel + 1, tokens => do
    let prefixed? :=
      match tokens with
      | .symbol symbol :: rest =>
        (unaryOperators.lookup symbol).map fun operator => (operator, rest)
      | _ => none
    match prefixed? with
    | some (operator, rest) =>
      let (operand, rest) ← parseFactor fuel rest
      some (.unary operator operand, rest)
    | none =>
      let (base, rest) ← parseAtom fuel tokens
      let (base, rest) ← parseTrailers fuel base rest
      match rest with
      | .symbol "**" :: rest =>
        let (exponent, rest) ← parseFactor fuel rest
        some (.binary .power base exponent, rest)
      | rest => some (base, rest)

/-- Takes the attributes, brackets and calls behind an operand. -/
def parseTrailers : Nat → Expression → Parse Expression
  | 0, _, _ => none
  | fuel + 1, target, tokens =>
    match tokens with
    | .symbol "." :: .word identifier :: rest =>
      parseTrailers fuel (.attribute target identifier) rest
    | .symbol "[" :: rest => do
      let (index, rest) ← parseIndex fuel rest
      parseTrailers fuel (.subscript target index) rest
    | .symbol "(" :: rest => do
      let (args, named, rest) ← parseArguments fuel .nothing rest
      let names := named.map (·.1)
      if (names.filter (· != "")).eraseDups.length < (names.filter (· != "")).length then none
      parseTrailers fuel (.call target args names (named.map (·.2))) rest
    | tokens => some (target, tokens)

/-- Takes what stands between the brackets behind an operand. -/
def parseIndex : Nat → Parse Expression
  | 0, _ => none
  | fuel + 1, tokens => do
    let (first, rest) ← parsePlace fuel tokens
    match first, rest with
    | .unpacked _, .symbol "]" :: rest => some (.display .tuple [first], rest)
    | first, .symbol "]" :: rest => some (first, rest)
    | first, .symbol "," :: rest =>
      let (items, rest) ← parsePlaces fuel rest
      some (.display .tuple (first :: items), rest)
    | _, _ => none

/-- Takes the further items between the brackets behind an operand. -/
def parsePlaces : Nat → Parse (List Expression)
  | 0, _ => none
  | _ + 1, .symbol "]" :: rest => some ([], rest)
  | fuel + 1, tokens => do
    let (item, rest) ← parsePlace fuel tokens
    match rest with
    | .symbol "]" :: rest => some ([item], rest)
    | .symbol "," :: rest =>
      let (items, rest) ← parsePlaces fuel rest
      some (item :: items, rest)
    | _ => none

/-- Takes one item between the brackets behind an operand, which may be a range of places. -/
def parsePlace : Nat → Parse Expression
  | 0, _ => none
  | fuel + 1, .symbol "*" :: rest => do
    let (item, rest) ← parseExpression fuel rest
    some (.unpacked item, rest)
  | fuel + 1, tokens => do
    let (first, rest) ←
      match tokens with
      | .symbol ":" :: _ => some (Expression.value .none, tokens)
      | tokens => parseNamed fuel tokens
    match rest with
    | .symbol ":" :: rest =>
      let (last, rest) ← parseBound fuel rest
      match rest with
      | .symbol ":" :: rest =>
        let (step, rest) ← parseBound fuel rest
        some (.slice first last step, rest)
      | rest => some (.slice first last (.value .none), rest)
    | rest => some (first, rest)

/-- Takes a bound of a range of places, which may be left out. -/
def parseBound : Nat → Parse Expression
  | 0, _ => none
  | fuel + 1, tokens =>
    match tokens with
    | .symbol ":" :: _ | .symbol "]" :: _ | .symbol "," :: _ => some (.value .none, tokens)
    | tokens => parseExpression fuel tokens

/-- Takes the arguments of a call up to the closing bracket, given what stands before. -/
def parseArguments : Nat → Arguments → List Token →
    Option (List Expression × List (String × Expression) × List Token)
  | 0, _, _ => none
  | _ + 1, _, .symbol ")" :: rest => some ([], [], rest)
  | fuel + 1, before, .symbol "*" :: rest => do
    if before = .map then none
    let (item, rest) ← parseExpression fuel rest
    let (args, named, rest) ← parseMoreArguments fuel (before.join .places) rest
    some (.unpacked item :: args, named, rest)
  | fuel + 1, _, .symbol "**" :: rest => do
    let (item, rest) ← parseExpression fuel rest
    let (args, named, rest) ← parseMoreArguments fuel .map rest
    some (args, ("", item) :: named, rest)
  | fuel + 1, before, .word identifier :: .symbol "=" :: rest => do
    if identifier = "__debug__" then none
    let (argument, rest) ← parseExpression fuel rest
    let (args, named, rest) ← parseMoreArguments fuel (before.join .names) rest
    some (args, (identifier, argument) :: named, rest)
  | fuel + 1, before, tokens => do
    if before = .names || before = .map then none
    let (item, rest) ← parseNamed fuel tokens
    match rest with
    | .keyword "for" :: _ =>
      let (source, rest) ← parseClauses fuel item rest
      match before, rest with
      | .nothing, .symbol ")" :: rest => some ([.comprehension none source], [], rest)
      | _, _ => none
    | rest =>
      let (args, named, rest) ← parseMoreArguments fuel .places rest
      some (item :: args, named, rest)

def parseMoreArguments : Nat → Arguments → List Token →
    Option (List Expression × List (String × Expression) × List Token)
  | 0, _, _ => none
  | _ + 1, _, .symbol ")" :: rest => some ([], [], rest)
  | fuel + 1, before, .symbol "," :: rest => parseArguments fuel before rest
  | _ + 1, _, _ => none

/-- Takes the clauses of a comprehension whose element is known. -/
def parseClauses : Nat → Expression → Parse Expression
  | 0, _, _ => none
  | fuel + 1, element, .keyword "for" :: rest => do
    let (target, rest) ← parseTargets fuel rest
    if !isTarget target then none
    match rest with
    | .keyword "in" :: rest =>
      let (items, rest) ← parseDisjunction fuel rest
      let (conditions, rest) ← parseConditions fuel rest
      let (inner, rest) ← parseClauses fuel element rest
      some (.each target items conditions inner, rest)
    | _ => none
  | _ + 1, element, tokens => some (element, tokens)

/-- Takes what the items of a comprehension are bound to. -/
def parseTargets : Nat → Parse Expression
  | 0, _ => none
  | fuel + 1, tokens => do
    let (first, rest) ← parseItem fuel tokens
    match rest with
    | .symbol "," :: .keyword "in" :: rest => some (.display .tuple [first], .keyword "in" :: rest)
    | .symbol "," :: rest =>
      let (others, rest) ← parseTargets fuel rest
      match others with
      | .display .tuple items => some (.display .tuple (first :: items), rest)
      | other => some (.display .tuple [first, other], rest)
    | rest => some (first, rest)

/-- Takes an operand below the comparisons, perhaps behind a star. -/
def parseItem : Nat → Parse Expression
  | 0, _ => none
  | fuel + 1, .symbol "*" :: rest => do
    let (item, rest) ← parseBinary fuel binaryLevels rest
    some (.unpacked item, rest)
  | fuel + 1, tokens => parseBinary fuel binaryLevels tokens

/-- Takes the conditions of a clause. -/
def parseConditions : Nat → Parse (List Expression)
  | 0, _ => none
  | fuel + 1, .keyword "if" :: rest => do
    let (condition, rest) ← parseDisjunction fuel rest
    let (others, rest) ← parseConditions fuel rest
    some (condition :: others, rest)
  | _ + 1, tokens => some ([], tokens)

/-- Takes an item of a container that is written out. -/
def parseElement : Nat → Parse Expression
  | 0, _ => none
  | fuel + 1, .symbol "*" :: rest => parseItem fuel (.symbol "*" :: rest)
  | fuel + 1, tokens => parseNamed fuel tokens

/-- Takes the items of a container behind the first one, up to the closing bracket; the flag says
that there is a comma. -/
def parseElements : Nat → String → Parse (List Expression × Bool)
  | 0, _, _ => none
  | fuel + 1, closing, tokens =>
    match tokens with
    | .symbol "," :: .symbol symbol :: rest =>
      if symbol = closing then some (([], true), rest)
      else do
        let (item, rest) ← parseElement fuel (.symbol symbol :: rest)
        let ((items, _), rest) ← parseElements fuel closing rest
        some ((item :: items, true), rest)
    | .symbol "," :: rest => do
      let (item, rest) ← parseElement fuel rest
      let ((items, _), rest) ← parseElements fuel closing rest
      some ((item :: items, true), rest)
    | .symbol symbol :: rest => if symbol = closing then some (([], false), rest) else none
    | _ => none

/-- Takes the entries of a map behind one, up to the closing bracket. -/
def parseEntries : Nat → Parse (List Expression)
  | 0, _ => none
  | _ + 1, .symbol "\x7d" :: rest => some ([], rest)
  | _ + 1, .symbol "," :: .symbol "\x7d" :: rest => some ([], rest)
  | fuel + 1, .symbol "," :: rest => do
    let (entry, rest) ← parseEntry fuel rest
    let (entries, rest) ← parseEntries fuel rest
    some (entry :: entries, rest)
  | _ + 1, _ => none

/-- Takes an entry of a map, or a map whose entries are taken over. -/
def parseEntry : Nat → Parse Expression
  | 0, _ => none
  | fuel + 1, .symbol "**" :: rest => do
    let (item, rest) ← parseBinary fuel binaryLevels rest
    some (.unpacked item, rest)
  | fuel + 1, tokens => do
    let (key, rest) ← parseExpression fuel tokens
    match rest with
    | .symbol ":" :: rest =>
      let (part, rest) ← parseExpression fuel rest
      some (.display .tuple [key, part], rest)
    | _ => none

/-- Takes a set or a map behind its opening bracket. -/
def parseBraces : Nat → Parse Expression
  | 0, _ => none
  | _ + 1, .symbol "\x7d" :: rest => some (.display .map [], rest)
  | fuel + 1, .symbol "**" :: rest => do
    let (entry, rest) ← parseEntry fuel (.symbol "**" :: rest)
    let (entries, rest) ← parseEntries fuel rest
    some (.display .map (entry :: entries), rest)
  | fuel + 1, tokens => do
    let (first, rest) ← parseElement fuel tokens
    match rest with
    | .symbol ":" :: _ =>
      let (entry, rest) ← parseEntry fuel tokens
      match rest with
      | .keyword "for" :: _ =>
        let (source, rest) ← parseClauses fuel entry rest
        match rest with
        | .symbol "\x7d" :: rest => some (.comprehension (some .map) source, rest)
        | _ => none
      | rest =>
        let (entries, rest) ← parseEntries fuel rest
        some (.display .map (entry :: entries), rest)
    | .keyword "for" :: _ =>
      let (source, rest) ← parseClauses fuel first rest
      match rest with
      | .symbol "\x7d" :: rest => some (.comprehension (some .set) source, rest)
      | _ => none
    | rest =>
      let ((items, _), rest) ← parseElements fuel "\x7d" rest
      some (.display .set (first :: items), rest)

/-- Takes a name, a value, or an expression in brackets. -/
def parseAtom : Nat → Parse Expression
  | 0, _ => none
  | fuel + 1, tokens =>
    match tokens with
    | .keyword word :: rest => (keywordValue? word).map fun type => (.value type, rest)
    | .word identifier :: rest => some (.name identifier, rest)
    | .number type :: rest => some (.value type, rest)
    | .symbol "..." :: rest => some (.value (.named "ellipsis" "Ellipsis"), rest)
    | .literal .. :: _ => do
      let (literals, rest) := takeLiterals tokens
      let literal ← parseLiterals fuel literals
      some (literal, rest)
    | .symbol "(" :: .symbol ")" :: rest => some (.display .tuple [], rest)
    | .symbol "(" :: rest => do
      let (first, rest) ← parseElement fuel rest
      match rest with
      | .keyword "for" :: _ =>
        let (source, rest) ← parseClauses fuel first rest
        match rest with
        | .symbol ")" :: rest => some (.comprehension none source, rest)
        | _ => none
      | rest =>
        let ((items, isTuple), rest) ← parseElements fuel ")" rest
        match first, isTuple with
        | .unpacked _, false => none
        | first, false => some (first, rest)
        | first, true => some (.display .tuple (first :: items), rest)
    | .symbol "[" :: .symbol "]" :: rest => some (.display .list [], rest)
    | .symbol "[" :: rest => do
      let (first, rest) ← parseElement fuel rest
      match rest with
      | .keyword "for" :: _ =>
        let (source, rest) ← parseClauses fuel first rest
        match rest with
        | .symbol "]" :: rest => some (.comprehension (some .list) source, rest)
        | _ => none
      | rest =>
        let ((items, _), rest) ← parseElements fuel "]" rest
        some (.display .list (first :: items), rest)
    | .symbol "\x7b" :: rest => parseBraces fuel rest
    | _ => none

/-- The value of string literals that stand side by side. -/
def parseLiterals : Nat → List (LiteralKind × Bool × List Char) → Option Expression
  | 0, _ => none
  | fuel + 1, literals => do
    if literals.any (·.1 == .bytes) then
      if !literals.all (·.1 == .bytes) then none
      let parts ← literals.mapM fun (kind, isRaw, content) => literalCharacters? kind isRaw content
      some (.value (.constant (.bytes (parts.flatten.map Char.toNat))))
    else if literals.any (·.1 == .formatted) then
      let parts ← parseFormattedLiterals fuel literals
      some (.formatted parts)
    else
      let parts ← literals.mapM fun (kind, isRaw, content) => literalCharacters? kind isRaw content
      some (.value (.text (String.ofList parts.flatten)))

def parseFormattedLiterals : Nat → List (LiteralKind × Bool × List Char) → Option (List Expression)
  | 0, _ => none
  | _ + 1, [] => some []
  | fuel + 1, (kind, isRaw, content) :: rest => do
    let parts ←
      if kind = .formatted then do
        let (parts, _) ← parseFormatted fuel ⟨isRaw, 0⟩ content
        some parts
      else do
        let text ← literalCharacters? kind isRaw content
        some [.value (.text (String.ofList text))]
    some (parts ++ (← parseFormattedLiterals fuel rest))

/-- The parts of a formatted text, and what is behind it: the specification of a field ends in front
of a brace. -/
def parseFormatted : Nat → FieldPlace → List Char → Option (List Expression × List Char)
  | 0, _, _ => none
  | fuel + 1, place, content => do
    let (plain, rest) ← takePlain? place false content
    let text ← literalCharacters? .text place.isRaw plain
    let before := Expression.value (.text (String.ofList text))
    match rest with
    | '\x7b' :: rest =>
      let (fields, rest) ← parseField fuel place rest
      let (parts, rest) ← parseFormatted fuel place rest
      some (before :: fields ++ parts, rest)
    | rest => some ([before], rest)

/-- A field of a formatted text behind its opening brace, perhaps with its own text in front of it,
and what is behind it. -/
def parseField : Nat → FieldPlace → List Char → Option (List Expression × List Char)
  | 0, _, _ => none
  | fuel + 1, place, content => do
    if 2 ≤ place.depth then none
    let (embedded, rest) ← takeEmbedded? [] false content
    if embedded.all isWordBlank then none
    let text := '(' :: embedded ++ [')']
    let (sign, rest) := takeOwnText rest
    let own := if sign.isEmpty then [] else
      [Expression.value (.text (String.ofList (embedded ++ sign)))]
    let (conversion, rest) ← takeConversion? rest
    match ← parseAtom fuel (← tokens? (text.length + 1) [] text) with
    | (part, []) =>
      match rest with
      | ':' :: rest =>
        let (parts, rest) ← parseFormatted fuel place.inner rest
        match rest with
        | '\x7d' :: rest => some (own ++ [.field conversion part (.formatted parts)], rest)
        | _ => none
      | '\x7d' :: rest =>
        let conversion := if sign.isEmpty then conversion else conversion.or (some .shown)
        some (own ++ [.field conversion part (.value (.text ""))], rest)
      | _ => none
    | _ => none

end

mutual

def boundNames : Expression → List String
  | .name identifier => [identifier]
  | .unpacked item => boundNames item
  | .display _ items => boundNamesOf items
  | _ => []

def boundNamesOf : List Expression → List String
  | [] => []
  | item :: rest => boundNames item ++ boundNamesOf rest

end

/-- Where an expression stands in comprehensions. -/
structure Nesting where
  /-- It says what a comprehension walks. -/
  isWalked : Bool
  /-- The names that comprehensions around it bind. -/
  bound : List String

mutual

/-- No name is assigned in what a comprehension walks, nor one that a comprehension binds. -/
def hasFreeAssignments (nesting : Nesting) : Expression → Bool
  | .name _ | .value _ => true
  | .attribute target _ => hasFreeAssignments nesting target
  | .subscript target index => hasFreeAssignments nesting target && hasFreeAssignments nesting index
  | .slice first last step =>
    hasFreeAssignments nesting first && hasFreeAssignments nesting last &&
      hasFreeAssignments nesting step
  | .call target args _ named =>
    hasFreeAssignments nesting target && haveFreeAssignments nesting args &&
      haveFreeAssignments nesting named
  | .unary _ operand => hasFreeAssignments nesting operand
  | .binary _ left right | .both left right | .either left right =>
    hasFreeAssignments nesting left && hasFreeAssignments nesting right
  | .comparison first _ rest => hasFreeAssignments nesting first && haveFreeAssignments nesting rest
  | .conditional test consequent alternative =>
    hasFreeAssignments nesting test && hasFreeAssignments nesting consequent &&
      hasFreeAssignments nesting alternative
  | .display _ items => haveFreeAssignments nesting items
  | .unpacked item => hasFreeAssignments nesting item
  | .assignment identifier bound =>
    !nesting.isWalked && !nesting.bound.contains identifier && hasFreeAssignments nesting bound
  | .function _ defaults body =>
    haveFreeAssignments nesting defaults && hasFreeAssignments ⟨false, []⟩ body
  | .comprehension _ source => hasFreeAssignments nesting source
  | .each target items conditions inner =>
    let inside : Nesting := ⟨false, boundNames target ++ nesting.bound⟩
    hasFreeAssignments { nesting with isWalked := true } items &&
      haveFreeAssignments inside conditions && hasFreeAssignments inside inner
  | .formatted parts => haveFreeAssignments nesting parts
  | .field _ part spec => hasFreeAssignments nesting part && hasFreeAssignments nesting spec

/-- None of the expressions assigns a name where it may not. -/
def haveFreeAssignments (nesting : Nesting) : List Expression → Bool
  | [] => true
  | item :: rest => hasFreeAssignments nesting item && haveFreeAssignments nesting rest

end

mutual

/-- The names that an expression assigns, with whether a comprehension does it. What a function
assigns stays inside it. -/
def assignments (isComprehended : Bool) : Expression → List (String × Bool)
  | .name _ | .value _ => []
  | .attribute target _ => assignments isComprehended target
  | .subscript target index => assignments isComprehended target ++ assignments isComprehended index
  | .slice first last step =>
    assignments isComprehended first ++ assignments isComprehended last ++
      assignments isComprehended step
  | .call target args _ named =>
    assignments isComprehended target ++ assignmentsOf isComprehended args ++
      assignmentsOf isComprehended named
  | .unary _ operand => assignments isComprehended operand
  | .binary _ left right | .both left right | .either left right =>
    assignments isComprehended left ++ assignments isComprehended right
  | .comparison first _ rest =>
    assignments isComprehended first ++ assignmentsOf isComprehended rest
  | .conditional test consequent alternative =>
    assignments isComprehended test ++ assignments isComprehended consequent ++
      assignments isComprehended alternative
  | .display _ items => assignmentsOf isComprehended items
  | .unpacked item => assignments isComprehended item
  | .assignment identifier bound => (identifier, isComprehended) :: assignments isComprehended bound
  | .function _ defaults _ => assignmentsOf isComprehended defaults
  | .comprehension _ source => assignments true source
  | .each _ items conditions inner =>
    assignments true items ++ assignmentsOf true conditions ++ assignments true inner
  | .formatted parts => assignmentsOf isComprehended parts
  | .field _ part spec => assignments isComprehended part ++ assignments isComprehended spec

/-- The names that some expressions assign. -/
def assignmentsOf (isComprehended : Bool) : List Expression → List (String × Bool)
  | [] => []
  | item :: rest => assignments isComprehended item ++ assignmentsOf isComprehended rest

end

/-- The further expressions of a tuple without brackets. -/
def restOfTuple? : Nat → List Token → Option (List Expression)
  | 0, _ => none
  | _ + 1, [] | _ + 1, [.symbol ","] => some []
  | fuel + 1, .symbol "," :: rest => do
    let (item, rest) ← parseExpression (24 * fuel + 24) rest
    return item :: (← restOfTuple? fuel rest)
  | _ + 1, _ => none

def ofTokens? (fuel : Nat) (tokens : List Token) : Option Expression := do
  let (first, rest) ← parseExpression (24 * fuel + 24) tokens
  if rest.isEmpty then some first
  else return .display .tuple (first :: (← restOfTuple? fuel rest))

/-- The expression that a text holds. A line that is indented is none. -/
def parse? (text : String) : Option Expression := do
  let characters := unifyLineEnds text.toList
  let characters := dropBlankLines (characters.length + 1) characters
  match characters with
  | c :: _ => if c == ' ' || c == '\t' then none
  | [] => none
  let tokens ← tokens? (characters.length + 1) [] characters
  (ofTokens? (characters.length + 1) tokens).filter (hasFreeAssignments ⟨false, []⟩)

/-- The expression that a string annotation holds. A star in front takes the first item of what it
unpacks. -/
def ofText (text : String) : Except Fault Expression :=
  match text.toList with
  | [] => .error (.operation .missingIndex "string index out of range")
  | first :: _ =>
    let source := if first = '*' then "(" ++ text ++ ",)[0]" else text
    if hasSurrogate source then .error (.unencodable source)
    else if text.toList.contains '\x00' then
      .error (.operation .wrongValue "source code string cannot contain null bytes")
    else
      match parse? source with
      | some expression => .ok expression
      | none => .error (.notAnExpression text)

end WireModel.Expression
