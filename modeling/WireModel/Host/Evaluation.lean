import WireModel.Host.Binding
import WireModel.Host.Call.Dispatch

/-!
Evaluating expressions. Names that an expression binds itself come before those of its scope:
assignments stay bound behind it, and the items of a comprehension only inside.
-/

namespace WireModel

/-- What an expression is evaluated in: where its names are looked up, what a text stands for that
is evaluated on the way, and what a call of a function gives that an expression has made. -/
structure Setting where
  scope : Scope
  onText : Locals → String → Building HostType
  onFunction : Nat → CallArguments → Building HostType

/-- What an expression is to a comprehension. -/
inductive SourceRole where
  | none
  /-- The first thing that it walks; the comprehension counts as a function of that name. -/
  | first (label : String)
  /-- Something that it walks for each item of another one. -/
  | next

/-- Where an expression stands: in a comprehension, and in functions, by how the names of those
begin that are made there. -/
structure Position where
  qualifier : String
  role : SourceRole

namespace Position

def outermost : Position :=
  ⟨"", .none⟩

def isInner (position : Position) : Bool :=
  !position.qualifier.isEmpty

/-- What a comprehension walks. -/
def source (position : Position) (kind : Option Container) : Position :=
  let label := match kind with
    | some .list => "<listcomp>"
    | some .set => "<setcomp>"
    | some .map => "<dictcomp>"
    | _ => "<genexpr>"
  { position with role := .first label }

/-- Where the items of a source are evaluated. -/
def around (position : Position) : Position :=
  { position with role := .none }

/-- Inside a comprehension, behind a source. -/
def inside (position : Position) : Position :=
  match position.role with
  | .first label => ⟨position.qualifier ++ label ++ ".", .none⟩
  | _ => position.around

end Position

namespace Expression

/-- The expression gives the items of a comprehension. -/
def isSource : Expression → Bool
  | .each .. => true
  | _ => false

/-- The names that a source and the sources inside it bind. -/
def sourceNames : Expression → List String
  | .each target _ _ inner => boundNames target ++ sourceNames inner
  | _ => []

end Expression

namespace WrittenFunction

/-- The function as its complaints see it. -/
def shape (function : WrittenFunction) : FunctionShape :=
  let ofKind (kind : ParameterKind) : List (String × Option HostType) :=
    (function.parameters.filter (·.1.kind == kind)).map fun (parameter, own) =>
      (parameter.name, own)
  { name := function.name
    hidden := 0
    parameters := ofKind .placed ++ ofKind .plain
    placed := (ofKind .placed).length
    named := ofKind .named
    takesPlaces := !(ofKind .otherPlaces).isEmpty
    takesNames := !(ofKind .otherNames).isEmpty }

/-- The attributes of the function, which was made in a module. -/
def attributes (function : WrittenFunction) (module : Option HostType) : List (String × HostType) :=
  let own (kinds : List ParameterKind) : List (String × HostType) :=
    (function.parameters.filter (kinds.contains ·.1.kind)).filterMap fun (parameter, own) =>
      own.map fun value => (parameter.name, value)
  let placed := own [.placed, .plain]
  let named := own [.named]
  [("__name__", .text "<lambda>"), ("__qualname__", .text function.name),
    ("__module__", module.getD .none), ("__doc__", .none), ("__annotations__", .container .map []),
    ("__dict__", .container .map []), ("__closure__", .none),
    ("__defaults__", if placed.isEmpty then .none else .container .tuple (placed.map (·.2))),
    ("__kwdefaults__", if named.isEmpty then .none else .ofFields named)]

end WrittenFunction

namespace Setting

open Evaluation

/-- What a name stands for: a name that the expression has bound, or one of the scope. -/
def lookUp (setting : Setting) (position : Position) (name : String) : Evaluation HostType := do
  match (← boundValue? position.isInner name).or (setting.scope.find? position.isInner name) with
  | some value => return value
  | none => throw (.unknownName name)

/-- What a call of a value gives. A text may be evaluated in its turn, with the same names. -/
def call (setting : Setting) (target : HostType) (arguments : CallArguments) :
    Evaluation HostType := do
  match target, arguments.places, arguments.named with
  | .builtin (.functionNamed "eval"), [.text content], [] =>
    setting.onText (← getThe Locals).unrestricted content
  | target, _, _ => target.called setting.scope.model setting.onFunction arguments

def context (setting : Setting) : MethodContext :=
  ⟨setting.scope.model, HostType.called setting.scope.model setting.onFunction⟩

/-- Gives a name that an expression has bound another value. -/
def rebind (position : Position) (target : Expression) (value : HostType) : Evaluation Unit := do
  match target with
  | .name identifier =>
    if ((← getThe Locals).place? position.isInner identifier).isSome then
      bindName position.isInner identifier value
  | _ => pure ()

/-- What a call of what an expression has as an attribute gives. A method may change the value that
it is one of, which is then the value of its name. -/
def callAttribute (setting : Setting) (position : Position) (target : Expression)
    (callee : HostType) (arguments : CallArguments) : Evaluation HostType := do
  match callee with
  | .bound receiver owner routine =>
    let (result, changed) ← HostType.callBound setting.context receiver owner routine arguments
    rebind position target changed
    return result
  | callee => setting.call callee arguments

def makeFunction (setting : Setting) (position : Position) (parameters : List Parameter)
    (defaults : List HostType) (body : Expression) : Evaluation HostType := do
  let withOwn := parameters.filter (·.hasDefault)
  let function : WrittenFunction :=
    { name := position.qualifier ++ "<lambda>"
      parameters := parameters.map fun parameter =>
        (parameter, (withOwn.idxOf? parameter).bind fun place => defaults[place]?)
      body := body
      locals := (← getThe Locals).fromInside }
  let serial ← Building.newFunction function
  return .record (.function serial) (function.attributes (setting.scope.find? true "__name__"))

mutual

/-- The value of an expression. Inside a function the module of a record is not seen. -/
def evaluate (setting : Setting) (position : Position) : Expression → Evaluation HostType
  | .name identifier => setting.lookUp position identifier
  | .value type => return type
  | .attribute target name => do
    let target ← evaluate setting position target
    target.getAttribute setting.scope.model name
  | .subscript target (.slice first last step) => do
    let target ← evaluate setting position target
    let first ← evaluate setting position first
    let last ← evaluate setting position last
    let step ← evaluate setting position step
    target.sliced setting.scope.model first last step
  | .subscript target index => do
    let target ← evaluate setting position target
    let index ← evaluate setting position index
    target.indexed setting.scope.model index
  | .slice first last step => do
    let first ← evaluate setting position first
    let last ← evaluate setting position last
    return .sliceValue first last (← evaluate setting position step)
  | .call (.attribute target name) args names named => do
    let value ← evaluate setting position target
    let callee ← value.getAttribute setting.scope.model name
    let text := callee.calleeText setting.scope.model
    let places ← evaluatePlaces setting position text args
    let named ← evaluateNamed setting position text names named
    setting.callAttribute position target callee ⟨places, named⟩
  | .call target args names named => do
    let target ← evaluate setting position target
    let text := target.calleeText setting.scope.model
    let places ← evaluatePlaces setting position text args
    let named ← evaluateNamed setting position text names named
    setting.call target ⟨places, named⟩
  | .unary operator operand => do
    let operand ← evaluate setting position operand
    operand.unaryOperation setting.scope.model operator
  | .binary operator left right => do
    let left ← evaluate setting position left
    let right ← evaluate setting position right
    HostType.binaryOperation setting.scope.model operator left right
  | .both left right => do
    let left ← evaluate setting position left
    if left.isTrue then evaluate setting position right else return left
  | .either left right => do
    let left ← evaluate setting position left
    if left.isTrue then return left else evaluate setting position right
  | .comparison first comparisons rest => do
    let first ← evaluate setting position first
    return .ofBool (← holds setting position first comparisons rest)
  | .conditional test consequent alternative => do
    if (← evaluate setting position test).isTrue then evaluate setting position consequent
    else evaluate setting position alternative
  | .display kind items => do
    HostType.containerOf kind (← evaluateItems setting position kind items)
  | .unpacked item => do throw (.notIterable (← evaluate setting position item).typeName)
  | .assignment name value => do
    let value ← evaluate setting position value
    bindName position.isInner name value
    return value
  | .function parameters defaults body => do
    let defaults ← evaluateItems setting position .tuple defaults
    setting.makeFunction position parameters defaults body
  | .comprehension kind source => do
    let items ← evaluate setting (position.source kind) source
    let items := (items.items? setting.scope.model).getD []
    HostType.containerOf (kind.getD (.stream "generator")) items
  | .each target items conditions inner => do
    let items ← evaluate setting position.around items
    let items ← items.walked setting.scope.model
    let inside := position.inside
    let before ← getThe Locals
    if let .first _ := position.role then
      set before.fromInside
      (Expression.boundNames target ++ inner.sourceNames).eraseDups.forM fun name =>
        discard (declare name .own none)
    let isNested := inner.isSource
    let results ← items.foldlM (fun results item => do
      bindTarget setting.scope.model target item
      if ← allHold setting inside conditions then
        let value ← evaluate setting
          (if isNested then { inside with role := .next } else inside) inner
        if isNested then
          return results ++ (value.items? setting.scope.model).getD []
        else return results ++ [value]
      else return results) ([] : List HostType)
    set before
    return .container .list results
  | .formatted parts => do
    let parts ← evaluateItems setting position .list parts
    return .text (String.join (parts.map HostType.written))
  | .field conversion value spec => do
    let value ← evaluate setting position value
    let spec ← evaluate setting position spec
    return .text (← value.inField conversion spec.written)

/-- The values of some expressions, with the items of those that are unpacked. -/
def evaluateItems (setting : Setting) (position : Position) (kind : Container) :
    List Expression → Evaluation (List HostType)
  | [] => return []
  | .unpacked item :: rest => do
    let value ← evaluate setting position item
    let items ←
      match kind, value, value.items? setting.scope.model with
      | .map, .container .map pairs, _ => pure pairs
      | .map, value, _ =>
        throw (.wrongOperands ("'" ++ value.typeName ++ "' object is not a mapping"))
      | _, _, some items => pure items
      | _, value, none => throw (.notIterable value.typeName)
    return items ++ (← evaluateItems setting position kind rest)
  | item :: rest => do
    let value ← evaluate setting position item
    return value :: (← evaluateItems setting position kind rest)

def evaluatePlaces (setting : Setting) (position : Position) (callee : String) :
    List Expression → Evaluation (List HostType)
  | [] => return []
  | .unpacked item :: rest => do
    let value ← evaluate setting position item
    match value.items? setting.scope.model with
    | some items => return items ++ (← evaluatePlaces setting position callee rest)
    | none =>
      throw (.wrongOperands (callee ++ " argument after * must be an iterable, not " ++
        value.typeName))
  | item :: rest => do
    let value ← evaluate setting position item
    return value :: (← evaluatePlaces setting position callee rest)

/-- The arguments of a call by name. An empty name unpacks a map. -/
def evaluateNamed (setting : Setting) (position : Position) (callee : String) :
    List String → List Expression → Evaluation (List (String × HostType))
  | "" :: names, item :: rest => do
    let value ← evaluate setting position item
    match value with
    | .container .map pairs =>
      let entries ← pairs.mapM fun pair =>
        match pair.keyOf.asText? with
        | some name => (return (name, pair.valueOf) : Evaluation (String × HostType))
        | none => throw (.wrongOperands "keywords must be strings")
      return entries ++ (← evaluateNamed setting position callee names rest)
    | value =>
      throw (.wrongOperands (callee ++ " argument after ** must be a mapping, not " ++
        value.typeName))
  | name :: names, item :: rest => do
    let value ← evaluate setting position item
    return (name, value) :: (← evaluateNamed setting position callee names rest)
  | _, _ => return []

/-- All comparisons of a chain hold; those behind one that does not are not looked at. -/
def holds (setting : Setting) (position : Position) (left : HostType) :
    List Comparison → List Expression → Evaluation Bool
  | comparison :: comparisons, right :: rest => do
    let right ← evaluate setting position right
    if ← HostType.compared setting.scope.model comparison left right then
      holds setting position right comparisons rest
    else return false
  | _, _ => return true

/-- All conditions of a comprehension are true. -/
def allHold (setting : Setting) (position : Position) : List Expression → Evaluation Bool
  | [] => return true
  | condition :: rest => do
    if (← evaluate setting position condition).isTrue then allHold setting position rest
    else return false

end

/-- The value of a whole expression, which assigns names of its scope. -/
def evaluateWhole (setting : Setting) (expression : Expression) : Evaluation HostType := do
  declareAssigned setting.scope expression
  evaluate setting .outermost expression

/-- The value of the expression that a text holds, where some names are bound; blanks in front of it
do not count. -/
def evaluateText (setting : Setting) (locals : Locals) (text : String) : Building HostType := do
  let source := (text.dropWhile fun c => c == ' ' || c == '\t').toString
  match Expression.parse? source with
  | none => throw (.operation .brokenText "invalid syntax (<string>, line 1)")
  | some expression => (setting.evaluateWhole expression).run' locals

/-- What a call of a function gives that an expression has made. -/
def applyFunction (setting : Setting) (serial : Nat) (arguments : CallArguments) :
    Building HostType := do
  match (← getThe Memory).functions[serial]? with
  | none => throw .missingArgument
  | some function =>
    let values ← function.shape.bind arguments
    let parameters := function.parameters.map (·.1.name)
    let assigned :=
      ((function.body.assignments false).map (·.1)).eraseDups.filter (!parameters.contains ·)
    let evaluated : Evaluation HostType := do
      for (name, value) in parameters.zip values do
        discard (declare name .own (some value))
      assigned.forM fun name => discard (declare name .own none)
      evaluate setting ⟨function.name ++ ".<locals>.", .none⟩ function.body
    evaluated.run' function.locals

end Setting

end WireModel
