import WireModel.Host.Expression.Parser
import WireModel.Host.Memory

/-!
Building types from types, by the rules of the host language: unions are flat and without
repetitions, nested annotations are one, and brackets are filled as often as they have parameters.
-/

namespace WireModel

open Text

/-- Who expects one type and complains about several. -/
inductive Expectation where
  | optional
  | union
  | generic
  | annotated
  | classVar
  | reference
  deriving DecidableEq, Repr

def Expectation.text : Expectation → String
  | .optional => "typing.Optional requires a single type."
  | .union => "Union[arg, ...]: each arg must be a type."
  | .generic => "Parameters to generic types must be types."
  | .annotated => "Annotated[t, ...]: t must be a type."
  | .classVar => "typing.ClassVar accepts only single type."
  | .reference => "Forward references must evaluate to types."

namespace HostType

/-- The type of the absent value for the absent value, and a reference for a string annotation. -/
def converted (type : HostType) (allowsClassVar : Bool) : Building HostType :=
  match type, type.asText? with
  | .none, _ => return .noneType
  | _, some expression => do
    discard (Expression.ofText expression)
    return .reference (← Building.newReference allowsClassVar) expression
  | type, Option.none => return type

/-- A type that may stand where one is expected; class variables may in few places. -/
def checkedForm (allowsClassVar : Bool) (expectation : Expectation) (type : HostType) :
    Building HostType := do
  match ← type.converted allowsClassVar with
  | .applied .classVar args =>
    if allowsClassVar then return .applied .classVar args
    else throw (.invalidArgument (shown (.applied .classVar args)))
  | .applied .generic args => throw (.invalidArgument (shown (.applied .generic args)))
  | .builtin .optionalForm => throw (.plainForm "typing.Optional")
  | .builtin .unionForm => throw (.plainForm "typing.Union")
  | .builtin .genericForm => throw (.plainForm "<class 'typing.Generic'>")
  | .container .tuple items =>
    throw (.tupleArgument expectation.text (shown (.container .tuple items)))
  | type => return type

/-- A type that may stand as an argument. -/
def checked (expectation : Expectation) (type : HostType) : Building HostType :=
  type.checkedForm false expectation

theorem converted_present {type result : HostType} {allowsClassVar : Bool} {before after : Memory}
    (read : type.asText? = Option.none)
    (built : (type.converted allowsClassVar).run.run before = (.ok result, after)) :
    result = type.present := by
  unfold converted at built
  split at built
  · cases built
    rfl
  · rename_i text
    rw [read] at text
    cases text
  · rename_i given _
    cases built
    cases result <;> first | rfl | exact absurd rfl given

theorem checkedForm_present {type result : HostType} {allowsClassVar : Bool}
    {expectation : Expectation} {before after : Memory} (read : type.asText? = Option.none)
    (built : (type.checkedForm allowsClassVar expectation).run.run before = (.ok result, after)) :
    result = type.present := by
  obtain ⟨converted, _, first, rest⟩ := Building.exists_of_bind built
  rw [← converted_present read first]
  split at rest
  · split at rest <;> cases rest
    rfl
  all_goals
    cases rest
  all_goals rfl

/-- Arguments without string annotations stand as they are. -/
theorem mapM_present {step : HostType → Building HostType} {args results : List HostType}
    {before after : Memory} (built : (args.mapM step).run.run before = (.ok results, after))
    (each : ∀ arg ∈ args, ∀ {before after : Memory} {result : HostType},
      (step arg).run.run before = (.ok result, after) → result = arg.present) :
    results = args.map present := by
  induction args generalizing before results with
  | nil =>
    cases built
    rfl
  | cons arg rest ih =>
    rw [List.mapM_cons] at built
    obtain ⟨first, _, here, built⟩ := Building.exists_of_bind built
    obtain ⟨others, _, behind, last⟩ := Building.exists_of_bind built
    cases last
    rw [each arg (List.mem_cons_self ..) here,
      ih behind fun other later => each other (List.mem_cons_of_mem _ later)]
    rfl

/-- Refuses types that cannot stand in a set. -/
def checkHashable (types : List HostType) : Except Fault Unit :=
  match unhashableIn? types with
  | some typeName => .error (.unhashable typeName)
  | Option.none => .ok ()

/-- The qualified union of some types, where it was not built before. -/
def freshUnion (types : List HostType) : Building HostType := do
  if types.isEmpty then throw .emptyUnion
  let types ← types.mapM (checked .union)
  checkHashable types
  return unite .qualified types

theorem freshUnion_gives {types : List HostType} {isTuple : Bool} {before after : Memory}
    {type : HostType} (built : (freshUnion types).run.run before = (.ok type, after)) :
    Construction.Gives ⟨.builtin .unionForm, types, isTuple⟩ type := by
  intro read
  rw [freshUnion] at built
  split at built
  · obtain ⟨_, _, refused, -⟩ := Building.exists_of_bind built
    cases refused
  · obtain ⟨checked, _, each, rest⟩ := Building.exists_of_bind built
    obtain ⟨⟨⟩, _, -, last⟩ := Building.exists_of_bind rest
    cases last
    rw [mapM_present each fun arg member => checkedForm_present (read arg member)]

/-- The qualified union of some types. The flag says that they were written as a tuple. -/
def unionOf (types : List HostType) (isTuple : Bool) : Building HostType :=
  Building.once ⟨.builtin .unionForm, types, isTuple⟩ (freshUnion types) freshUnion_gives

/-- How a type takes part in a union with a bar. -/
inductive BarRole where
  /-- Classes and native forms make a native union. -/
  | native
  /-- Qualified forms make a qualified union with anything. -/
  | qualified
  /-- The absent value unites with either. -/
  | absent
  /-- Anything else unites only with qualified forms. -/
  | other
  deriving DecidableEq

def barRole : HostType → BarRole
  | .primitive type => if type.isMarker then .qualified else .native
  | .declared _ | .noneType => .native
  | .builtin type =>
    match type with
    | .functionNamed _ | .renameFunction => .other
    | .listForm | .mapForm | .optionalForm | .unionForm | .classVarForm => .qualified
    | _ => .native
  | .none => .absent
  | .variable _ | .reference .. | .annotated .. => .qualified
  | .text _ | .initVar _ | .constant _ | .container .. | .record .. | .bound .. => .other
  | .applied head _ => if head.isNative then .native else .qualified
  | .union .native _ => .native
  | .union .qualified _ => .qualified

/-- The union of two types with a bar. -/
def bar (left right : HostType) : Building HostType :=
  match left.barRole, right.barRole with
  | .native, .native => return unite .native [left, right]
  | .native, .absent => return unite .native [left, .noneType]
  | .absent, .native => return unite .native [.noneType, right]
  | .qualified, _ | _, .qualified => unionOf [left, right] true
  | _, _ => throw (.unsupportedUnion left.typeName right.typeName)

/-- The union of several types with bars, from the left. -/
def bars : List HostType → Building HostType
  | [] => throw .emptyUnion
  | first :: rest => rest.foldlM bar first

def shownTuple (types : List HostType) : String :=
  shown (.container .tuple types)

/-- Puts arguments into brackets behind what takes a fixed number of them. -/
def fill (head : Head) (target : String) (expected : Nat) (args : List HostType) :
    Except Fault HostType :=
  if args.length = expected then .ok (.applied head args)
  else .error (.argumentCount target args.length expected)

/-- Puts type variables into the brackets that make a class generic. -/
def ofVariables (args : List HostType) : Building HostType := do
  let args ← args.mapM (·.converted false)
  if args.isEmpty then throw .noVariables
  let names := args.filterMap fun
    | .variable name => some name
    | _ => Option.none
  if names.length < args.length then throw .notAllVariables
  if names.eraseDups.length < names.length then throw .repeatedVariables
  return .applied .generic args

/-- The values of a literal type, each once, unless there are some that cannot stand in a set. -/
def distinctLiterals (values : List HostType) : List HostType :=
  if (unhashableIn? values).isSome then values
  else values.foldl (fun known value =>
    if literalsContain known value then known else known ++ [value]) []

/-- The built-in classes that take any arguments, besides lists and maps. -/
def builtinGenerics : List String :=
  ["tuple", "set", "frozenset", "type", "enumerate", "BaseExceptionGroup", "ExceptionGroup"]

theorem fill_gives {head : Head} {target : String} {expected : Nat} {args : List HostType}
    {type : HostType}
    (filled : fill head target expected args = .ok type) : type = .applied head args := by
  unfold fill at filled
  split at filled <;> cases filled
  rfl

/-- A declared class with arguments for its type parameters, where it was not built before. -/
def freshInstance (ref : ClassRef) (args : List HostType) : Building HostType := do
  let args ← args.mapM (·.converted false)
  if ref.parameters.isEmpty then throw (.notGeneric ref.shown)
  fill (.declared ref) ref.shown ref.parameters.length args

theorem freshInstance_gives {ref : ClassRef} {args : List HostType} {isTuple : Bool}
    {before after : Memory}
    {type : HostType} (built : (freshInstance ref args).run.run before = (.ok type, after)) :
    Construction.Gives ⟨.declared ref, args, isTuple⟩ type := by
  intro read
  obtain ⟨converted, _, each, rest⟩ := Building.exists_of_bind built
  obtain rfl := mapM_present each fun arg member => converted_present (read arg member)
  split at rest
  · obtain ⟨_, _, refused, -⟩ := Building.exists_of_bind rest
    cases refused
  · rcases filled : fill (.declared ref) ref.shown ref.parameters.length (args.map present) with
      fault | made
    · rw [filled] at rest
      cases rest
    · rw [filled] at rest
      cases rest
      exact fill_gives filled

/-- Puts arguments into brackets behind a declared class. -/
def subscriptClass (ref : ClassRef) (args : List HostType) (isTuple : Bool) :
    Building HostType := do
  match ref.category, ref.brackets with
  | .enumeration _, _ =>
    let key :=
      match args, isTuple with
      | [key], false => key
      | _, _ => .container .tuple args
    checkHashable [key]
    throw (.unknownMember key.shown)
  | _, .none => throw (.classNotSubscriptable ref.name)
  | _, .anyNumber => return .applied (.declared ref) args
  | _, .parameters =>
    Building.once ⟨.declared ref, args, isTuple⟩ (freshInstance ref args) freshInstance_gives

/-- Puts arguments into brackets behind a qualified form. -/
def subscriptForm (type : Builtin) (args : List HostType) (isTuple : Bool) : Building HostType := do
  match type with
  | .listForm => fill (.list .qualified) "typing.List" 1 (← args.mapM (checked .generic))
  | .mapForm => fill (.map .qualified) "typing.Dict" 2 (← args.mapM (checked .generic))
  | .optionalForm =>
    match args, isTuple with
    | [type], false => unionOf [← type.checked .optional, .noneType] true
    | _, _ => throw (.tupleArgument Expectation.optional.text (shownTuple args))
  | .classVarForm =>
    match args, isTuple with
    | [type], false => return .applied .classVar [← type.checked .classVar]
    | _, _ => throw (.tupleArgument Expectation.classVar.text (shownTuple args))
  | .annotatedForm =>
    match args with
    | type :: note :: notes => (← type.checkedForm true .annotated).withMetadata (note :: notes)
    | _ => throw .annotationMissing
  | .genericForm => ofVariables args
  | .box => fill .box "<class 'dtogen.host.Box'>" 1 (← args.mapM (·.converted false))
  | type => throw (.notSubscriptable (typeName (.builtin type)))

theorem subscriptForm_gives {form : Builtin} {args : List HostType} {isTuple : Bool}
    {before after : Memory}
    {type : HostType} (built : (subscriptForm form args isTuple).run.run before =
      (.ok type, after)) :
    Construction.Gives ⟨.builtin form, args, isTuple⟩ type := by
  cases form with
  | unionForm => cases built
  | box =>
    intro read
    obtain ⟨converted, _, each, rest⟩ := Building.exists_of_bind built
    obtain rfl := mapM_present each fun arg member => converted_present (read arg member)
    rcases filled : fill .box "<class 'dtogen.host.Box'>" 1 (args.map present) with fault | made
    · rw [filled] at rest
      cases rest
    · rw [filled] at rest
      cases rest
      exact fill_gives filled
  | annotatedForm =>
    match args with
    | [] => trivial
    | [base] => cases built
    | base :: note :: notes =>
      intro read
      obtain ⟨checked, _, first, rest⟩ := Building.exists_of_bind built
      obtain rfl := checkedForm_present read first
      rcases attached : base.present.withMetadata (note :: notes) with fault | made
      · rw [attached] at rest
        cases rest
      · rw [attached] at rest
        cases rest
        rfl
  | _ => trivial

/-- Puts arguments into brackets behind a name of the host language. -/
def subscriptBuiltin (type : Builtin) (args : List HostType) (isTuple : Bool) :
    Building HostType := do
  match type with
  | .unionForm => unionOf args isTuple
  | .classNamed "list" => return .applied (.list .native) args
  | .classNamed "dict" => return .applied (.map .native) args
  | .classNamed name =>
    if name ∈ builtinGenerics then return .applied (.builtin name) args
    else throw (.classNotSubscriptable name)
  | .any => throw (.classNotSubscriptable "Any")
  | type =>
    Building.once ⟨.builtin type, args, isTuple⟩ (subscriptForm type args isTuple)
      subscriptForm_gives

/-- The type is built anew each time, although brackets stand behind it. -/
def isNativeForm : HostType → Bool
  | .applied head _ => head.isNative
  | .union spelling _ => spelling = .native
  | _ => false

theorem gives_of_freeVariables {target type : HostType} {args : List HostType} {isTuple : Bool}
    (generic : ¬target.freeVariables.isEmpty = true) :
    Construction.Gives ⟨target, args, isTuple⟩ type := by
  cases target <;> trivial

/-- An argument with its type variables replaced, given how that is done inside it. -/
def replaced (bindings : List (String × HostType)) (type : HostType) (inside : Building HostType) :
    Building HostType :=
  let valueOf (name : String) : HostType := (bindings.lookup name).getD (.variable name)
  match type with
  | .variable name => (valueOf name).checked .generic
  | type =>
    let names := type.freeVariables
    if closed : names.isEmpty then return type
    else if type.isNativeForm then inside
    else Building.once ⟨type, names.map valueOf, true⟩ inside fun _ =>
      gives_of_freeVariables closed

mutual

/-- Replaces the type variables in the arguments of a type; unions are built again. -/
def substitute (bindings : List (String × HostType)) : HostType → Building HostType
  | .applied .literal args => return .applied .literal args
  | .applied head args => do return .applied head (← substituteAll bindings args)
  | .union .native members => do bars (← substituteAll bindings members)
  | .union .qualified members => do unionOf (← substituteAll bindings members) true
  | .annotated base metadata => do
    (← replaced bindings base (substitute bindings base)).withMetadata metadata
  | type => return type

/-- Replaces the type variables in some types. -/
def substituteAll (bindings : List (String × HostType)) : List HostType → Building (List HostType)
  | [] => return []
  | type :: rest => do
    let first ← replaced bindings type (substitute bindings type)
    return first :: (← substituteAll bindings rest)

end

/-- Puts arguments behind a type that has brackets already: they replace its type variables. -/
def reapply (type : HostType) (args : List HostType) : Building HostType := do
  if let .applied .generic _ := type then throw (.appliedTwice type.shown)
  let names := type.freeVariables
  if names.isEmpty then throw (.notGeneric type.shown)
  let args ← args.mapM (·.converted false)
  if args.length != names.length then throw (.argumentCount type.shown args.length names.length)
  type.substitute (names.zip args)

/-- Puts arguments into brackets behind a type. The flag says that they were written as a tuple. -/
def subscript (target : HostType) (args : List HostType) (isTuple : Bool) : Building HostType := do
  match shape : target with
  | .builtin type => subscriptBuiltin type args isTuple
  | .declared ref => subscriptClass ref args isTuple
  | .applied .. | .union .. | .annotated .. =>
    if target.isNativeForm then target.reapply args
    else
      Building.once ⟨target, args, isTuple⟩ (target.reapply args) fun _ => by subst shape; trivial
  | .primitive type =>
    throw (if type.isMarker then .notSubscriptable "NewType" else .classNotSubscriptable type.name)
  | .noneType => throw (.classNotSubscriptable "NoneType")
  | .text _ =>
    throw (.stringIndex (match args, isTuple with
      | [key], false => key.typeName
      | _, _ => "tuple"))
  | .none | .variable _ | .reference .. | .initVar _ | .constant _ | .container .. | .record ..
  | .bound .. =>
    throw (.notSubscriptable target.typeName)

def optional (type : HostType) : Building HostType :=
  subscript (.builtin .optionalForm) [type] false

def annotate (type : HostType) (metadata : List HostType) : Building HostType :=
  subscript (.builtin .annotatedForm) (type :: metadata) true

/-- Puts arguments into the brackets of a type that had others there: lists and maps take the native
spelling. -/
def rebuild (head : Head) (args : List HostType) : Building HostType :=
  let isTuple : Bool := 1 < args.length
  match head with
  | .list _ => return .applied (.list .native) args
  | .map _ => return .applied (.map .native) args
  | .builtin name => return .applied (.builtin name) args
  | .literal => return .applied .literal (distinctLiterals args)
  | .box => subscript (.builtin .box) args isTuple
  | .declared ref => subscript (.declared ref) args isTuple
  | .classVar => subscript (.builtin .classVarForm) args isTuple
  | .generic => subscript (.builtin .genericForm) args isTuple

end HostType

end WireModel
