import WireModel.Host.Call.Arguments
import WireModel.Host.Operation.Arithmetic

/-!
Calls of declared classes: records are made of values for their fields, and members of enumerations
are looked up by value.
-/

namespace WireModel

namespace HostType

/-- The value in bits, the sign apart from the rest. -/
def signedBits (width : Nat) (value : Int) : String :=
  let digits := Nat.toDigits 2 (if value < 0 then (-value - 1).toNat else value.toNat)
  let flipped := digits.map fun c => if c == '0' then '1' else '0'
  let (sign, digits) := if value < 0 then ('1', flipped) else ('0', digits)
  let digits := if value = 0 then [] else digits
  "0b" ++ String.singleton sign ++ " " ++
    String.ofList (List.replicate (width - digits.length) sign ++ digits)

def flagsOf (model : Model) (ref : ClassRef) (value : Int) : Except Fault HostType :=
  let all := ((model.find? ref).map ClassDecl.memberNames).getD [] |>.foldl (fun all member =>
    match member.value with
    | .int bit => combineBits (· ||| ·) all bit
    | _ => all) 0
  let width := max (bitLength value) (bitLength all)
  let size : Int := Nat.pow 2 (bitLength all)
  if value < -size || size ≤ value || combineBits (· &&& ·) value (size - 1 - all) != 0 then
    .error (.operation .wrongValue (ref.shown ++ " invalid value " ++ toString value ++
      "\n    given " ++ signedBits width value ++ "\n  allowed " ++ signedBits width all))
  else .ok (flagSet model ref (if value < 0 then size + value else value))

def memberOf (model : Model) (ref : ClassRef) (value : HostType) : Except Fault HostType :=
  let missing : Except Fault HostType :=
    .error (.operation .wrongValue (value.shown ++ " is not a valid " ++ ref.qualifiedName))
  let found? := (model.find? ref).bind fun found =>
    (found.memberNames.find? fun member => (ofMemberValue member.value).same value).map
      found.memberValue
  match value, found?, ref.category, value.integer? with
  | .constant (.member owner name content), found?, _, _ =>
    if owner = ref then .ok (.constant (.member owner name content)) else found?.elim missing .ok
  | _, some member, _, _ => .ok member
  | _, Option.none, .enumeration .flags, some value => flagsOf model ref value
  | _, Option.none, _, _ => missing

/-- What tells a call of an enumeration how another one is made, by name only. -/
def extensionOptions : List String :=
  ["module", "qualname", "type", "start", "boundary"]

/-- The class whose way of construction a record has. -/
def constructor? (model : Model) (ref : ClassRef) : Option (ClassDecl × List RecordEntry) :=
  (model.declarations ref).findSome? fun found => found.entries.map fun entries => (found, entries)

/-- An instance of a declared class. -/
def ofDeclared (model : Model) (ref : ClassRef) (arguments : CallArguments) :
    Except Fault HostType :=
  match ref.category, constructor? model ref with
  | .enumeration _, _ => do
    let shape :=
      FunctionShape.plain "EnumType.__call__" 1 [("value", Option.none), ("names", some .none)]
    let named := arguments.named.filter fun (name, _) => name ∉ extensionOptions
    match ← shape.bind { arguments with named := named } with
    | [value, .none] => memberOf model ref value
    | value :: _ =>
      throw (.wrongOperands ("<enum " ++ value.shown ++ "> cannot extend " ++ ref.shown))
    | [] => throw .missingArgument
  | _, some (owner, entries) => do
    let parameters := entries.filter RecordEntry.isParameter
    let shape := FunctionShape.plain (owner.ref.qualifiedName ++ ".__init__") 1
      (parameters.map fun entry => (entry.name, entry.default))
    let values ← shape.bind arguments
    let bound := (parameters.zip values).filter fun (entry, _) => entry.role == .field
    return .record (.declared ref) (bound.map fun (entry, value) => (entry.name, value))
  | _, Option.none =>
    if arguments.places.isEmpty && arguments.named.isEmpty then
      .ok (.record (.declared ref) [])
    else .error (.wrongOperands (ref.name ++ "() takes no arguments"))

end HostType

end WireModel
