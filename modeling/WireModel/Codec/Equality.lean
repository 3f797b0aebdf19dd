import WireModel.Codec.Class
import WireModel.Codec.Language

/-!
Equality of values: numbers are equal by their value, instances of one class by their parts,
constants only to themselves. Where a value stands inside another one, or as a key, it also equals
itself, which of all plain values only what is no number does not do by its value.

A class that is called like something that its own equality uses breaks it.
-/

namespace WireModel.Codec

/-- What a class says of an instance and another value. -/
inductive Verdict where
  /-- They are equal if their parts are. -/
  | byParts
  | answer (areEqual : Bool)
  | fault (kind : FaultKind)

namespace Value

/-- The number that a truth value counts as. -/
def ofBool (value : Bool) : Int :=
  if value then 1 else 0

/-- The value may stand where a class is asked for. -/
def isClasses : Value → Bool
  | .type _ => true
  | .tuple items => items.all fun item => match item.content with | .type _ => true | _ => false
  | _ => false

def recordVerdict? (path : ClassPath) (attributes : List (String × Value)) (other : Value) :
    Option Verdict :=
  if path.hides "type" then some (.fault .wrongType)
  else if path.hides "isinstance" then
    if path = .top "isinstance" ∧ attributes.length < 2 then some (.fault .wrongType)
    else some .byParts
  else
    match other with
    | .record owner _ =>
      if owner = path then some .byParts
      else if path.hides "NotImplemented" then some (.answer true)
      else none
    | _ => if path.hides "NotImplemented" then some (.answer true) else none

/-- What a data enum says. -/
def choiceVerdict? (owner : String) (other : Value) : Option Verdict :=
  if !reachesItself owner then some (.fault .unknownName)
  else if owner = "self" then some (.fault .wrongType)
  else if owner = "other" then if other.isClasses then none else some (.fault .wrongType)
  else if owner = "isinstance" then some .byParts
  else
    match other with
    | .choice known _ _ =>
      if known = owner then some .byParts
      else if owner = "NotImplemented" then some (.answer true)
      else none
    | _ => if owner = "NotImplemented" then some (.answer true) else none

/-- What the class of a value says of it and another value, if it decides at all. -/
def verdict? (value other : Value) : Option Verdict :=
  match value with
  | .record path attributes => recordVerdict? path attributes other
  | .choice owner _ _ => choiceVerdict? owner other
  | _ => none

/-- What follows for a value of another kind from what the class of an instance says. -/
def decided : Option Verdict → Except CodecError Bool
  | none => .ok false
  | some .byParts => .error (.fault .missingAttribute)
  | some (.answer areEqual) => .ok areEqual
  | some (.fault kind) => .error (.fault kind)

/-- The attributes that the equality of one of two records asks for are there in both. -/
def haveAttributes (asked others : List (String × Value)) : Bool :=
  asked.all fun (name, part) => part.isSet && ((others.lookup name).map isSet).getD false

/-- The values without parts are equal. -/
def equalPlain (value other : Value) : Bool :=
  match value, other with
  | .null, .null => true
  | .bool a, .bool b => a == b
  | .bool a, .int b => ofBool a == b
  | .bool a, .float b => b.equalInt (ofBool a)
  | .int a, .bool b => a == ofBool b
  | .int a, .int b => a == b
  | .int a, .float b => b.equalInt a
  | .float a, .bool b => a.equalInt (ofBool b)
  | .float a, .int b => a.equalInt b
  | .float a, .float b => a.equal b
  | .text a, .text b => a == b
  | .constant a m _, .constant b n _ => a == b && m == n
  | .type a, .type b => a == b
  | .function a m, .function b n => a == b && m == n
  | value, other =>
    match value.asLanguage?, other.asLanguage? with
    | some a, some b => a.same b
    | _, _ => false

/-- The outcome is that two values are equal. -/
def isYes : Except CodecError Bool → Bool
  | .ok true => true
  | _ => false

mutual

def equal (value : Value) : Value → Except CodecError Bool :=
  match value with
  | .object serial _ .bare => fun other =>
    if other.serial? = some serial then .ok true else decided (other.content.verdict? .bare)
  | .object serial _ (.view (.listed .values) whole) => fun other =>
    if other.serial? = some serial then .ok true
    else decided (other.content.verdict? (.view (.listed .values) whole))
  | .object _ _ content => fun other => equal content other
  | .altered _ base => fun other => equal base other
  | .view .proxy whole => fun other =>
    match other.content with
    | .view .proxy others => equal whole others
    | other => equal whole other
  | .view (.listed part) whole => fun other =>
    match other.setItems? with
    | some others => .ok (equalListed part whole others)
    | none => decided (other.content.verdict? (.view (.listed part) whole))
  | .reference _ _ => fun _ => .error (.fault .tooDeep)
  | .list as => fun other =>
    match other.content with
    | .list bs => if as.length = bs.length then equalItems as bs else .ok false
    | other => decided (other.verdict? (.list as))
  | .tuple as => fun other =>
    match other.content with
    | .tuple bs => equalItems as bs
    | other => decided (other.verdict? (.tuple as))
  | .map as => fun other =>
    match other.content with
    | .map bs => if as.length = bs.length then equalEntries as bs else .ok false
    | other => decided (other.verdict? (.map as))
  | .record path as => fun other =>
    match (verdict? (.record path as) other.content), other.content with
    | some .byParts, .record _ bs =>
      if haveAttributes as bs then equalAttributes as bs else .error (.fault .missingAttribute)
    | some verdict, _ => decided (some verdict)
    | none, other =>
      match other.verdict? (.record path as), other with
      | some .byParts, .record _ bs =>
        if haveAttributes bs as then equalAttributes as bs else .error (.fault .missingAttribute)
      | verdict, _ => decided verdict
  | .choice owner d p => fun other =>
    match ((verdict? (.choice owner d p) other.content).orElse fun _ =>
      other.content.verdict? (.choice owner d p)), other.content with
    | some .byParts, .choice _ e q => do
      if !([d, p, e, q].all isSet) then throw (.fault .missingAttribute)
      if ← (if d.isIdentical e then .ok true else equal d e) then
        if p.isIdentical q then .ok true else equal p q
      else return false
    | verdict, _ => decided verdict
  | .method a m r => fun other =>
    match other.content with
    | .method b n s => .ok (a == b && m == n && r.isIdentical s)
    | other => decided (other.verdict? (.method a m r))
  | value => fun other =>
    if equalPlain value other.content then .ok true
    else decided (other.content.verdict? value)
termination_by structural value

/-- The items are equal, place by place. -/
def equalItems (items : List Value) : List Value → Except CodecError Bool :=
  match items with
  | [] => fun | [] => .ok true | _ :: _ => .ok false
  | a :: as => fun
    | [] => .ok false
    | b :: bs => do
      if ← (if a.isIdentical b then .ok true else equal a b) then equalItems as bs
      else return false
termination_by structural items

/-- For every entry there is an equal one among the others. -/
def equalEntries (entries others : List (Value × Value)) : Except CodecError Bool :=
  match entries with
  | [] => .ok true
  | (key, value) :: rest =>
    match others.find? fun other => key.isIdentical other.1 || isYes (equal key other.1) with
    | none => .ok false
    | some other => do
      if ← (if value.isIdentical other.2 then .ok true else equal value other.2) then
        equalEntries rest others
      else return false
termination_by structural entries

/-- What a map lists of its entries is as many values as there are others, and each of them is
one. -/
def equalListed (part : MapPart) (whole : Value) (others : List Value) : Bool :=
  match whole with
  | .object _ _ content => equalListed part content others
  | .map entries => entries.length == others.length && areListed part entries others
  | _ => false
termination_by structural whole

/-- What a map lists of its entries is among other values. -/
def areListed (part : MapPart) (entries : List (Value × Value)) (others : List Value) : Bool :=
  match entries with
  | [] => true
  | (key, value) :: rest =>
    others.any (fun other =>
      match part, other.content with
      | .keys, _ => key.isIdentical other || isYes (equal key other)
      | _, .tuple [otherKey, part] =>
        (key.isIdentical otherKey || isYes (equal key otherKey)) &&
          (value.isIdentical part || isYes (equal value part))
      | _, _ => false) && areListed part rest others
termination_by structural entries

def equalAttributes (attributes others : List (String × Value)) : Except CodecError Bool :=
  match attributes with
  | [] => .ok true
  | (name, value) :: rest =>
    match others.lookup name with
    | none => equalAttributes rest others
    | some other => do
      if ← (if value.isIdentical other then .ok true else equal value other) then
        equalAttributes rest others
      else return false
termination_by structural attributes

end

def sameKey (key other : Value) : Bool :=
  key.isIdentical other || isYes (equal key other)

/-- Binds a key in the entries of a map: a known key keeps its place and takes the new value. -/
def bindKey (entries : List (Value × Value)) (key value : Value) : List (Value × Value) :=
  if entries.any fun entry => entry.1.sameKey key then
    entries.map fun entry => if entry.1.sameKey key then (entry.1, value) else entry
  else
    entries ++ [(key, value)]

def entryAt? (entries : List (Value × Value)) (key : Value) : Option Value :=
  (entries.find? fun entry => entry.1.sameKey key).map (·.2)

end Value

end WireModel.Codec
