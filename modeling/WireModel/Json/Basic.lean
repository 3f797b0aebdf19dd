import WireModel.Number.Double

/-!
JSON values: integers are unbounded and apart from floating-point numbers, and an object keeps the
order of its entries.
-/

namespace WireModel

/-- A JSON value. -/
inductive Json where
  | null
  | bool (value : Bool)
  | int (value : Int)
  | float (value : Double)
  | string (value : String)
  | array (items : List Json)
  | object (entries : List (String × Json))
  deriving Inhabited

/-- Binds a key in a list of entries: a known key keeps its place and takes the new value. -/
def bindEntry {α : Type} (entries : List (String × α)) (key : String) (value : α) :
    List (String × α) :=
  if entries.any (·.1 == key) then
    entries.map fun entry => if entry.1 == key then (entry.1, value) else entry
  else
    entries ++ [(key, value)]

namespace Json

/-- The value at a key of an object. -/
def get? (json : Json) (key : String) : Option Json :=
  match json with
  | .object entries => entries.lookup key
  | _ => none

def asText? : Json → Option String
  | .string value => some value
  | _ => none

def asArray? : Json → Option (List Json)
  | .array items => some items
  | _ => none

def texts (items : List String) : Json :=
  .array (items.map .string)

mutual

/-- The values are equal: numbers by their value, truth values as zero and one, objects whatever
the order of their entries. -/
def same (json : Json) : Json → Bool :=
  match json with
  | .null => fun | .null => true | _ => false
  | .bool a => fun
    | .bool b => a == b
    | .int b => (if a then 1 else 0) == b
    | .float b => b.equalInt (if a then 1 else 0)
    | _ => false
  | .int a => fun
    | .bool b => a == (if b then 1 else 0)
    | .int b => a == b
    | .float b => b.equalInt a
    | _ => false
  | .float a => fun
    | .bool b => a.equalInt (if b then 1 else 0)
    | .int b => a.equalInt b
    | .float b => a.equal b || (a == .notANumber && b == .notANumber)
    | _ => false
  | .string a => fun | .string b => a == b | _ => false
  | .array as => fun | .array bs => sameItems as bs | _ => false
  | .object as => fun
    | .object bs => as.length == bs.length && sameEntries as bs
    | _ => false
termination_by structural json

/-- The items are equal, place by place. -/
def sameItems (items : List Json) : List Json → Bool :=
  match items with
  | [] => fun | [] => true | _ :: _ => false
  | a :: as => fun | b :: bs => same a b && sameItems as bs | [] => false
termination_by structural items

/-- Every entry is equal to the one of its key. -/
def sameEntries (entries others : List (String × Json)) : Bool :=
  match entries with
  | [] => true
  | (key, a) :: rest =>
    (match others.lookup key with
    | some b => same a b
    | none => false) && sameEntries rest others
termination_by structural entries

end

end Json

end WireModel
