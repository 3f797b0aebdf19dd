/-!
Names with underscores at their ends, which are no ordinary members of a class: `_name_`, `__name__`
and the private names of a class, which begin with its own name.
-/

namespace WireModel.Text

/-- The name has exactly one underscore at each end. -/
def isSunder (name : String) : Bool :=
  match name.toList, name.toList.reverse with
  | '_' :: a :: _ :: _, '_' :: z :: _ => a != '_' && z != '_'
  | _, _ => false

/-- The name has exactly two underscores at each end. -/
def isDunder (name : String) : Bool :=
  match name.toList, name.toList.reverse with
  | '_' :: '_' :: a :: _ :: _ :: _, '_' :: '_' :: z :: _ => a != '_' && z != '_'
  | _, _ => false

/-- The name is a private one of the class: its name between one underscore and two, and more that
does not end in two underscores. -/
def isPrivateOf (className name : String) : Bool :=
  let front := "_" ++ className ++ "__"
  front.toList.isPrefixOf name.toList && front.length < name.length &&
    name.toList.reverse.take 2 != ['_', '_']

/-- A name as it is kept inside a class: one that begins with two underscores and does not end with
two takes the name of the class in front. -/
def mangled (className name : String) : String :=
  let owner := (className.toList.dropWhile (· == '_'))
  match name.toList with
  | '_' :: '_' :: _ =>
    if name.toList.reverse.take 2 == ['_', '_'] || owner.isEmpty then name
    else "_" ++ String.ofList owner ++ name
  | _ => name

end WireModel.Text
