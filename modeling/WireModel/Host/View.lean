import WireModel.Error

/-!
A type as the generator sees it: spellings are one, annotations are gone, and a refusal stands for
what is not supported.
-/

namespace WireModel

/-- A type as the generator sees it. -/
inductive View where
  | refused (error : GenerationError)
  | primitive (type : Primitive)
  | list (args : List View)
  | map (args : List View)
  | optional (type : View)
  | box (args : List View)
  | record (ref : ClassRef) (args : List View)
  | enumeration (ref : ClassRef)
  | dataEnum (ref : ClassRef) (args : List View)

/-- The kinds of types. -/
inductive Kind where
  | primitive
  | list
  | map
  | optional
  | box
  | record
  | enumeration
  | dataEnum
  deriving DecidableEq, Repr

def Kind.word : Kind → String
  | .primitive => "primitive"
  | .list => "list"
  | .map => "map"
  | .optional => "optional"
  | .box => "box"
  | .record => "struct"
  | .enumeration => "enum"
  | .dataEnum => "data_enum"

namespace HostType

/-- What a declared class is seen as; `type` is what a refusal shows. -/
def classView (ref : ClassRef) (args : List View) (type : HostType) : View :=
  match ref.category with
  | .enumeration _ => .enumeration ref
  | .dataEnum => .dataEnum ref args
  | .record => .record ref args
  | .opaqueClass => .refused (.unsupportedType type)

mutual

/-- What a type is seen as. -/
def view : HostType → View
  | .annotated base _ => view base
  | .variable name => .refused (.unboundVariable name)
  | .text expression => .refused (.unresolvedReference (.text expression))
  | .reference serial expression => .refused (.unresolvedReference (.reference serial expression))
  | .primitive type => .primitive type
  | .builtin .listForm => .list []
  | .builtin .mapForm => .map []
  | .builtin type => .refused (.unsupportedType (.builtin type))
  | .applied (.list _) args => .list (viewAll args)
  | .applied (.map _) args => .map (viewAll args)
  | .applied .box args => .box (viewAll args)
  | .applied (.declared ref) args => classView ref (viewAll args) (.applied (.declared ref) args)
  | .applied head args => .refused (.unsupportedType (.applied head args))
  | .declared ref => classView ref [] (.declared ref)
  | .union _ [.noneType, type] => .optional (view type)
  | .union _ [type, .noneType] => .optional (view type)
  | .union spelling members => .refused (.unsupportedUnion (.union spelling members))
  | .noneType => .refused (.unsupportedType .noneType)
  | .none => .refused (.unsupportedType .none)
  | .initVar type => .refused (.unsupportedType (.initVar type))
  | .constant value =>
    match value.content? with
    | some (.string _) => .refused (.unresolvedReference (.constant value))
    | _ => .refused (.unsupportedType (.constant value))
  | .container kind items => .refused (.unsupportedType (.container kind items))
  | .record owner attributes => .refused (.unsupportedType (.record owner attributes))
  | .bound receiver owner routine =>
    .refused (.unsupportedType (.bound receiver owner routine))

def viewAll : List HostType → List View
  | [] => []
  | type :: rest => view type :: viewAll rest

end

/-- The types that a type holds: arguments, or the members of a union that are not the absent
value. -/
def parts : HostType → List HostType
  | .annotated base _ => parts base
  | .applied _ args => args
  | .union _ [.noneType, type] => [type]
  | .union _ [type, .noneType] => [type]
  | .union _ members => members
  | _ => []

/-- The name on the wire that annotations around a type give, the innermost first. A renaming to
something other than a text gives none. -/
def wireName? : HostType → Option String
  | .annotated base metadata =>
    let tag : Option (Option HostType) := metadata.findSome? fun
      | .record .rename entries => some (entries.lookup "json_name")
      | _ => Option.none
    match tag with
    | some (some (.text tag)) => some tag
    | some _ => Option.none
    | Option.none => wireName? base
  | _ => Option.none

/-- The note renames what it is attached to. -/
def IsRenaming (note : HostType) : Prop :=
  ∃ entries, note = .record .rename entries

/-- Either nothing in an annotation renames, or there is a first renaming. -/
theorem exists_renaming (metadata : List HostType) :
    (∀ note ∈ metadata, ¬note.IsRenaming) ∨ ∃ before entries after,
      metadata = before ++ .record .rename entries :: after ∧
        ∀ note ∈ before, ¬note.IsRenaming := by
  induction metadata with
  | nil => exact .inl fun note member => nomatch member
  | cons note rest ih =>
    by_cases renames : note.IsRenaming
    · obtain ⟨entries, rfl⟩ := renames
      exact .inr ⟨[], entries, rest, rfl, fun _ member => nomatch member⟩
    · rcases ih with none | ⟨before, entries, after, rfl, none⟩
      · exact .inl (List.forall_mem_cons.mpr ⟨renames, none⟩)
      · exact .inr ⟨note :: before, entries, after, rfl, List.forall_mem_cons.mpr ⟨renames, none⟩⟩

theorem wireName?_inside {base : HostType} {metadata : List HostType}
    (plain : ∀ note ∈ metadata, ¬note.IsRenaming) :
    (annotated base metadata).wireName? = base.wireName? := by
  rw [wireName?, List.findSome?_eq_none_iff.mpr]
  intro note member
  split
  · next entries => exact absurd ⟨entries, rfl⟩ (plain _ member)
  · rfl

theorem wireName?_renamed {base : HostType} {before after : List HostType}
    {entries : List (String × HostType)} (plain : ∀ note ∈ before, ¬note.IsRenaming) :
    (annotated base (before ++ .record .rename entries :: after)).wireName? =
      match entries.lookup "json_name" with
      | some (.text tag) => some tag
      | _ => Option.none := by
  rw [wireName?, List.findSome?_append, List.findSome?_eq_none_iff.mpr]
  · rw [Option.none_or, List.findSome?_cons]
    dsimp only
    rcases entries.lookup "json_name" with _ | value
    · rfl
    · cases value <;> rfl
  · intro note member
    split
    · next entries => exact absurd ⟨entries, rfl⟩ (plain _ member)
    · rfl

end HostType

/-- The identity of a type: its declaring name and the identities of its arguments. -/
inductive Identity where
  | node (name : String) (args : List Identity)
  deriving Inhabited

namespace Identity

mutual

def decEq : (a b : Identity) → Decidable (a = b)
  | .node m as, .node n bs =>
    match decEqList as bs with
    | isTrue same => decidable_of_iff (m = n) (by simp [same])
    | isFalse differ => isFalse (by simp [differ])

def decEqList : (as bs : List Identity) → Decidable (as = bs)
  | [], [] => isTrue rfl
  | [], _ :: _ => isFalse (by simp)
  | _ :: _, [] => isFalse (by simp)
  | a :: as, b :: bs =>
    match decEq a b, decEqList as bs with
    | isTrue head, isTrue tail => isTrue (by simp [head, tail])
    | isFalse differ, _ => isFalse (by simp [differ])
    | _, isFalse differ => isFalse (by simp [differ])

end

instance : DecidableEq Identity :=
  decEq

mutual

/-- How many identities stand inside each other at most. -/
def height : Identity → Nat
  | .node _ args => heightOfAll args + 1

def heightOfAll : List Identity → Nat
  | [] => 0
  | identity :: rest => max (height identity) (heightOfAll rest)

end

end Identity

def Primitive.qualifiedName (type : Primitive) : String :=
  (if type.isMarker then "dtogen.host." else "builtins.") ++ type.name

/-- The name of a class with its module; a class without a name is told by its text. -/
def ClassRef.identityName (ref : ClassRef) : String :=
  let name := [ref.qualifiedName, ref.name].find? fun name => !name.isEmpty
  ref.module ++ "." ++ name.getD ref.shown

namespace View

/-- The kind of a type, if it is supported. -/
def kind : View → Except GenerationError Kind
  | .refused error => .error error
  | .primitive _ => .ok .primitive
  | .list _ => .ok .list
  | .map _ => .ok .map
  | .optional _ => .ok .optional
  | .box _ => .ok .box
  | .record .. => .ok .record
  | .enumeration _ => .ok .enumeration
  | .dataEnum .. => .ok .dataEnum

mutual

/-- The identity of a type, if it and all types inside are supported. -/
def identity : View → Except GenerationError Identity
  | .refused error => .error error
  | .primitive type => .ok (.node type.qualifiedName [])
  | .list args => do return .node "builtins.list" (← identityAll args)
  | .map args => do return .node "builtins.dict" (← identityAll args)
  | .optional type => do return .node "typing.Optional" [← identity type]
  | .box args => do return .node "dtogen.host.Box" (← identityAll args)
  | .record ref args => do return .node ref.identityName (← identityAll args)
  | .enumeration ref => .ok (.node ref.identityName [])
  | .dataEnum ref args => do return .node ref.identityName (← identityAll args)

def identityAll : List View → Except GenerationError (List Identity)
  | [] => .ok []
  | type :: rest => do
    let first ← identity type
    return first :: (← identityAll rest)

end

end View

end WireModel
