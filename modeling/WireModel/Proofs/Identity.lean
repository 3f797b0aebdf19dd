import WireModel.Host.Model
import WireModel.Host.View
import WireModel.Proofs.Outcome
import WireModel.Proofs.Search

/-!
What the identity of a type tells: where the names of the classes are apart, it tells how the type
is seen. Types of one identity differ in annotations and spellings only.
-/

namespace WireModel

namespace HostType

theorem viewAll_eq_map (types : List HostType) : viewAll types = types.map view := by
  induction types with
  | nil => rfl
  | cons type rest ih => rw [viewAll, ih, List.map_cons]

theorem view_optional (spelling : Spelling) (part : HostType) :
    view (.union spelling [part, .noneType]) = .optional part.view := by
  by_cases absent : part = .noneType
  · rw [absent, view]
  · rw [view]
    exact absent

/-- What a type is seen as, in terms of its parts. -/
inductive Sight (parts : List HostType) : View → Prop
  | refused {error : GenerationError} : Sight parts (.refused error)
  | primitive {shown : Primitive} : Sight parts (.primitive shown)
  | list : Sight parts (.list (parts.map view))
  | map : Sight parts (.map (parts.map view))
  | optional {part : HostType} : parts = [part] → Sight parts (.optional part.view)
  | box : Sight parts (.box (parts.map view))
  | record {ref : ClassRef} : ref.category = .record → Sight parts (.record ref (parts.map view))
  | enumeration {ref : ClassRef} {base : EnumBase} :
      ref.category = .enumeration base → Sight parts (.enumeration ref)
  | dataEnum {ref : ClassRef} :
      ref.category = .dataEnum → Sight parts (.dataEnum ref (parts.map view))

theorem sight_class (ref : ClassRef) (parts : List HostType) (type : HostType) :
    Sight parts (classView ref (parts.map view) type) := by
  unfold classView
  split
  case h_1 isEnumeration => exact .enumeration isEnumeration
  case h_2 isDataEnum => exact .dataEnum isDataEnum
  case h_3 isRecord => exact .record isRecord
  case h_4 => exact .refused

/-- Each type is seen in terms of its parts. -/
theorem sight (type : HostType) : Sight type.parts type.view := by
  fun_induction parts type with
  | case1 base metadata ih => rwa [view]
  | case2 head args =>
    cases head <;> simp only [view, viewAll_eq_map]
    case list => exact .list
    case map => exact .map
    case box => exact .box
    case declared ref => exact sight_class ref args _
    all_goals exact .refused
  | case3 spelling part =>
    rw [view]
    exact .optional rfl
  | case4 spelling part present =>
    rw [view]
    · exact .optional rfl
    · exact present
  | case5 spelling members first second =>
    rw [view]
    · exact .refused
    · exact first
    · exact second
  | case6 type unannotated unapplied first second united =>
    clear first second
    cases type
    case primitive => exact .primitive
    case declared ref => exact sight_class ref [] _
    case builtin form => cases form <;> constructor
    case applied head args => exact (unapplied head args rfl).elim
    case union spelling members => exact (united spelling members rfl).elim
    case annotated base metadata => exact (unannotated base metadata rfl).elim
    case constant value =>
      rw [view]
      split <;> exact .refused
    all_goals exact .refused

end HostType

/-- What the parts of a type are seen as, if the view keeps them. -/
def View.args? : View → Option (List View)
  | .list args | .map args | .box args | .record _ args | .dataEnum _ args => some args
  | .optional type => some [type]
  | .refused _ | .primitive _ | .enumeration _ => none

theorem HostType.view_parts {type : HostType} {args : List View}
    (kept : type.view.args? = some args) :
    type.parts.map view = args := by
  have sight := type.sight
  generalize type.view = shown at kept sight
  cases sight with
  | refused => cases kept
  | primitive => cases kept
  | enumeration _ => cases kept
  | optional single =>
    rw [single]
    exact Option.some.inj kept
  | _ => exact Option.some.inj kept

theorem HostType.map_view_parts {type other : HostType} (same : type.view = other.view)
    {args : List View} (kept : type.view.args? = some args) :
    type.parts.map view = other.parts.map view := by
  rw [view_parts kept, view_parts (same ▸ kept)]

/-- The class that a type is seen as. -/
def View.class? : View → Option ClassRef
  | .record ref _ | .enumeration ref | .dataEnum ref _ => some ref
  | _ => none

/-- The class stands in a type, at whatever depth. -/
inductive HostType.Mentions : HostType → ClassRef → Prop
  | self {type : HostType} {ref : ClassRef} : type.view.class? = some ref → Mentions type ref
  | part {type part : HostType} {ref : ClassRef} :
      part ∈ type.parts → Mentions part ref → Mentions type ref

def Identity.languageNames : List String :=
  ["builtins.list", "builtins.dict", "typing.Optional", "dtogen.host.Box"] ++
    Primitive.all.map Primitive.qualifiedName

namespace Model

variable {model : Model}

/-- The full names of the classes of a model are apart from each other and from those of the
language. -/
structure NamesApart (model : Model) : Prop where
  distinct : (model.classes.map fun declared => declared.ref.identityName).Nodup
  foreign : ∀ declared ∈ model.classes, declared.ref.identityName ∉ Identity.languageNames

/-- The classes that stand in a type are declared. -/
def Declares (model : Model) (type : HostType) : Prop :=
  ∀ ref, type.Mentions ref → ∃ declared ∈ model.classes, declared.ref = ref

theorem Declares.part {type part : HostType} (declares : model.Declares type)
    (member : part ∈ type.parts) : model.Declares part :=
  fun ref mentions => declares ref (.part member mentions)

end Model

namespace View

/-- What a declared class is seen as with arguments. -/
def ofClass? (ref : ClassRef) (args : List View) : Option View :=
  match ref.category with
  | .record => some (.record ref args)
  | .enumeration _ => some (.enumeration ref)
  | .dataEnum => some (.dataEnum ref args)
  | .opaqueClass => none

mutual

/-- What a type of an identity is seen as, given the declared classes. -/
def ofIdentity? (classes : List ClassRef) : Identity → Option View
  | .node name args => do
    match Primitive.all.find? (·.qualifiedName == name) with
    | some shown => return .primitive shown
    | none =>
      let args ← ofIdentities? classes args
      if name = "builtins.list" then return .list args
      else if name = "builtins.dict" then return .map args
      else if name = "typing.Optional" then args.head?.map .optional
      else if name = "dtogen.host.Box" then return .box args
      else ofClass? (← classes.find? (·.identityName == name)) args

/-- What types of some identities are seen as. -/
def ofIdentities? (classes : List ClassRef) : List Identity → Option (List View)
  | [] => some []
  | identity :: rest => do return (← ofIdentity? classes identity) :: (← ofIdentities? classes rest)

end

variable {model : Model}

theorem identityAll_ok {types : List View} {identities : List Identity} :
    identityAll types = .ok identities ↔
      List.Forall₂ (fun type identity => type.identity = .ok identity) types identities := by
  induction types generalizing identities with
  | nil => simp [identityAll, eq_comm]
  | cons type rest ih =>
    simp only [identityAll, Outcome.bind_ok, Outcome.pure_ok, List.forall₂_cons_left_iff, ih]
    constructor
    · rintro ⟨first, found, others, same, rfl⟩
      exact ⟨first, others, found, same, rfl⟩
    · rintro ⟨first, others, found, same, rfl⟩
      exact ⟨first, found, others, same, rfl⟩

/-- An identity with arguments is made of theirs. -/
theorem node_ok {head name : String} {args : List View} {identities : List Identity}
    (found : (do return Identity.node head (← identityAll args)) =
      (.ok (.node name identities) : Except GenerationError Identity)) :
    name = head ∧ identityAll args = .ok identities := by
  obtain ⟨_, found, same⟩ := Outcome.bind_ok.mp found
  cases same
  exact ⟨rfl, found⟩

theorem ofIdentity?_primitive (classes : List ClassRef) (shown : Primitive) :
    ofIdentity? classes (.node shown.qualifiedName []) = some (.primitive shown) := by
  cases shown <;> rfl

theorem ofIdentity?_class (apart : model.NamesApart) {declared : ClassDecl}
    (member : declared ∈ model.classes) {identities : List Identity} {args : List View}
    (told : ofIdentities? (model.classes.map ClassDecl.ref) identities = some args) :
    ofIdentity? (model.classes.map ClassDecl.ref) (.node declared.ref.identityName identities) =
      ofClass? declared.ref args := by
  have foreign := apart.foreign declared member
  simp only [Identity.languageNames, List.cons_append, List.nil_append, List.mem_cons, not_or]
    at foreign
  obtain ⟨noList, noMap, noOptional, noBox, noPrimitive⟩ := foreign
  have unlike : Primitive.all.find? (·.qualifiedName == declared.ref.identityName) = none := by
    simpa [List.find?_eq_none] using noPrimitive
  have found : (model.classes.map ClassDecl.ref).find?
      (·.identityName == declared.ref.identityName) = some declared.ref := by
    refine Search.find?_unique (List.mem_map_of_mem member) (by simp) ?_
    intro other inside same
    obtain ⟨otherDeclared, known, rfl⟩ := List.mem_map.mp inside
    rw [Search.eq_of_key apart.distinct member known (by simpa using same)]
  simp [ofIdentity?, unlike, told, noList, noMap, noOptional, noBox, found]

mutual

/-- An identity tells how its types are seen. -/
theorem ofIdentity?_view (apart : model.NamesApart) :
    ∀ (identity : Identity) {type : HostType}, model.Declares type →
      type.view.identity = .ok identity →
      ofIdentity? (model.classes.map ClassDecl.ref) identity = some type.view
  | .node name identities, type, declares, identified => by
    have inside : ∀ part ∈ type.parts, model.Declares part := fun _ member => declares.part member
    have parts (found : identityAll (type.parts.map HostType.view) = .ok identities) :
        ofIdentities? (model.classes.map ClassDecl.ref) identities =
          some (type.parts.map HostType.view) := ofIdentities?_view apart identities inside found
    have known (ref : ClassRef) : type.view.class? = some ref →
        ∃ declared ∈ model.classes, declared.ref = ref := fun same => declares ref (.self same)
    have sight := type.sight
    generalize type.view = shown at identified sight known
    cases sight with
    | refused => cases identified
    | primitive =>
      cases identified
      exact ofIdentity?_primitive _ _
    | list =>
      obtain ⟨rfl, found⟩ := node_ok identified
      rw [ofIdentity?, parts found]
      rfl
    | map =>
      obtain ⟨rfl, found⟩ := node_ok identified
      rw [ofIdentity?, parts found]
      rfl
    | box =>
      obtain ⟨rfl, found⟩ := node_ok identified
      rw [ofIdentity?, parts found]
      rfl
    | optional single =>
      simp only [identity, Outcome.bind_ok, Outcome.pure_ok] at identified
      obtain ⟨_, found, same⟩ := identified
      cases same
      rw [single] at parts
      rw [ofIdentity?, parts (identityAll_ok.mpr (.cons found .nil))]
      rfl
    | record isRecord =>
      obtain ⟨rfl, found⟩ := node_ok identified
      obtain ⟨declared, member, rfl⟩ := known _ rfl
      rw [ofIdentity?_class apart member (parts found), ofClass?, isRecord]
    | enumeration isEnumeration =>
      cases identified
      obtain ⟨declared, member, rfl⟩ := known _ rfl
      rw [ofIdentity?_class apart member rfl, ofClass?, isEnumeration]
    | dataEnum isDataEnum =>
      obtain ⟨rfl, found⟩ := node_ok identified
      obtain ⟨declared, member, rfl⟩ := known _ rfl
      rw [ofIdentity?_class apart member (parts found), ofClass?, isDataEnum]

/-- Some identities tell how their types are seen. -/
theorem ofIdentities?_view (apart : model.NamesApart) :
    ∀ (identities : List Identity) {types : List HostType}, (∀ type ∈ types, model.Declares type) →
      identityAll (types.map HostType.view) = .ok identities →
      ofIdentities? (model.classes.map ClassDecl.ref) identities = some (types.map HostType.view)
  | [], types, declares, identified => by
    cases types with
    | nil => rfl
    | cons type rest => cases identityAll_ok.mp identified
  | identity :: others, types, declares, identified => by
    cases types with
    | nil => cases identityAll_ok.mp identified
    | cons type rest =>
      obtain ⟨first, later⟩ := List.forall_mem_cons.mp declares
      obtain ⟨found, remaining⟩ := List.forall₂_cons.mp (identityAll_ok.mp identified)
      rw [ofIdentities?, ofIdentity?_view apart identity first found,
        ofIdentities?_view apart others later (identityAll_ok.mpr remaining)]
      rfl

end

end View

/-- Types of one identity are seen alike. -/
theorem Model.NamesApart.view_eq {model : Model} (apart : model.NamesApart) {type other : HostType}
    {identity : Identity} (declares : model.Declares type) (declaresOther : model.Declares other)
    (first : type.view.identity = .ok identity) (second : other.view.identity = .ok identity) :
    type.view = other.view := by
  have told := View.ofIdentity?_view apart identity declares first
  rw [View.ofIdentity?_view apart identity declaresOther second] at told
  exact (Option.some.inj told).symm

end WireModel
