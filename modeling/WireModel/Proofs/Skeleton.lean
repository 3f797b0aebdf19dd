import WireModel.Proofs.Collection.Precedence
import WireModel.Proofs.Collection.Uniform

/-!
Identities are exact. A type without its annotations and in one spelling is its skeleton; two types
that the generator supports have one identity exactly if they have one skeleton.
-/

namespace WireModel

/-- What has an identity has parts that have one. -/
theorem View.identityAll_args {shown : View} {args : List View} (kept : shown.args? = some args)
    {identity : Identity} (known : shown.identity = .ok identity) :
    ∃ identities, identityAll args = .ok identities := by
  cases shown with
  | list | map | box | record | dataEnum =>
    cases kept
    obtain ⟨identities, found, -⟩ := Outcome.bind_ok.mp known
    exact ⟨identities, found⟩
  | optional type =>
    cases kept
    obtain ⟨first, found, -⟩ := Outcome.bind_ok.mp known
    exact ⟨[first], identityAll_ok.mpr (.cons found .nil)⟩
  | refused | primitive | enumeration => cases kept

/-- The native spelling of what stands before brackets. -/
def Head.unspelled : Head → Head
  | .list _ => .list .native
  | .map _ => .map .native
  | head => head

namespace HostType

mutual

/-- What is left of a type without annotations, at whatever depth, and in one spelling: lists, maps
and unions are native, the absent value stands first, and brackets without arguments are as good as
none. -/
def skeleton : HostType → HostType
  | .annotated base _ => skeleton base
  | .builtin .listForm => .applied (.list .native) []
  | .builtin .mapForm => .applied (.map .native) []
  | .declared ref => .applied (.declared ref) []
  | .applied head args => .applied head.unspelled (skeletons args)
  | .union _ [.noneType, type] => .union .native [.noneType, skeleton type]
  | .union _ [type, .noneType] => .union .native [.noneType, skeleton type]
  | .union _ members => .union .native (skeletons members)
  | type => type

def skeletons : List HostType → List HostType
  | [] => []
  | type :: rest => skeleton type :: skeletons rest

end

/-- A type stands in another one, at whatever depth. -/
inductive Contains : HostType → HostType → Prop
  | self {type : HostType} : Contains type type
  | part {type part inner : HostType} :
      part ∈ type.parts → Contains part inner → Contains type inner

/-- No enumeration in the type has arguments. -/
def EnumerationsBare (type : HostType) : Prop :=
  ∀ inner, type.Contains inner → ∀ ref, inner.view = .enumeration ref → inner.parts = []

theorem EnumerationsBare.part {type part : HostType} (bare : type.EnumerationsBare)
    (member : part ∈ type.parts) : part.EnumerationsBare :=
  fun inner contains => bare inner (.part member contains)

theorem EnumerationsBare.base {base : HostType} {metadata : List HostType}
    (bare : (HostType.annotated base metadata).EnumerationsBare) : base.EnumerationsBare := by
  intro inner contains ref seenAs
  cases contains with
  | self => exact bare (.annotated base metadata) .self ref seenAs
  | part member inside => exact bare inner (.part member inside) ref seenAs

/-- A supported union is one of a type and the absent value. -/
theorem pair_of_union {spelling : Spelling} {members : List HostType} {identity : Identity}
    (known : (HostType.union spelling members).view.identity = .ok identity) :
    ∃ type, members = [.noneType, type] ∨ type ≠ .noneType ∧ members = [type, .noneType] := by
  by_cases first : ∃ type, members = [.noneType, type]
  · obtain ⟨type, same⟩ := first
    exact ⟨type, .inl same⟩
  · by_cases last : ∃ type, members = [type, .noneType]
    · obtain ⟨type, same⟩ := last
      refine ⟨type, .inr ⟨fun absent => first ⟨.noneType, ?_⟩, same⟩⟩
      rw [same, absent]
    · rw [view] at known
      · cases known
      · exact fun type same => first ⟨type, same⟩
      · exact fun type same => last ⟨type, same⟩

mutual

/-- The annotations and the spelling of a type change nothing about how it is seen. -/
theorem view_skeleton : ∀ (type : HostType) {identity : Identity},
    type.view.identity = .ok identity → type.skeleton.view = type.view
  | .annotated base _, _, known => by
    rw [skeleton, view]
    exact view_skeleton base known
  | .builtin form, _, _ => by
    cases form <;> simp [skeleton, view, viewAll]
  | .declared ref, _, known => by
    rw [view] at known
    rw [skeleton, view, view, viewAll]
    unfold classView at known ⊢
    split at known
    case h_4 => cases known
    all_goals rfl
  | .applied head args, _, known => by
    rw [skeleton]
    cases head with
    | list _ | map _ | box =>
      rw [view] at known
      obtain ⟨_, parts⟩ := View.identityAll_args rfl known
      rw [Head.unspelled, view, view, views_skeletons args parts]
      all_goals simp
    | declared ref =>
      rw [view] at known
      rw [Head.unspelled, view, view]
      · unfold classView at known ⊢
        split at known
        case h_1 => rfl
        case h_4 => cases known
        all_goals
          obtain ⟨_, parts⟩ := View.identityAll_args rfl known
          simp only [views_skeletons args parts]
      all_goals simp
    | builtin _ | classVar | literal | generic => cases known
  | .union spelling members, _, known => by
    obtain ⟨type, rfl | ⟨present, rfl⟩⟩ := pair_of_union known
    · rw [view] at known
      obtain ⟨_, found, -⟩ := Outcome.bind_ok.mp known
      rw [skeleton, view, view, view_skeleton type found]
    · rw [view] at known
      · obtain ⟨_, found, -⟩ := Outcome.bind_ok.mp known
        rw [skeleton, view, view, view_skeleton type found]
        all_goals exact present
      · exact present
  | .primitive _, _, _ | .noneType, _, _ | .none, _, _ | .variable _, _, _ | .text _, _, _
  | .reference _ _, _, _ | .initVar _, _, _ | .constant _, _, _ | .container _ _, _, _
  | .record _ _, _, _ | .bound _ _ _, _, _ => rfl
termination_by type => sizeOf type

theorem views_skeletons : ∀ (types : List HostType) {identities : List Identity},
    View.identityAll (viewAll types) = .ok identities → viewAll (skeletons types) = viewAll types
  | [], _, _ => rfl
  | type :: rest, _, known => by
    obtain ⟨first, found, behind⟩ := Outcome.bind_ok.mp known
    obtain ⟨others, remaining, -⟩ := Outcome.bind_ok.mp behind
    rw [skeletons, viewAll, view_skeleton type found, views_skeletons rest remaining, viewAll]
termination_by types => sizeOf types

end

end HostType

namespace View

mutual

def skeleton : View → HostType
  | .refused _ => .none
  | .primitive shown => .primitive shown
  | .list args => .applied (.list .native) (skeletons args)
  | .map args => .applied (.map .native) (skeletons args)
  | .optional type => .union .native [.noneType, skeleton type]
  | .box args => .applied .box (skeletons args)
  | .record ref args | .dataEnum ref args => .applied (.declared ref) (skeletons args)
  | .enumeration ref => .applied (.declared ref) []

def skeletons : List View → List HostType
  | [] => []
  | type :: rest => skeleton type :: skeletons rest

end

end View

namespace HostType

mutual

/-- How a type is seen tells its skeleton. -/
theorem skeleton_view : ∀ (type : HostType) {identity : Identity}, type.EnumerationsBare →
    type.view.identity = .ok identity → type.skeleton = type.view.skeleton
  | .annotated base _, _, bare, known => by
    rw [skeleton, view]
    exact skeleton_view base bare.base known
  | .primitive _, _, _, _ => rfl
  | .builtin form, _, _, known => by
    cases form with
    | listForm | mapForm => rfl
    | _ => cases known
  | .declared ref, _, _, known => by
    rw [view] at known ⊢
    unfold classView at known ⊢
    split at known
    case h_4 => cases known
    all_goals rfl
  | .applied head args, _, bare, known => by
    have inside : ∀ arg ∈ args, arg.EnumerationsBare := fun _ member => bare.part member
    rw [skeleton]
    cases head with
    | list _ | map _ | box =>
      rw [view] at known ⊢
      obtain ⟨_, parts⟩ := View.identityAll_args rfl known
      rw [Head.unspelled, View.skeleton, skeletons_views args inside parts]
      all_goals simp
    | declared ref =>
      rw [view] at known ⊢
      unfold classView at known ⊢
      split at known
      case h_1 isEnumeration =>
        have single : args = [] := bare _ .self ref (by rw [view, classView, isEnumeration])
        rw [single]
        rfl
      case h_4 => cases known
      all_goals
        obtain ⟨_, parts⟩ := View.identityAll_args rfl known
        simp only [Head.unspelled, View.skeleton, skeletons_views args inside parts]
    | builtin _ | classVar | literal | generic => cases known
  | .union spelling members, _, bare, known => by
    obtain ⟨type, rfl | ⟨present, rfl⟩⟩ := pair_of_union known
    · rw [view] at known ⊢
      obtain ⟨_, found, -⟩ := Outcome.bind_ok.mp known
      rw [skeleton, View.skeleton, skeleton_view type (bare.part (List.mem_singleton_self _)) found]
    · have inside : type.EnumerationsBare := bare.part (by simp [parts])
      rw [view] at known ⊢
      · obtain ⟨_, found, -⟩ := Outcome.bind_ok.mp known
        rw [skeleton, View.skeleton, skeleton_view type inside found]
        exact present
      all_goals exact present
  | .noneType, _, _, known | .none, _, _, known | .variable _, _, _, known | .text _, _, _, known
  | .reference _ _, _, _, known | .initVar _, _, _, known | .container _ _, _, _, known
  | .record _ _, _, _, known | .bound _ _ _, _, _, known => by cases known
  | .constant value, _, _, known => by
    rw [view] at known
    split at known <;> cases known
termination_by type => sizeOf type

theorem skeletons_views : ∀ (types : List HostType) {identities : List Identity},
    (∀ type ∈ types, type.EnumerationsBare) → View.identityAll (viewAll types) = .ok identities →
    skeletons types = View.skeletons (viewAll types)
  | [], _, _, _ => rfl
  | type :: rest, _, bare, known => by
    obtain ⟨first, found, behind⟩ := Outcome.bind_ok.mp known
    obtain ⟨others, remaining, -⟩ := Outcome.bind_ok.mp behind
    obtain ⟨bareFirst, bareOthers⟩ := List.forall_mem_cons.mp bare
    rw [skeletons, viewAll, View.skeletons, skeleton_view type bareFirst found,
      skeletons_views rest bareOthers remaining]
termination_by types => sizeOf types

end

end HostType

namespace Model

variable {model : Model}

/-- A type as it can be written where some classes are declared: all classes in it are among them,
and enumerations have no arguments. -/
structure Admits (model : Model) (type : HostType) : Prop where
  declares : model.Declares type
  bare : type.EnumerationsBare

theorem Admits.of_parts {type : HostType}
    (known : ∀ ref, type.view.class? = some ref → ∃ declared ∈ model.classes, declared.ref = ref)
    (single : ∀ ref, type.view = .enumeration ref → type.parts = [])
    (inside : ∀ part ∈ type.parts, model.Admits part) : model.Admits type where
  declares := by
    intro ref mentions
    cases mentions with
    | self same => exact known ref same
    | part member deeper => exact (inside _ member).declares ref deeper
  bare := by
    intro inner contains
    cases contains with
    | self => exact single
    | part member deeper => exact (inside _ member).bare inner deeper

/-- Two supported types have one identity exactly if they have one skeleton: whatever else two types
differ in than annotations and spellings, their identities tell them apart. -/
theorem identity_eq_iff (apart : model.NamesApart) {type other : HostType}
    (admits : model.Admits type) (admitsOther : model.Admits other) {identity another : Identity}
    (known : type.view.identity = .ok identity) (knownOther : other.view.identity = .ok another) :
    identity = another ↔ type.skeleton = other.skeleton := by
  constructor
  · rintro rfl
    rw [HostType.skeleton_view type admits.bare known,
      HostType.skeleton_view other admitsOther.bare knownOther,
      apart.view_eq admits.declares admitsOther.declares known knownOther]
  · intro same
    have seen : type.view = other.view := by
      rw [← HostType.view_skeleton type known, same, HostType.view_skeleton other knownOther]
    rw [seen, knownOther] at known
    exact (Except.ok.inj known).symm

end Model

namespace Collect

/-- A pair of an optional list, with annotations and in the qualified spellings. -/
def markedPair : HostType :=
  .annotated
    (pairOf (.union .qualified [.applied (.list .qualified) [markedInt], .noneType])) [.text "m"]

/-- The pair without annotations, in the native spellings. -/
def barePair : HostType :=
  pairOf (.union .native [.noneType, .applied (.list .native) [.primitive .int]])

theorem identity_eq_iff_pair :
    ∃ identity another, markedPair.view.identity = .ok identity ∧
      barePair.view.identity = .ok another ∧
      (identity = another ↔ markedPair.skeleton = barePair.skeleton) ∧
      markedPair.skeleton = barePair.skeleton := by
  have leaf (type : HostType) (shown : type.view = .primitive .int) (whole : type.parts = []) :
      (pairModelOf (.variable "K")).Admits type :=
    .of_parts (by simp [shown, View.class?]) (by simp [shown]) (by simp [whole])
  have container {type part : HostType} (shown : type.view.class? = none)
      (whole : type.parts = [part])
      (admits : (pairModelOf (.variable "K")).Admits part) :
        (pairModelOf (.variable "K")).Admits type := by
    refine .of_parts (by simp [shown]) (fun ref same => ?_) (by simpa [whole] using admits)
    rw [same] at shown
    cases shown
  have pair {type part : HostType} (shown : type.view = .record pairRef [part.view])
      (whole : type.parts = [part]) (admits : (pairModelOf (.variable "K")).Admits part) :
      (pairModelOf (.variable "K")).Admits type := by
    refine .of_parts (fun ref same => ?_) (by simp [shown]) (by simpa [whole] using admits)
    rw [shown] at same
    cases same
    exact ⟨_, List.mem_singleton_self _, rfl⟩
  have marked : (pairModelOf (.variable "K")).Admits markedPair :=
    pair rfl rfl (container rfl rfl (container rfl rfl (leaf markedInt rfl rfl)))
  have bare : (pairModelOf (.variable "K")).Admits barePair :=
    pair rfl rfl (container rfl rfl (container rfl rfl (leaf (.primitive .int) rfl rfl)))
  exact ⟨_, _, rfl, rfl, Model.identity_eq_iff (pairModelOf_namesApart _) marked bare rfl rfl, rfl⟩

/-- Two classes whose modules and qualified names differ, and read alike when they are joined. -/
theorem not_identity_eq_iff_homonym :
    ¬ ∀ model : Model,
      (model.classes.map fun declared => (declared.ref.module, declared.ref.qualifiedName)).Nodup →
      (∀ declared ∈ model.classes, declared.ref.identityName ∉ Identity.languageNames) →
      ∀ type other : HostType, model.Admits type → model.Admits other →
        ∀ identity another, type.view.identity = .ok identity → other.view.identity = .ok another →
          (identity = another ↔ type.skeleton = other.skeleton) := by
  intro exact
  have admits {declared : ClassDecl} (member : declared ∈ homonymModel.classes)
      (isRecord : declared.ref.category = .record) : homonymModel.Admits
        (.declared declared.ref) := by
    refine .of_parts (fun ref same => ?_) (fun _ _ => rfl) (by rintro part ⟨⟩)
    rw [HostType.view, HostType.classView, isRecord] at same
    cases same
    exact ⟨declared, member, rfl⟩
  have same := (exact homonymModel (by decide) (by decide) (.declared outerRef)
    (.declared innerRef) (admits (List.mem_cons_self ..) rfl)
    (admits (List.mem_cons_of_mem _ (List.mem_cons_self ..)) rfl) (.node "a.b.C" [])
    (.node "a.b.C" [])
    rfl rfl).mp rfl
  cases same

end Collect

end WireModel
