import WireModel.Proofs.Collection.Walk
import WireModel.Proofs.Identity

/-!
Spellings that collecting does not read: annotations around a type and around the arguments of
containers, and the way in which containers are written. The arguments of a generic class are read
again in its fields, and stay as they are.
-/

namespace WireModel

namespace HostType

mutual

/-- The type in its plainest spelling, with the arguments of generic classes as they are. -/
def plain : HostType → HostType
  | .annotated base _ => plain base
  | .builtin .listForm => .applied (.list .native) []
  | .builtin .mapForm => .applied (.map .native) []
  | .applied (.list _) args => .applied (.list .native) (plainAll args)
  | .applied (.map _) args => .applied (.map .native) (plainAll args)
  | .applied .box args => .applied .box (plainAll args)
  | .union _ [.noneType, type] => .union .native [plain type, .noneType]
  | .union _ [type, .noneType] => .union .native [plain type, .noneType]
  | type => type

/-- Some types in their plainest spelling. -/
def plainAll : List HostType → List HostType
  | [] => []
  | type :: rest => plain type :: plainAll rest

end

theorem plainAll_eq_map (types : List HostType) : plainAll types = types.map plain := by
  induction types with
  | nil => rfl
  | cons type rest ih => rw [plainAll, ih, List.map_cons]

theorem parts_optional (spelling : Spelling) (part : HostType) :
    parts (.union spelling [part, .noneType]) = [part] := by
  by_cases absent : part = .noneType
  · rw [absent, parts]
  · rw [parts]
    exact absent

mutual

/-- The plainest spelling is seen like the type. -/
theorem view_plain : ∀ type : HostType, type.plain.view = type.view
  | .annotated base _ => by rw [plain, view, view_plain base]
  | .applied (.list _) args => by rw [plain, view, view, viewAll_plainAll args]
  | .applied (.map _) args => by rw [plain, view, view, viewAll_plainAll args]
  | .applied .box args => by rw [plain, view, view, viewAll_plainAll args]
  | .builtin .listForm | .builtin .mapForm => rfl
  | .union _ [] | .union _ [_] | .union _ (_ :: _ :: _ :: _) => by rw [plain] <;> simp
  | .union _ [first, second] => by
    by_cases absent : first = .noneType
    · rw [absent, plain, view_optional, view_plain second, view]
    by_cases absentLast : second = .noneType
    · rw [absentLast, plain, view_optional, view_optional, view_plain first]
      exact absent
    · rw [plain] <;> simp_all
  | .builtin (.classNamed _) | .builtin (.functionNamed _) | .builtin .any | .builtin .box
  | .builtin .optionalForm | .builtin .unionForm | .builtin .annotatedForm | .builtin .genericForm
  | .builtin .classVarForm | .builtin .renameFunction | .applied (.declared _) _
  | .applied (.builtin _) _ | .applied .classVar _ | .applied .literal _ | .applied .generic _
  | .primitive _ | .declared _ | .noneType | .none | .variable _ | .text _ | .reference _ _
  | .initVar _ | .constant _ | .container _ _ | .record _ _ | .bound _ _ _ => rfl

theorem viewAll_plainAll : ∀ types : List HostType, viewAll (plainAll types) = viewAll types
  | [] => rfl
  | type :: rest => by rw [plainAll, viewAll, viewAll, view_plain type, viewAll_plainAll rest]

end

/-- What the plainest spelling of a type holds: the parts of a container in their plainest spelling,
and those of a class as they are. -/
theorem parts_plain (type : HostType) :
    (type.view.IsContainer → type.plain.parts = type.parts.map plain) ∧
      (¬ type.view.IsContainer → type.plain.parts = type.parts) := by
  fun_induction parts type with
  | case1 base metadata ih => rwa [plain, view]
  | case2 head args =>
    cases head
    case list => exact ⟨fun _ => plainAll_eq_map args, fun no => (no trivial).elim⟩
    case map => exact ⟨fun _ => plainAll_eq_map args, fun no => (no trivial).elim⟩
    case box => exact ⟨fun _ => plainAll_eq_map args, fun no => (no trivial).elim⟩
    case declared ref =>
      refine ⟨fun isContainer => ?_, fun _ => rfl⟩
      rw [view, classView] at isContainer
      split at isContainer <;> cases isContainer
    all_goals exact ⟨fun isContainer => isContainer.elim, fun _ => rfl⟩
  | case3 spelling part =>
    rw [plain, parts_optional, view]
    exact ⟨fun _ => rfl, fun no => (no trivial).elim⟩
  | case4 spelling part present =>
    rw [plain, parts_optional, view_optional]
    · exact ⟨fun _ => rfl, fun no => (no trivial).elim⟩
    · exact present
  | case5 spelling members first second =>
    rw [plain, view, parts]
    · exact ⟨fun isContainer => isContainer.elim, fun _ => rfl⟩
    all_goals simp_all
  | case6 type unannotated unapplied first second united =>
    clear first second
    cases type
    case builtin form => cases form <;> simp [plain, parts]
    case applied head args => exact (unapplied head args rfl).elim
    case union spelling members => exact (united spelling members rfl).elim
    case annotated base metadata => exact (unannotated base metadata rfl).elim
    all_goals exact ⟨fun _ => rfl, fun _ => rfl⟩

end HostType

namespace Collect

variable (model : Model)

theorem className_plain (type : HostType) : className type.plain = className type := by
  unfold className
  rw [HostType.view_plain]

theorem forM_plain {visit : HostType → Collect Unit}
    (same : ∀ type : HostType, visit type.plain = visit type) (types : List HostType) :
    (types.map HostType.plain).forM visit = types.forM visit := by
  induction types with
  | nil => rfl
  | cons type rest ih =>
    show (do visit type.plain; (rest.map HostType.plain).forM visit) =
      (do visit type; rest.forM visit)
    rw [same, ih]

theorem visitParts_plain {visit visitArgument : HostType → Collect Unit}
    (same : ∀ type : HostType, visitArgument type.plain = visitArgument type) (type : HostType) :
    visitParts model visit visitArgument type.plain =
      visitParts model visit visitArgument type := by
  obtain ⟨container, others⟩ := type.parts_plain
  unfold visitParts
  rw [HostType.view_plain]
  split
  case h_1 => rfl
  case h_2 => rfl
  case h_3 seenAs => rw [container (seenAs ▸ trivial), forM_plain same]
  case h_4 seenAs => rw [container (seenAs ▸ trivial), forM_plain same]
  case h_5 seenAs => rw [container (seenAs ▸ trivial), forM_plain same]
  case h_6 seenAs => rw [container (seenAs ▸ trivial), forM_plain same]
  case h_7 seenAs =>
    simp only [record, bindings, className_plain, others (by simp [seenAs, View.IsContainer])]
  case h_8 => rw [className_plain]
  case h_9 seenAs =>
    simp only [dataEnum, bindings, className_plain, others (by simp [seenAs, View.IsContainer])]

/-- Collecting does not read the spelling of a type but in the arguments of generic classes; the
depth that is left carries the induction. -/
theorem addAt_plain (depth : Nat) (type : HostType) :
    addAt model depth type.plain = addAt model depth type := by
  induction depth using Nat.strongRecOn generalizing type with
  | _ depth ih =>
  rcases depth with _ | _ | _ | depth
  · rfl
  · rfl
  · rfl
  · simp only [addAt, HostType.view_plain, visitParts_plain model (ih (depth + 2) (by omega))]

end Collect

end WireModel
