import WireModel.Proofs.Collection.Building
import WireModel.Proofs.Collection.Uniform

/-!
Tidy types, and what of them shows in whatever is built of them. Types of one identity may differ in
the names on the wire that they carry, and in whether two of them count as one in a union. In a tidy
type no argument of a class carries a name on the wire, and no two members of a union have the same
outermost form, so that neither can happen.
-/

namespace WireModel

/-- The outermost form of a type. Values, and whatever closing replaces, have none of their own. -/
inductive Form where
  | primitive (type : Primitive)
  | declared (ref : ClassRef)
  | builtin (type : Builtin)
  | absent
  | applied (head : Head)
  | union
  | annotated
  | other
  deriving DecidableEq

def Head.native : Head → Head
  | .list _ => .list .native
  | .map _ => .map .native
  | head => head

def Head.isClass : Head → Bool
  | .declared _ => true
  | _ => false

def Head.isKnown (known : List ClassRef) : Head → Bool
  | .declared ref => known.contains ref
  | _ => true

theorem Outcome.toOption_bind {ε α β : Type} (outcome : Except ε α) (next : α → Except ε β) :
    (outcome >>= next).toOption = outcome.toOption.bind fun value => (next value).toOption := by
  cases outcome <;> rfl

namespace HostType

def form : HostType → Form
  | .primitive type => .primitive type
  | .declared ref => .declared ref
  | .builtin type => .builtin type
  | .noneType | .none => .absent
  | .applied head _ => .applied head.native
  | .union .. => .union
  | .annotated .. => .annotated
  | _ => .other

def renamingOf? : HostType → Option (Option HostType)
  | .record .rename entries => some (entries.lookup "json_name")
  | _ => Option.none

/-- The name that the innermost renaming around a type gives; of the metadata at one place, the
first one counts. -/
def renaming? : HostType → Option (Option HostType)
  | .annotated base metadata => (renaming? base).or (metadata.findSome? renamingOf?)
  | _ => Option.none

/-- A renaming has a text for its name, and nothing else. -/
def hasPlainName : List (String × HostType) → Bool
  | [(key, .text _)] => key == "json_name"
  | _ => false

mutual

/-- The classes in the type are among some, renamings give texts, no two members of a union have one
form, and no argument of a class has a renaming around it, at whatever depth. -/
def isTidy (known : List ClassRef) : HostType → Bool
  | .declared ref => known.contains ref
  | .applied head args =>
    head.isKnown known && (!head.isClass || args.all (·.renaming?.isNone)) && areTidy known args
  | .union _ members => decide (members.map form).Nodup && areTidy known members
  | .annotated base metadata => isTidy known base && areTidy known metadata
  | .record .rename entries => hasPlainName entries
  | _ => true

def areTidy (known : List ClassRef) : List HostType → Bool
  | [] => true
  | type :: rest => isTidy known type && areTidy known rest

end

theorem areTidy_iff {known : List ClassRef} {types : List HostType} :
    areTidy known types = true ↔ ∀ type ∈ types, type.isTidy known = true := by
  induction types with
  | nil => simp [areTidy]
  | cons type rest ih => simp [areTidy, ih]

@[simp] theorem form_present (type : HostType) : type.present.form = type.form := by
  cases type <;> rfl

@[simp] theorem map_form_present (types : List HostType) :
    (types.map present).map form = types.map form := by
  rw [List.map_map]
  exact List.map_congr_left fun type _ => form_present type

@[simp] theorem isTidy_present (known : List ClassRef) (type : HostType) :
    type.present.isTidy known = type.isTidy known := by
  cases type <;> rfl

@[simp] theorem renaming?_present (type : HostType) : type.present.renaming? = type.renaming? := by
  cases type <;> rfl

theorem present_eq_noneType_iff {type : HostType} :
    type.present = .noneType ↔ type.form = .absent := by
  cases type <;> simp [present, form]

theorem renaming?_noted (base : HostType) (metadata : List HostType) :
    (noted base metadata).renaming? = base.renaming?.or (metadata.findSome? renamingOf?) := by
  rw [← renaming?_present base, noted]
  generalize base.present = shown
  cases shown with
  | annotated inner own =>
    simp only [renaming?, List.findSome?_append, Option.or_assoc]
  | _ => rfl

theorem renamingOf?_of_ne {note : HostType} (foreign : ¬note.IsRenaming) :
    note.renamingOf? = Option.none := by
  unfold renamingOf?
  split
  · next entries => exact (foreign ⟨entries, rfl⟩).elim
  · rfl

theorem findSome?_renamingOf? {metadata : List HostType}
    (plain : ∀ note ∈ metadata, ¬note.IsRenaming) :
    metadata.findSome? renamingOf? = Option.none :=
  List.findSome?_eq_none_iff.mpr fun note member => renamingOf?_of_ne (plain note member)

/-- The name of a field on the wire depends on the renaming around its type. -/
theorem wireName?_of_isClosed {type : HostType} (closed : type.isClosed = true) :
    type.wireName? = match type.renaming? with
      | some (some (.text tag)) => some tag
      | _ => Option.none := by
  cases type with
  | annotated base metadata =>
    rw [isClosed, Bool.and_eq_true, Bool.and_eq_true] at closed
    have flat : base.renaming? = Option.none ∧ base.wireName? = Option.none := by
      cases base <;> first | exact ⟨rfl, rfl⟩ | simp [isAnnotated] at closed
    rw [renaming?, flat.1, Option.none_or]
    rcases exists_renaming metadata with plain | ⟨before, entries, after, rfl, plain⟩
    · rw [wireName?_inside plain, flat.2, findSome?_renamingOf? plain]
    · rw [wireName?_renamed plain, List.findSome?_append, findSome?_renamingOf? plain,
        Option.none_or, List.findSome?_cons, renamingOf?]
      rcases entries.lookup "json_name" with _ | name
      · rfl
      · cases name <;> rfl
  | _ => rfl

def optionalPart? : List HostType → Option HostType
  | [.noneType, type] => some type
  | [type, .noneType] => some type
  | _ => Option.none

theorem view_union (spelling : Spelling) (members : List HostType) :
    (union spelling members).view = match optionalPart? members with
      | some part => .optional part.view
      | Option.none => .refused (.unsupportedUnion (.union spelling members)) := by
  fun_cases optionalPart? members with
  | case1 type => rw [view]
  | case2 type present =>
    rw [view]
    exact present
  | case3 _ first second =>
    rw [view]
    · exact first
    · exact second

namespace SameIdentity

theorem eq {type other : HostType} (same : type.SameIdentity other) :
    type.view.identity.toOption = other.view.identity.toOption :=
  same

theorem refl (type : HostType) : type.SameIdentity type :=
  rfl

theorem symm {type other : HostType} (same : type.SameIdentity other) : other.SameIdentity type :=
  Eq.symm same

theorem trans {type other last : HostType} (first : type.SameIdentity other)
    (second : other.SameIdentity last) : type.SameIdentity last :=
  Eq.trans first second

theorem of_view {type other : HostType} (same : type.view = other.view) :
    type.SameIdentity other := by
  rw [SameIdentity, same]

theorem of_refused {type other : HostType} {error another : GenerationError}
    (refused : type.view = .refused error) (refusedOther : other.view = .refused another) :
    type.SameIdentity other := by
  rw [SameIdentity, refused, refusedOther]
  rfl

theorem annotated {base other : HostType} (same : base.SameIdentity other)
    (metadata notes : List HostType) :
    (annotated base metadata).SameIdentity (.annotated other notes) :=
  same

theorem present (type : HostType) : type.present.SameIdentity type := by
  cases type <;> rfl

theorem noted (base : HostType) (metadata : List HostType) :
    (noted base metadata).SameIdentity base := by
  refine SameIdentity.trans ?_ (present base)
  rw [HostType.noted]
  generalize base.present = shown
  cases shown <;> rfl

theorem viewAll {args others : List HostType} (same : List.Forall₂ SameIdentity args others) :
    (View.identityAll (viewAll args)).toOption =
      (View.identityAll (HostType.viewAll others)).toOption := by
  induction same with
  | nil => rfl
  | cons first _ ih =>
    simp only [HostType.viewAll, View.identityAll, Outcome.toOption_bind, first.eq, ih]

/-- An identity with arguments follows from theirs. -/
theorem node {args others : List HostType} (same : List.Forall₂ SameIdentity args others)
    (name : String) :
    (do return Identity.node name (← View.identityAll (HostType.viewAll args)) :
      Except GenerationError Identity).toOption =
    (do return Identity.node name (← View.identityAll (HostType.viewAll others)) :
      Except GenerationError Identity).toOption := by
  simp only [Outcome.toOption_bind, viewAll same]

/-- What stands behind one head has an identity that follows from the arguments, however lists and
maps are spelled. -/
theorem applied {head other : Head} (native : head.native = other.native)
    {args others : List HostType} (same : List.Forall₂ SameIdentity args others) :
    (applied head args).SameIdentity (.applied other others) := by
  cases head with
  | list _ =>
    cases other with
    | list _ => exact node same "builtins.list"
    | _ => cases native
  | map _ =>
    cases other with
    | map _ => exact node same "builtins.dict"
    | _ => cases native
  | box =>
    cases other with
    | box => exact node same "dtogen.host.Box"
    | _ => cases native
  | declared ref =>
    cases other with
    | declared another =>
      cases native
      rw [SameIdentity, view, view, classView, classView]
      cases ref.category with
      | record | dataEnum => exact node same ref.identityName
      | enumeration _ | opaqueClass => rfl
    | _ => cases native
  | builtin _ | classVar | literal | generic =>
    cases other with
    | list _ | map _ | box | declared _ => cases native
    | _ => exact of_refused rfl rfl

theorem union {spelling other : Spelling} {members others : List HostType}
    (same : Option.Rel SameIdentity (optionalPart? members) (optionalPart? others)) :
    (union spelling members).SameIdentity (.union other others) := by
  rw [SameIdentity, view_union, view_union]
  generalize optionalPart? members = part at same
  generalize optionalPart? others = another at same
  cases same with
  | none => rfl
  | @some part another same =>
    simp only [View.identity, Outcome.toOption_bind, same.eq]

end SameIdentity

/-- What of a type shows in whatever is built of it. -/
structure Akin (type other : HostType) : Prop where
  identity : type.SameIdentity other
  renamed : type.renaming? = other.renaming?
  form : type.form = other.form
  absent : type = .noneType ↔ other = .noneType

namespace Akin

theorem refl (type : HostType) : type.Akin type :=
  ⟨.refl type, rfl, rfl, .rfl⟩

/-- Whether types are the class of the absent value follows from their forms once they are
arguments. -/
theorem present {type other : HostType} (identity : type.SameIdentity other)
    (renamed : type.renaming? = other.renaming?) (form : type.form = other.form) :
    type.present.Akin other.present where
  identity := (SameIdentity.present type).trans (identity.trans (SameIdentity.present other).symm)
  renamed := by rw [renaming?_present, renaming?_present, renamed]
  form := by rw [form_present, form_present, form]
  absent := by rw [present_eq_noneType_iff, present_eq_noneType_iff, form]

end Akin

open Classical in
theorem optionalPart?_pair (first second : HostType) : optionalPart? [first, second] =
    if first = .noneType then some second else if second = .noneType then some first
    else Option.none := by
  by_cases here : first = .noneType
  · rw [if_pos here, here, optionalPart?]
  rw [if_neg here]
  by_cases there : second = .noneType
  · rw [if_pos there, there, optionalPart?]
    exact here
  rw [if_neg there, optionalPart?]
  · simpa using here
  · simpa using there

theorem optionalPart?_long (first second third : HostType) (rest : List HostType) :
    optionalPart? (first :: second :: third :: rest) = Option.none := by
  rw [optionalPart?] <;> simp

theorem optionalPart?_comm {first second : HostType}
    (differ : first.form ≠ second.form) :
    optionalPart? [first, second] = optionalPart? [second, first] := by
  rw [optionalPart?_pair, optionalPart?_pair]
  by_cases here : first = .noneType
  · have there : second ≠ .noneType := by
      rintro rfl
      exact differ (by rw [here])
    rw [if_pos here, if_neg there, if_pos here]
  · rw [if_neg here, if_neg here]

theorem Akin.optionalPart? {first second left right : HostType} (akin : first.Akin left)
    (other : second.Akin right) : Option.Rel SameIdentity (optionalPart? [first, second])
      (optionalPart? [left, right]) := by
  rw [optionalPart?_pair, optionalPart?_pair]
  by_cases here : first = .noneType
  · rw [if_pos here, if_pos (akin.absent.mp here)]
    exact .some other.identity
  rw [if_neg here, if_neg (mt akin.absent.mpr here)]
  by_cases there : second = .noneType
  · rw [if_pos there, if_pos (other.absent.mp there)]
    exact .some akin.identity
  · rw [if_neg there, if_neg (mt other.absent.mpr there)]
    exact .none

/-- What is there in an optional type does not depend on the order of the members, and shows what
that of akin members shows. -/
theorem optionalPart?_rel {members others : List HostType} (count : members.length = others.length)
    (apart : (members.map form).Nodup)
    (each : ∀ member ∈ members, ∃ other ∈ others, member.Akin other) :
    Option.Rel SameIdentity (optionalPart? members) (optionalPart? others) := by
  rcases members with _ | ⟨first, _ | ⟨second, _ | ⟨third, rest⟩⟩⟩
  · obtain rfl := List.length_eq_zero_iff.mp count.symm
    exact .none
  · obtain ⟨other, rfl⟩ := List.length_eq_one_iff.mp count.symm
    cases first <;> cases other <;> exact .none
  · obtain ⟨left, right, rfl⟩ := List.length_eq_two.mp count.symm
    have differ : first.form ≠ second.form := by simpa using apart
    obtain ⟨image, inside, akin⟩ := each first (by simp)
    obtain ⟨another, insideOther, akinOther⟩ := each second (by simp)
    simp only [List.mem_cons, List.not_mem_nil, or_false] at inside insideOther
    rcases inside with rfl | rfl <;> rcases insideOther with rfl | rfl
    · exact absurd (akin.form.trans akinOther.form.symm) differ
    · exact akin.optionalPart? akinOther
    · rw [optionalPart?_comm differ]
      exact akinOther.optionalPart? akin
    · exact absurd (akin.form.trans akinOther.form.symm) differ
  · rcases others with _ | ⟨_, _ | ⟨_, _ | ⟨_, others⟩⟩⟩
    · cases count
    · cases count
    · cases count
    · rw [optionalPart?_long, optionalPart?_long]
      exact .none

theorem form_of_same {type other : HostType} (same : type.same other = true) :
    type.form = other.form := by
  cases type with
  | primitive _ | declared _ | builtin _ =>
    cases other <;> first | cases same | rw [beq_iff_eq.mp same]
  | applied head args =>
    cases other with
    | applied another others =>
      obtain ⟨equal, -⟩ := Bool.and_eq_true_iff.mp same
      rw [form, form, beq_iff_eq.mp equal]
    | _ => cases same
  | container kind items =>
    cases other <;> first
      | rfl
      | (rcases kind with _ | _ | _ | _ | _ | _ | (_ | _ | _) | _ <;> cases same)
  | _ => cases other <;> first | rfl | cases same

theorem view_of_form_other {type : HostType} (form : type.form = .other) :
    ∃ error, type.view = .refused error := by
  cases type with
  | constant value =>
    rw [view]
    split <;> exact ⟨_, rfl⟩
  | _ => first | exact ⟨_, rfl⟩ | cases form

theorem renaming?_of_form_other {type : HostType} (form : type.form = .other) :
    type.renaming? = Option.none := by
  cases type <;> first | rfl | cases form

theorem akin_of_form_other {type other : HostType} (form : type.form = .other)
    (formOther : other.form = .other) : type.Akin other where
  identity := by
    obtain ⟨error, refused⟩ := view_of_form_other form
    obtain ⟨another, refusedOther⟩ := view_of_form_other formOther
    exact .of_refused refused refusedOther
  renamed := by
    rw [renaming?_of_form_other form, renaming?_of_form_other formOther]
  form := form.trans formOther.symm
  absent := by
    constructor
    · rintro rfl
      cases form
    · rintro rfl
      cases formOther

theorem entries_of_hasPlainName {entries : List (String × HostType)}
    (plain : hasPlainName entries = true) : ∃ tag, entries = [("json_name", .text tag)] := by
  unfold hasPlainName at plain
  split at plain
  · next key tag => exact ⟨tag, by rw [beq_iff_eq.mp plain]⟩
  · cases plain

theorem exists_record_of_same {type : HostType} {owner : RecordClass}
    {entries : List (String × HostType)} (same : type.same (.record owner entries) = true) :
    ∃ others, type = .record owner others := by
  cases type with
  | record another others =>
    obtain rfl := beq_iff_eq.mp (Bool.and_eq_true_iff.mp same).1
    exact ⟨others, rfl⟩
  | container kind _ => rcases kind with _ | _ | _ | _ | _ | _ | (_ | _ | _) | _ <;> cases same
  | _ => cases same

theorem renamingOf?_of_same {known : List ClassRef} {note other : HostType}
    (same : note.same other = true) (tidy : note.isTidy known = true)
    (tidyOther : other.isTidy known = true) : note.renamingOf? = other.renamingOf? := by
  by_cases renames : note.IsRenaming
  · obtain ⟨entries, rfl⟩ := renames
    obtain ⟨tag, rfl⟩ := entries_of_hasPlainName tidy
    cases other with
    | record owner others =>
      obtain ⟨owners, equal⟩ := Bool.and_eq_true_iff.mp same
      obtain rfl : RecordClass.rename = owner := beq_iff_eq.mp owners
      obtain ⟨another, rfl⟩ := entries_of_hasPlainName tidyOther
      obtain rfl : tag = another := beq_iff_eq.mp (Bool.and_eq_true_iff.mp equal).1
      rfl
    | _ => cases same
  · rw [renamingOf?_of_ne renames, renamingOf?_of_ne]
    rintro ⟨entries, rfl⟩
    exact renames (exists_record_of_same same)

theorem renamingOf?_of_sameList {known : List ClassRef} {metadata notes : List HostType}
    (same : sameList metadata notes = true) (tidy : areTidy known metadata = true)
    (tidyOther : areTidy known notes = true) :
    metadata.findSome? renamingOf? = notes.findSome? renamingOf? := by
  rw [sameList_iff] at same
  induction same with
  | nil => rfl
  | cons equal _ ih =>
    obtain ⟨first, behind⟩ := Bool.and_eq_true_iff.mp tidy
    obtain ⟨firstOther, behindOther⟩ := Bool.and_eq_true_iff.mp tidyOther
    rw [List.findSome?_cons, List.findSome?_cons, ih behind behindOther,
      renamingOf?_of_same equal first firstOther]

mutual

/-- Of two tidy types that are one the same shows in whatever is built of them. -/
theorem akin_of_same {known : List ClassRef} (type : HostType) {other : HostType}
    (same : type.same other = true) (tidy : type.isTidy known = true)
    (tidyOther : other.isTidy known = true) : type.Akin other := by
  have forms := form_of_same same
  cases type with
  | primitive _ | declared _ | builtin _ =>
    cases other <;> first
      | cases same
      | (rw [beq_iff_eq.mp same]; exact .refl _)
  | noneType | none =>
    cases other <;> first | exact .refl _ | cases same
  | applied head args =>
    cases other with
    | applied another others =>
      obtain ⟨equal, inside⟩ := Bool.and_eq_true_iff.mp same
      obtain rfl : head = another := beq_iff_eq.mp equal
      refine ⟨?_, rfl, rfl, by simp⟩
      by_cases literal : head = .literal
      · rw [literal]
        exact .of_refused rfl rfl
      rw [if_neg literal] at inside
      have akin := akin_of_sameList args inside (Bool.and_eq_true_iff.mp tidy).2
        (Bool.and_eq_true_iff.mp tidyOther).2
      exact .applied rfl (akin.imp fun _ _ each => each.identity)
    | _ => cases same
  | union _ members =>
    cases other with
    | union _ others =>
      obtain ⟨count, inside⟩ := Bool.and_eq_true_iff.mp same
      obtain ⟨apart, each⟩ := Bool.and_eq_true_iff.mp tidy
      have akin := akin_of_allIn members inside each (Bool.and_eq_true_iff.mp tidyOther).2
      exact ⟨.union (optionalPart?_rel (beq_iff_eq.mp count) (of_decide_eq_true apart) akin), rfl,
        rfl, by simp⟩
    | _ => cases same
  | annotated base metadata =>
    cases other with
    | annotated another notes =>
      obtain ⟨equal, listed⟩ := Bool.and_eq_true_iff.mp same
      obtain ⟨inside, each⟩ := Bool.and_eq_true_iff.mp tidy
      obtain ⟨insideOther, eachOther⟩ := Bool.and_eq_true_iff.mp tidyOther
      have akin := akin_of_same base equal inside insideOther
      refine ⟨akin.identity.annotated _ _, ?_, rfl, by simp⟩
      rw [renaming?, renaming?, akin.renamed, renamingOf?_of_sameList listed each eachOther]
    | _ => cases same
  | _ => exact akin_of_form_other rfl forms.symm

theorem akin_of_sameList {known : List ClassRef} (types : List HostType) {others : List HostType}
    (same : sameList types others = true) (tidy : areTidy known types = true)
    (tidyOther : areTidy known others = true) : List.Forall₂ Akin types others := by
  cases types with
  | nil =>
    cases others with
    | nil => exact .nil
    | cons other behind => cases same
  | cons type rest =>
    cases others with
    | nil => cases same
    | cons other behind =>
      obtain ⟨first, remaining⟩ := Bool.and_eq_true_iff.mp same
      obtain ⟨here, later⟩ := Bool.and_eq_true_iff.mp tidy
      obtain ⟨hereOther, laterOther⟩ := Bool.and_eq_true_iff.mp tidyOther
      exact .cons (akin_of_same type first here hereOther)
        (akin_of_sameList rest remaining later laterOther)

theorem akin_of_allIn {known : List ClassRef} (types : List HostType) {others : List HostType}
    (inside : allIn types others = true) (tidy : areTidy known types = true)
    (tidyOther : areTidy known others = true) :
    ∀ type ∈ types, ∃ other ∈ others, type.Akin other := by
  cases types with
  | nil => exact fun type member => nomatch member
  | cons type rest =>
    obtain ⟨first, remaining⟩ := Bool.and_eq_true_iff.mp inside
    obtain ⟨here, later⟩ := Bool.and_eq_true_iff.mp tidy
    obtain ⟨other, member, same⟩ := List.any_eq_true.mp first
    rw [List.forall_mem_cons]
    exact ⟨⟨other, member, akin_of_same type same here (areTidy_iff.mp tidyOther other member)⟩,
      akin_of_allIn rest remaining later tidyOther⟩

end

theorem withoutRepetitions_of_forms {types : List HostType} (apart : (types.map form).Nodup) :
    withoutRepetitions types = types := by
  induction types with
  | nil => rfl
  | cons type rest ih =>
    obtain ⟨fresh, behind⟩ := List.nodup_cons.mp apart
    rw [withoutRepetitions, ih behind, List.filter_eq_self.mpr]
    intro other member
    rw [Bool.not_eq_true', Bool.eq_false_iff]
    exact fun same => fresh (List.mem_map.mpr ⟨other, member, (form_of_same same).symm⟩)

theorem members_of_form {type : HostType} (single : type.form ≠ .union) :
    type.members = [type] := by
  cases type <;> first | rfl | exact absurd rfl single

/-- Types of several forms that are no unions themselves stay apart in their union. -/
theorem united_of_forms {members : List HostType} (several : members.length ≠ 1)
    (single : ∀ member ∈ members, member.form ≠ .union) (apart : (members.map form).Nodup) :
    united members = .union .qualified (members.map present) := by
  have flat : (members.map present).flatMap HostType.members = members.map present := by
    rw [List.flatMap_congr fun member inside => ?_, List.flatMap_singleton']
    obtain ⟨origin, known, rfl⟩ := List.mem_map.mp inside
    exact members_of_form (by rw [form_present]; exact single origin known)
  rw [united, unite, flat, withoutRepetitions_of_forms (by rwa [map_form_present])]
  split
  · next equal =>
    have count := congrArg List.length equal
    rw [List.length_map] at count
    exact absurd count several
  · rfl

theorem assembled_shape (head : Head) (args : List HostType) :
    assembled head args = .applied head.native args ∨
      assembled head args = .applied head.native (args.map present) := by
  cases head with
  | list _ | map _ => exact .inl rfl
  | declared ref =>
    rw [assembled]
    split
    · exact .inl rfl
    · exact .inr rfl
  | _ => exact .inr rfl

@[simp] theorem form_assembled (head : Head) (args : List HostType) :
    (assembled head args).form = .applied head.native := by
  have native : head.native.native = head.native := by cases head <;> rfl
  rcases assembled_shape head args with shape | shape
  · rw [shape, form, native]
  · rw [shape, form, native]

@[simp] theorem renaming?_assembled (head : Head) (args : List HostType) :
    (assembled head args).renaming? = Option.none := by
  rcases assembled_shape head args with shape | shape <;> rw [shape] <;> rfl

theorem SameIdentity.assembled (head : Head) (args : List HostType) :
    (assembled head args).SameIdentity (.applied head.native args) := by
  rcases assembled_shape head args with shape | shape
  · rw [shape]
    exact .refl _
  · rw [shape]
    refine .applied rfl ?_
    rw [List.forall₂_map_left_iff]
    exact List.forall₂_same.mpr fun arg _ => .present arg

theorem class?_classView {ref other : ClassRef} {args : List View} {type : HostType}
    (seenAs : (classView ref args type).class? = some other) : ref = other := by
  unfold classView at seenAs
  split at seenAs <;> cases seenAs <;> rfl

/-- A class that a tidy type is seen as is one of those known. -/
theorem mem_of_isTidy {known : List ClassRef} (type : HostType)
    (tidy : type.isTidy known = true) {ref : ClassRef} (seenAs : type.view.class? = some ref) :
    ref ∈ known := by
  cases type with
  | declared other =>
    rw [view] at seenAs
    rw [← class?_classView seenAs]
    exact List.contains_iff_mem.mp tidy
  | applied head args =>
    cases head with
    | declared other =>
      rw [view] at seenAs
      rw [← class?_classView seenAs]
      rw [isTidy, Bool.and_eq_true, Bool.and_eq_true] at tidy
      exact List.contains_iff_mem.mp tidy.1.1
    | _ => cases seenAs
  | annotated base metadata => exact mem_of_isTidy base (Bool.and_eq_true_iff.mp tidy).1 seenAs
  | union spelling members =>
    rw [view_union] at seenAs
    split at seenAs <;> cases seenAs
  | builtin form => cases form <;> cases seenAs
  | constant value =>
    rw [view] at seenAs
    split at seenAs <;> cases seenAs
  | _ => cases seenAs

/-- A closed type that can stand in a set, and is tidy. -/
structure Tidy (known : List ClassRef) (type : HostType) : Prop where
  closed : type.isClosed = true
  hashable : type.unhashable? = Option.none
  tidy : type.isTidy known = true

namespace Tidy

variable {known : List ClassRef}

theorem present {type : HostType} (tidy : type.Tidy known) : type.present.Tidy known :=
  ⟨isClosed_present tidy.closed, by rw [unhashable?_present, tidy.hashable],
    by rw [isTidy_present, tidy.tidy]⟩

theorem assembled {head : Head} {args : List HostType} (takes : head.takes args.length = true)
    (isKnown : head.isKnown known = true) (tidy : ∀ arg ∈ args, arg.Tidy known)
    (plain : head.isClass = true → ∀ arg ∈ args, arg.renaming? = Option.none) :
    (assembled head args).Tidy known where
  closed := isClosed_assembled takes fun arg member => (tidy arg member).closed
  hashable := hashable_assembled.mpr fun arg member => (tidy arg member).hashable
  tidy := by
    have native : head.native.isKnown known = true ∧ head.native.isClass = head.isClass := by
      cases head <;> exact ⟨isKnown, rfl⟩
    have filled {shown : List HostType} (each : ∀ arg ∈ shown, arg.isTidy known = true)
        (bare : head.isClass = true → ∀ arg ∈ shown, arg.renaming? = Option.none) :
        (applied head.native shown).isTidy known = true := by
      rw [isTidy, native.1, native.2, areTidy_iff.mpr each, Bool.and_true, Bool.true_and]
      rcases isClass : head.isClass with _ | _
      · rfl
      · simpa using bare isClass
    have each : ∀ arg ∈ args, arg.isTidy known = true := fun arg member => (tidy arg member).tidy
    rcases assembled_shape head args with shape | shape
    · rw [shape]
      exact filled each plain
    · rw [shape]
      refine filled ?_ fun isClass => ?_
      · simpa only [List.forall_mem_map, isTidy_present] using each
      · simpa only [List.forall_mem_map, renaming?_present] using plain isClass

theorem united {members : List HostType} (some : members ≠ [])
    (tidy : ∀ member ∈ members, member.Tidy known) (several : members.length ≠ 1)
    (single : ∀ member ∈ members, member.form ≠ .union) (apart : (members.map form).Nodup) :
    (united members).Tidy known where
  closed := isClosed_united some fun member inside => (tidy member inside).closed
  hashable := hashable_united fun member inside => (tidy member inside).hashable
  tidy := by
    rw [united_of_forms several single apart, isTidy, map_form_present, decide_eq_true apart,
      Bool.true_and, areTidy_iff, List.forall_mem_map]
    exact fun member inside => (tidy member inside).present.tidy

theorem noted {base : HostType} {metadata : List HostType} (some : metadata ≠ [])
    (tidy : base.Tidy known) (hashable : unhashableIn? metadata = Option.none)
    (notes : areTidy known metadata = true) : (noted base metadata).Tidy known where
  closed := isClosed_noted tidy.closed some
  hashable := hashable_noted.mpr ⟨tidy.hashable, hashable⟩
  tidy := by
    have shown := tidy.present.tidy
    rw [HostType.noted]
    generalize base.present = shape at shown
    cases shape with
    | annotated inner own =>
      obtain ⟨inside, each⟩ := Bool.and_eq_true_iff.mp shown
      rw [isTidy, inside, Bool.true_and, areTidy_iff]
      rw [areTidy_iff] at each notes
      exact List.forall_mem_append.mpr ⟨each, notes⟩
    | _ => exact Bool.and_eq_true_iff.mpr ⟨shown, notes⟩

theorem base {base : HostType} {metadata : List HostType}
    (tidy : (annotated base metadata).Tidy known) : base.Tidy known := by
  obtain ⟨closed, hashable, tidy⟩ := tidy
  rw [isClosed, Bool.and_eq_true, Bool.and_eq_true] at closed
  exact ⟨closed.1.1, (Option.or_eq_none_iff.mp hashable).1, (Bool.and_eq_true_iff.mp tidy).1⟩

theorem arg {head : Head} {args : List HostType} (tidy : (applied head args).Tidy known)
    {arg : HostType} (member : arg ∈ args) :
    arg.Tidy known ∧ (head.isClass = true → arg.renaming? = Option.none) := by
  obtain ⟨closed, hashable, tidy⟩ := tidy
  rw [isTidy, Bool.and_eq_true, Bool.and_eq_true] at tidy
  obtain ⟨⟨-, plain⟩, each⟩ := tidy
  refine ⟨⟨areClosed_eq_true.mp (Bool.and_eq_true_iff.mp closed).2 arg member,
    unhashableIn?_eq_none.mp hashable arg member, areTidy_iff.mp each arg member⟩,
      fun isClass => ?_⟩
  rw [isClass, Bool.not_true, Bool.false_or, List.all_eq_true] at plain
  exact Option.isNone_iff_eq_none.mp (plain arg member)

theorem member {spelling : Spelling} {members : List HostType}
    (tidy : (union spelling members).Tidy known) {member : HostType} (inside : member ∈ members) :
    member.Tidy known := by
  obtain ⟨closed, hashable, tidy⟩ := tidy
  exact ⟨areClosed_eq_true.mp (Bool.and_eq_true_iff.mp closed).2 member inside,
    unhashableIn?_eq_none.mp hashable member inside,
    areTidy_iff.mp (Bool.and_eq_true_iff.mp tidy).2 member inside⟩

/-- The types inside a tidy type are tidy. -/
theorem part {type : HostType} (tidy : type.Tidy known) {part : HostType}
    (inside : part ∈ type.parts) : part.Tidy known := by
  fun_induction parts type with
  | case1 base metadata ih => exact ih tidy.base inside
  | case2 head args => exact (tidy.arg inside).1
  | case3 spelling type =>
    rw [List.mem_singleton.mp inside]
    exact tidy.member (by simp)
  | case4 spelling type =>
    rw [List.mem_singleton.mp inside]
    exact tidy.member (by simp)
  | case5 spelling members => exact tidy.member inside
  | case6 => cases inside

/-- What a class has for its type parameters has no renaming around it. -/
theorem plain_part {type : HostType} (tidy : type.Tidy known) {ref : ClassRef}
    (seenAs : type.view.class? = some ref) {part : HostType} (inside : part ∈ type.parts) :
    part.renaming? = Option.none := by
  fun_induction parts type with
  | case1 base metadata ih => exact ih tidy.base seenAs inside
  | case2 head args =>
    refine (tidy.arg inside).2 ?_
    cases head <;> first | rfl | cases seenAs
  | case3 spelling type => cases (show Option.none = some ref from seenAs)
  | case4 spelling type other =>
    rw [view_union, optionalPart?] at seenAs
    · cases seenAs
    · exact other
  | case5 spelling members =>
    rw [view_union] at seenAs
    split at seenAs <;> cases seenAs
  | case6 => cases inside

end Tidy

end HostType

end WireModel
