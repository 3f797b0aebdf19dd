import WireModel.Proofs.Codec.Package

/-!
How closed types are built of parts: of arguments in brackets, of the members of a union, of a base
and its metadata. What was built for equal parts before is given again, so that the parts of a type
may be others than those that were given, but equal ones.
-/

namespace WireModel

/-- Brackets behind the head take so many arguments. -/
def Head.takes (head : Head) (count : Nat) : Bool :=
  match head with
  | .list _ | .map _ => true
  | .box => count == 1
  | .declared ref =>
    !(ref.category matches .enumeration _) &&
      (ref.brackets == .anyNumber ||
        ref.brackets == .parameters && !ref.parameters.isEmpty && count == ref.parameters.length)
  | .builtin _ | .classVar | .literal | .generic => false

/-- What the brackets behind a head are put behind; lists and maps are put together as they are. -/
def Head.target : Head → HostType
  | .box => .builtin .box
  | .declared ref => .declared ref
  | _ => .none

def Head.isQualified : Head → Bool
  | .list .qualified | .map .qualified => true
  | _ => false

namespace HostType

def isUnion : HostType → Bool
  | .union .. => true
  | _ => false

def isAnnotated : HostType → Bool
  | .annotated .. => true
  | _ => false

/-- A hint without parts that stands for itself: a primitive, a class, a container without brackets,
or the absent value. -/
def isAtom : HostType → Bool
  | .primitive _ | .declared _ | .noneType | .none => true
  | .builtin (.classNamed name) => name == "list" || name == "dict"
  | .builtin .listForm | .builtin .mapForm | .builtin .box => true
  | _ => false

mutual

/-- A hint without type variables and string annotations, at whatever depth. Unions are flat, and
metadata stand in one list. -/
def isClosed : HostType → Bool
  | .applied head args => head.takes args.length && areClosed args
  | .union _ members => !members.isEmpty && members.all (!·.isUnion) && areClosed members
  | .annotated base metadata => isClosed base && !base.isAnnotated && !metadata.isEmpty
  | type => type.isAtom

/-- Hints without type variables and string annotations. -/
def areClosed : List HostType → Bool
  | [] => true
  | type :: rest => isClosed type && areClosed rest

end

theorem areClosed_eq_true {types : List HostType} :
    areClosed types = true ↔ ∀ type ∈ types, type.isClosed = true := by
  induction types with
  | nil => simp [areClosed]
  | cons type rest ih => simp [areClosed, ih]

theorem unhashableIn?_eq_none {types : List HostType} :
    unhashableIn? types = Option.none ↔ ∀ type ∈ types, type.unhashable? = Option.none := by
  induction types with
  | nil => simp [unhashableIn?]
  | cons type rest ih => simp [unhashableIn?, ih]

theorem sameList_iff {types others : List HostType} :
    sameList types others = true ↔
      List.Forall₂ (fun type other => type.same other = true) types others := by
  induction types generalizing others with
  | nil => cases others <;> simp [sameList]
  | cons type rest ih => cases others <;> simp [sameList, ih]

theorem allIn_iff {types others : List HostType} :
    allIn types others = true ↔ ∀ type ∈ types, ∃ other ∈ others, type.same other = true := by
  induction types with
  | nil => simp [allIn]
  | cons type rest ih => simp [allIn, ih]

/-- A closed type is no string annotation, and nothing that counts as a text. -/
theorem asText?_of_isClosed {type : HostType} (closed : type.isClosed = true) :
    type.asText? = Option.none := by
  cases type <;> first | rfl | cases closed

/-- Types that are one are unions both or neither, and annotated both or neither. -/
theorem shape_of_same {type other : HostType} (same : type.same other = true) :
    type.isUnion = other.isUnion ∧ type.isAnnotated = other.isAnnotated := by
  cases type with
  | container kind items =>
    cases other <;> first
      | exact ⟨rfl, rfl⟩
      | (rcases kind with _ | _ | _ | _ | _ | _ | (_ | _ | _) | _ <;> cases same)
  | _ => cases other <;> first | exact ⟨rfl, rfl⟩ | cases same

mutual

/-- A type that is one with a closed type is closed. -/
theorem isClosed_of_same (type : HostType) {other : HostType} (same : type.same other = true)
    (closed : other.isClosed = true) : type.isClosed = true := by
  cases type with
  | primitive _ | declared _ | noneType | none => rfl
  | builtin form =>
    cases other with
    | builtin other =>
      rw [show form = other from beq_iff_eq.mp same]
      exact closed
    | _ => cases same
  | applied head args =>
    cases other with
    | applied other others =>
      obtain ⟨equal, inside⟩ := Bool.and_eq_true_iff.mp same
      obtain rfl : head = other := beq_iff_eq.mp equal
      obtain ⟨takes, each⟩ := Bool.and_eq_true_iff.mp closed
      have noLiteral : head ≠ .literal := by
        rintro rfl
        cases takes
      rw [if_neg noLiteral] at inside
      rw [isClosed, areClosed_of_sameList args inside each,
        (sameList_iff.mp inside).length_eq, takes]
      rfl
    | _ => cases same
  | union _ members =>
    cases other with
    | union _ others =>
      obtain ⟨count, inside⟩ := Bool.and_eq_true_iff.mp same
      rw [isClosed, Bool.and_eq_true, Bool.and_eq_true] at closed
      obtain ⟨⟨some, flat⟩, each⟩ := closed
      rw [isClosed, areClosed_of_allIn members inside each, Bool.and_true, Bool.and_eq_true]
      constructor
      · cases members with
        | nil =>
          cases others with
          | nil => cases some
          | cons other rest => cases count
        | cons member rest => rfl
      · rw [List.all_eq_true] at flat ⊢
        intro member here
        obtain ⟨counterpart, there, equal⟩ := allIn_iff.mp inside member here
        rw [(shape_of_same equal).1]
        exact flat counterpart there
    | _ => cases same
  | annotated base metadata =>
    cases other with
    | annotated other notes =>
      obtain ⟨equal, listed⟩ := Bool.and_eq_true_iff.mp same
      rw [isClosed, Bool.and_eq_true, Bool.and_eq_true] at closed
      obtain ⟨⟨inside, single⟩, some⟩ := closed
      rw [isClosed, isClosed_of_same base equal inside, (shape_of_same equal).2, single,
        Bool.true_and, Bool.true_and]
      cases metadata with
      | nil =>
        cases notes with
        | nil => cases some
        | cons note rest => cases listed
      | cons note rest => rfl
    | _ => cases same
  | container kind items =>
    cases other <;> first
      | (rcases kind with _ | _ | _ | _ | _ | _ | (_ | _ | _) | _ <;> cases same)
      | cases closed
  | «variable» _ | text _ | reference _ _ | initVar _ | constant _ | record _ _ | bound _ _ _ =>
    cases other <;> first | cases same | cases closed

theorem areClosed_of_sameList (types : List HostType) {others : List HostType}
    (same : sameList types others = true) (closed : areClosed others = true) :
    areClosed types = true := by
  cases types with
  | nil => rfl
  | cons type rest =>
    cases others with
    | nil => cases same
    | cons other behind =>
      obtain ⟨first, remaining⟩ := Bool.and_eq_true_iff.mp same
      obtain ⟨here, later⟩ := Bool.and_eq_true_iff.mp closed
      rw [areClosed, isClosed_of_same type first here, areClosed_of_sameList rest remaining later]
      rfl

theorem areClosed_of_allIn (types : List HostType) {others : List HostType}
    (inside : allIn types others = true) (closed : areClosed others = true) :
    areClosed types = true := by
  cases types with
  | nil => rfl
  | cons type rest =>
    obtain ⟨first, remaining⟩ := Bool.and_eq_true_iff.mp inside
    obtain ⟨other, member, same⟩ := List.any_eq_true.mp first
    rw [areClosed, isClosed_of_same type same (areClosed_eq_true.mp closed other member),
      areClosed_of_allIn rest remaining closed]
    rfl

end

/-- What is built of arguments behind a head, where nothing was built before: lists and maps take
the native spelling. -/
def assembled (head : Head) (args : List HostType) : HostType :=
  match head with
  | .list _ => .applied (.list .native) args
  | .map _ => .applied (.map .native) args
  | .declared ref =>
    .applied (.declared ref) (if ref.brackets = .anyNumber then args else args.map present)
  | head => .applied head (args.map present)

/-- What is built of the members of a union. -/
def united (members : List HostType) : HostType :=
  unite .qualified (members.map present)

/-- What is built of a type and metadata. -/
def noted (base : HostType) (metadata : List HostType) : HostType :=
  match base.present with
  | .annotated inner own => .annotated inner (own ++ metadata)
  | base => .annotated base metadata

mutual

/-- The type built again of its own parts, at whatever depth. -/
def respelled : HostType → HostType
  | .applied head [] => .applied head []
  | .applied head args => assembled head (respelledAll args)
  | .union _ members => united (respelledAll members)
  | .annotated base metadata => noted (respelled base) metadata
  | type => type

/-- The types built again. -/
def respelledAll : List HostType → List HostType
  | [] => []
  | type :: rest => respelled type :: respelledAll rest

end

/-- The types are one as far as building tells: equal, or built of parts that are. A union is what
is built of its members, whatever their order and its spelling; the spelling of lists and maps
counts. -/
inductive Alike : HostType → HostType → Prop
  | refl (type : HostType) : Alike type type
  | symm {type other : HostType} : Alike type other → Alike other type
  | trans {type other last : HostType} : Alike type other → Alike other last → Alike type last
  | equal {type other : HostType} : type.same other = true → Alike type other
  | assembled {head : Head} {args others : List HostType} : List.Forall₂ Alike args others →
    Alike (assembled head args) (assembled head others)
  | united {members others : List HostType} : List.Forall₂ Alike members others →
    Alike (united members) (united others)
  | noted {base other : HostType} {metadata : List HostType} : Alike base other →
    Alike (noted base metadata) (noted other metadata)
  | applied {head : Head} (args : List HostType) : head.isQualified = false →
    Alike (assembled head args) (.applied head args)
  | union (spelling : Spelling) (members : List HostType) :
    Alike (united members) (.union spelling members)
  | annotated (base : HostType) (metadata : List HostType) :
    Alike (noted base metadata) (.annotated base metadata)

theorem withMetadata_ok {base type : HostType} {metadata : List HostType}
    (attached : base.present.withMetadata metadata = .ok type) : type = noted base metadata := by
  unfold noted
  generalize base.present = shown at attached ⊢
  cases shown with
  | annotated inner own => exact (Except.ok.inj attached).symm
  | _ =>
    rw [withMetadata] at attached
    · split at attached <;> cases attached
      rfl
    · intro inner own same
      cases same

/-- A closed type takes metadata. -/
theorem withMetadata_of_isClosed {base : HostType} (closed : base.isClosed = true)
    (metadata : List HostType) :
    base.present.withMetadata metadata = .ok (noted base metadata) := by
  cases base <;> first | rfl | cases closed

theorem isClosed_present {type : HostType} (closed : type.isClosed = true) :
    type.present.isClosed = true := by
  cases type <;> first | rfl | exact closed

theorem unhashable?_present {type : HostType} : type.present.unhashable? = type.unhashable? := by
  cases type <;> rfl

theorem mem_withoutRepetitions {types : List HostType} {type : HostType}
    (member : type ∈ withoutRepetitions types) : type ∈ types := by
  induction types with
  | nil => exact member
  | cons first rest ih =>
    rcases List.mem_cons.mp member with rfl | later
    · exact List.mem_cons_self ..
    · exact List.mem_cons_of_mem _ (ih (List.mem_filter.mp later).1)

theorem isClosed_members {type member : HostType} (closed : type.isClosed = true)
    (inside : member ∈ type.members) : member.isClosed = true ∧ member.isUnion = false := by
  cases type with
  | union spelling members =>
    rw [isClosed, Bool.and_eq_true, Bool.and_eq_true] at closed
    obtain ⟨⟨-, flat⟩, each⟩ := closed
    have single := List.all_eq_true.mp flat member inside
    rw [Bool.not_eq_true'] at single
    exact ⟨areClosed_eq_true.mp each member inside, single⟩
  | _ =>
    obtain rfl := List.mem_singleton.mp inside
    exact ⟨closed, rfl⟩

theorem members_ne_nil {type : HostType} (closed : type.isClosed = true) : type.members ≠ [] := by
  cases type with
  | union spelling members =>
    rintro rfl
    cases closed
  | _ => exact List.cons_ne_nil _ _

/-- A union of types is one of the parts that they bring, or has some of these as its members. -/
theorem united_cases {property : HostType → Prop} {members : List HostType}
    (each : ∀ member ∈ members, ∀ part ∈ member.present.members, property part) :
    property (united members) ∨
    united members =
      .union .qualified (withoutRepetitions ((members.map present).flatMap HostType.members)) ∧
      ∀ part ∈ withoutRepetitions ((members.map present).flatMap HostType.members),
        property part := by
  have parts : ∀ part ∈ withoutRepetitions ((members.map present).flatMap HostType.members),
      property part := by
    intro part inside
    obtain ⟨type, listed, here⟩ := List.mem_flatMap.mp (mem_withoutRepetitions inside)
    obtain ⟨origin, known, rfl⟩ := List.mem_map.mp listed
    exact each origin known part here
  unfold united unite
  split
  · next type single =>
    rw [single] at parts
    exact .inl (parts type (List.mem_singleton_self type))
  · exact .inr ⟨rfl, parts⟩

/-- The union of closed types is closed. -/
theorem isClosed_united {members : List HostType} (some : members ≠ [])
    (closed : ∀ member ∈ members, member.isClosed = true) : (united members).isClosed = true := by
  have each : ∀ member ∈ members, ∀ part ∈ member.present.members,
      part.isClosed = true ∧ part.isUnion = false :=
    fun member known part here => isClosed_members (isClosed_present (closed member known)) here
  rcases united_cases each with single | ⟨same, parts⟩
  · exact single.1
  · rw [same, isClosed, Bool.and_eq_true, Bool.and_eq_true]
    refine ⟨⟨?_, ?_⟩, ?_⟩
    · obtain ⟨first, rest, rfl⟩ := List.exists_cons_of_ne_nil some
      have here := members_ne_nil (isClosed_present (closed first (List.mem_cons_self ..)))
      obtain ⟨member, others, known⟩ := List.exists_cons_of_ne_nil here
      rw [List.map_cons, List.flatMap_cons, known]
      rfl
    · rw [List.all_eq_true]
      intro member inside
      rw [(parts member inside).2]
      rfl
    · exact areClosed_eq_true.mpr fun member inside => (parts member inside).1

theorem hashable_assembled {head : Head} {args : List HostType} :
    (assembled head args).unhashable? = Option.none ↔
      ∀ arg ∈ args, arg.unhashable? = Option.none := by
  have converted : unhashableIn? (args.map present) = Option.none ↔
      ∀ arg ∈ args, arg.unhashable? = Option.none := by
    simp only [unhashableIn?_eq_none, List.forall_mem_map, unhashable?_present]
  rw [← unhashableIn?_eq_none] at converted ⊢
  cases head with
  | list _ | map _ => rfl
  | declared ref =>
    rw [assembled, unhashable?]
    split
    · rfl
    · exact converted
  | _ => exact converted

theorem hashable_united {members : List HostType}
    (hashable : ∀ member ∈ members, member.unhashable? = Option.none) :
    (united members).unhashable? = Option.none := by
  have each : ∀ member ∈ members, ∀ part ∈ member.present.members,
      part.unhashable? = Option.none := by
    intro member known part here
    have whole : member.present.unhashable? = Option.none :=
      unhashable?_present.trans (hashable member known)
    generalize member.present = shown at here whole
    cases shown with
    | union spelling members => exact unhashableIn?_eq_none.mp whole part here
    | _ =>
      obtain rfl := List.mem_singleton.mp here
      exact whole
  rcases united_cases each with single | ⟨same, parts⟩
  · exact single
  · rw [same]
    exact unhashableIn?_eq_none.mpr parts

theorem hashable_noted {base : HostType} {metadata : List HostType} :
    (noted base metadata).unhashable? = Option.none ↔
      base.unhashable? = Option.none ∧ unhashableIn? metadata = Option.none := by
  have converted : base.present.unhashable? = base.unhashable? := unhashable?_present
  rw [← converted, noted]
  generalize base.present = shown
  cases shown with
  | annotated inner own =>
    simp only [unhashable?, Option.or_eq_none_iff, unhashableIn?_eq_none,
      List.forall_mem_append, and_assoc]
  | _ => exact Option.or_eq_none_iff

end HostType

namespace Building

open HostType

/-- A type is given that was built for equal arguments before, or is built for these and
remembered. -/
theorem run_once (construction : Construction) {make : Building HostType}
    {gives : ∀ {before type after}, make.run.run before = (.ok type, after) →
      construction.Gives type}
    (before : Memory) :
    (∃ known ∈ before.built, known.construction.same construction = true ∧
      (once construction make gives).run.run before = (.ok known.type, before)) ∨
    (∃ type between after, make.run.run before = (.ok type, between) ∧
      (once construction make gives).run.run before = (.ok type, after) ∧
      after.modules = between.modules ∧
      ∀ built ∈ after.built, built ∈ between.built ∨ built.construction = construction) ∨
    ∃ fault after, make.run.run before = (.error fault, after) ∧
      (once construction make gives).run.run before = (.error fault, after) := by
  have looked : (get : Building Memory).run.run before = (.ok before, before) := rfl
  rw [once, Outcome.run_bind_of_ok looked]
  split
  · next type found =>
    obtain ⟨known, listed, rfl⟩ := Option.map_eq_some_iff.mp found
    have same : known.construction.same construction = true :=
      @List.find?_some _ (fun known : Built => known.construction.same construction) _ _ listed
    exact .inl ⟨known, List.mem_of_find?_eq_some listed, same, rfl⟩
  · rcases run : make.run.run before with ⟨fault | type, between⟩
    · rw [Outcome.run_bind_of_error (run_attach_error run)]
      exact .inr (.inr ⟨fault, between, rfl, rfl⟩)
    · rw [Outcome.run_bind_of_ok (run_attach_ok run)]
      dsimp only
      split
      · refine .inr (.inl ⟨type, between, _, rfl, rfl, rfl, fun built member => ?_⟩)
        rcases List.mem_cons.mp member with rfl | member
        · exact .inr rfl
        · exact .inl member
      · exact .inr (.inl ⟨type, between, _, rfl, rfl, rfl, fun _ member => .inl member⟩)

end Building

namespace HostType

/-- Arguments that may stand for the given ones: these themselves, or equal ones that a type was
built for before, which can all stand in a set. -/
def Kept (kept given : List HostType) : Prop :=
  kept = given ∨ sameList kept given = true ∧ ∀ type ∈ kept, type.unhashable? = Option.none

/-- The type was built where another one was wanted. -/
structure Renders (made wanted : HostType) : Prop where
  closed : made.isClosed = true
  alike : made.Alike wanted
  hashable : wanted.unhashable? = Option.none → made.unhashable? = Option.none

theorem Renders.refl {type : HostType} (closed : type.isClosed = true) : type.Renders type :=
  ⟨closed, .refl type, id⟩

theorem Renders.trans {made middle wanted : HostType} (first : made.Renders middle)
    (second : middle.Renders wanted) : made.Renders wanted :=
  ⟨first.closed, first.alike.trans second.alike, fun hashable =>
    first.hashable (second.hashable hashable)⟩

theorem Kept.renders {kept given wanted : List HostType} (stands : Kept kept given)
    (renders : List.Forall₂ Renders given wanted) : List.Forall₂ Renders kept wanted := by
  rcases stands with rfl | ⟨same, hashable⟩
  · exact renders
  · have parts := sameList_iff.mp same
    clear same
    induction parts generalizing wanted with
    | nil => exact renders
    | @cons type other _ _ equal _ ih =>
      cases renders with
      | cons first behind =>
        have stands : type.Renders other :=
          ⟨isClosed_of_same type equal first.closed, .equal equal, fun _ =>
            hashable type (List.mem_cons_self ..)⟩
        exact .cons (stands.trans first)
          (ih behind fun later member => hashable later (List.mem_cons_of_mem _ member))

theorem isClosed_assembled {head : Head} {args : List HostType}
    (takes : head.takes args.length = true)
    (closed : ∀ arg ∈ args, arg.isClosed = true) : (assembled head args).isClosed = true := by
  have plain : areClosed args = true := areClosed_eq_true.mpr closed
  have converted : areClosed (args.map present) = true := by
    rw [areClosed_eq_true, List.forall_mem_map]
    exact fun arg member => isClosed_present (closed arg member)
  cases head with
  | list _ | map _ => exact plain
  | declared ref =>
    rw [assembled, isClosed, Bool.and_eq_true]
    split
    · exact ⟨takes, plain⟩
    · rw [List.length_map]
      exact ⟨takes, converted⟩
  | box =>
    have parts : (assembled .box args).isClosed =
        (Head.box.takes (args.map present).length && areClosed (args.map present)) := rfl
    rw [parts, List.length_map, takes]
    exact converted
  | _ => cases takes

theorem isClosed_noted {base : HostType} {metadata : List HostType} (closed : base.isClosed = true)
    (some : metadata ≠ []) : (noted base metadata).isClosed = true := by
  have shown := isClosed_present closed
  obtain ⟨note, rest, rfl⟩ := List.exists_cons_of_ne_nil some
  rw [noted]
  generalize base.present = shape at shown
  cases shape with
  | annotated inner own =>
    rw [isClosed, Bool.and_eq_true, Bool.and_eq_true] at shown ⊢
    exact ⟨shown.1, by simp⟩
  | _ =>
    rw [isClosed, shown]
    rfl

theorem present_same {type other : HostType} (same : type.same other = true) :
    type.present.same other.present = true := by
  cases type with
  | none => cases other <;> first | rfl | cases same
  | container kind items =>
    cases other <;> first
      | exact same
      | (rcases kind with _ | _ | _ | _ | _ | _ | (_ | _ | _) | _ <;> cases same)
  | _ => cases other <;> first | exact same | cases same

theorem noted_of_same {base other : HostType} {metadata notes : List HostType}
    (same : base.same other = true) (listed : sameList metadata notes = true) :
    (noted base metadata).same (noted other notes) = true := by
  have equal := present_same same
  have shape := (shape_of_same equal).2
  rw [noted, noted]
  generalize base.present = shown at equal shape ⊢
  generalize other.present = known at equal shape ⊢
  have plain : (shown.annotated metadata).same (known.annotated notes) = true :=
    Bool.and_eq_true_iff.mpr ⟨equal, listed⟩
  cases shown with
  | annotated inner own =>
    cases known with
    | annotated core kept =>
      obtain ⟨first, second⟩ := Bool.and_eq_true_iff.mp equal
      refine Bool.and_eq_true_iff.mpr ⟨first, ?_⟩
      rw [sameList_iff] at second listed ⊢
      exact List.rel_append second listed
    | _ => cases shape
  | _ =>
    cases known with
    | annotated core kept => cases shape
    | _ => exact plain

theorem Renders.assembled {head : Head} {args wanted : List HostType}
    (renders : List.Forall₂ Renders args wanted) (takes : head.takes args.length = true) :
    (assembled head args).Renders (assembled head wanted) where
  closed := by
    refine isClosed_assembled takes fun arg member => ?_
    obtain ⟨other, -, rendered⟩ := Outcome.exists_related renders member
    exact rendered.closed
  alike := .assembled (renders.imp fun _ _ rendered => rendered.alike)
  hashable := by
    rw [hashable_assembled, hashable_assembled]
    intro hashable arg member
    obtain ⟨other, known, rendered⟩ := Outcome.exists_related renders member
    exact rendered.hashable (hashable other known)

theorem Renders.united {members wanted : List HostType}
    (renders : List.Forall₂ Renders members wanted)
    (some : members ≠ []) (hashable : ∀ member ∈ members, member.unhashable? = Option.none) :
    (united members).Renders (united wanted) where
  closed := by
    refine isClosed_united some fun member inside => ?_
    obtain ⟨other, -, rendered⟩ := Outcome.exists_related renders inside
    exact rendered.closed
  alike := .united (renders.imp fun _ _ rendered => rendered.alike)
  hashable := fun _ => hashable_united hashable

theorem Renders.noted {base wanted : HostType} {metadata : List HostType}
    (renders : base.Renders wanted)
    (some : metadata ≠ []) : (noted base metadata).Renders (noted wanted metadata) where
  closed := isClosed_noted renders.closed some
  alike := .noted renders.alike
  hashable := by
    rw [hashable_noted, hashable_noted]
    exact And.imp_left renders.hashable

theorem converted_closed {type : HostType} (closed : type.isClosed = true) (allowsClassVar : Bool)
    (before : Memory) :
    (type.converted allowsClassVar).run.run before = (.ok type.present, before) := by
  cases type <;> first | rfl | cases closed

theorem checkedForm_closed {type : HostType} (closed : type.isClosed = true) (allowsClassVar : Bool)
    (expectation : Expectation) (before : Memory) :
    (type.checkedForm allowsClassVar expectation).run.run before = (.ok type.present, before) := by
  rw [checkedForm, Outcome.run_bind_of_ok (converted_closed closed allowsClassVar before)]
  cases type with
  | builtin form => cases form <;> first | rfl | cases closed
  | applied head args => cases head <;> first | rfl | cases closed
  | _ => first | rfl | cases closed

theorem mapM_closed {step : HostType → Building HostType} {args : List HostType}
    (each : ∀ arg ∈ args, ∀ before, (step arg).run.run before = (.ok arg.present, before))
    (before : Memory) : (args.mapM step).run.run before = (.ok (args.map present), before) := by
  induction args with
  | nil => rfl
  | cons arg rest ih =>
    rw [List.mapM_cons, Outcome.run_bind_of_ok (each arg (List.mem_cons_self ..) before),
      Outcome.run_bind_of_ok (ih fun other later => each other (List.mem_cons_of_mem _ later))]
    rfl

def isName : HostType → Bool
  | .primitive _ | .declared _ | .builtin _ | .variable _ => true
  | _ => false

theorem eq_of_same {type name : HostType} (isName : name.isName = true)
    (same : type.same name = true) :
    type = name := by
  cases name with
  | primitive _ | declared _ | builtin _ | «variable» _ =>
    cases type with
    | container kind items =>
      rcases kind with _ | _ | _ | _ | _ | _ | (_ | _ | _) | _ <;> cases same
    | _ => first | cases same | rw [beq_iff_eq.mp same]
  | _ => cases isName

/-- What brackets behind a target go back to and leave behind: the type may have been built for
other arguments, which are remembered, and nothing but the given ones is remembered anew. No module
binds a name meanwhile. -/
structure Recalls (target : HostType) (given kept : List HostType)
    (before after : Memory) : Prop where
  known : kept = given ∨ ∃ built ∈ before.built,
    built.construction.target = target ∧ built.construction.args = kept
  rest : ∀ built ∈ after.built, built ∈ before.built ∨
    built.construction.target = target ∧ built.construction.args = given
  modules : after.modules = before.modules

theorem Recalls.refl (target : HostType) (given : List HostType) (memory : Memory) :
    Recalls target given given memory memory :=
  ⟨.inl rfl, fun _ member => .inl member, rfl⟩

theorem Recalls.of_known {known : Built} {memory : Memory} (listed : known ∈ memory.built)
    (given : List HostType) :
    Recalls known.construction.target given known.construction.args memory memory :=
  ⟨.inr ⟨known, listed, rfl, rfl⟩, fun _ member => .inl member, rfl⟩

theorem Recalls.of_fresh {target : HostType} {given : List HostType} {isTuple : Bool}
    {before after : Memory} (modules : after.modules = before.modules)
    (fresh : ∀ built ∈ after.built, built ∈ before.built ∨
      built.construction = ⟨target, given, isTuple⟩) : Recalls target given given before after := by
  refine ⟨.inl rfl, fun built member => (fresh built member).imp_right fun same => ?_, modules⟩
  rw [same]
  exact ⟨rfl, rfl⟩

/-- What was built before for arguments behind a target that has no parts. -/
theorem Kept.of_built {known : Built} {target : HostType} {args : List HostType} {isTuple : Bool}
    (name : target.isName = true) (same : known.construction.same ⟨target, args, isTuple⟩ = true) :
    known.construction.target = target ∧ Kept known.construction.args args ∧
      (∀ arg ∈ known.construction.args, arg.unhashable? = Option.none) ∧
      Construction.Gives ⟨target, known.construction.args, known.construction.isTuple⟩
        known.type := by
  obtain ⟨⟨found, kept, isTuple⟩, type, stable, gives⟩ := known
  rw [Construction.same, Bool.and_eq_true, Bool.and_eq_true] at same
  obtain ⟨⟨-, equal⟩, listed⟩ := same
  obtain rfl := eq_of_same name equal
  have hashable : ∀ arg ∈ kept, arg.unhashable? = Option.none := by
    have all := unhashableIn?_eq_none.mp (Option.isNone_iff_eq_none.mp stable)
    exact fun arg member => all arg (List.mem_cons_of_mem _ member)
  exact ⟨rfl, .inr ⟨listed, hashable⟩, hashable, gives⟩

/-- Where building does not fail, a type is given that was built for the arguments or for equal
ones. -/
theorem Kept.of_once (target : HostType) (args : List HostType) (isTuple : Bool)
    {make : Building HostType}
    (gives : ∀ {before type after}, make.run.run before = (.ok type, after) →
      Construction.Gives ⟨target, args, isTuple⟩ type) {before : Memory}
    (name : target.isName = true) (total : ∃ type, make.run.run before = (.ok type, before)) :
    ∃ kept again type after,
      (Building.once ⟨target, args, isTuple⟩ make gives).run.run before = (.ok type, after) ∧
        Kept kept args ∧ Recalls target args kept before after ∧
        Construction.Gives ⟨target, kept, again⟩ type := by
  obtain ⟨built, runs⟩ := total
  rcases Building.run_once ⟨target, args, isTuple⟩ before with ⟨known, listed, same, run⟩ |
    ⟨type, between, after, first, run, modules, fresh⟩ | ⟨fault, after, first, run⟩
  · obtain ⟨rfl, kept, -, given⟩ := Kept.of_built name same
    exact ⟨_, _, _, _, run, kept, .of_known listed args, given⟩
  · cases first.symm.trans runs
    exact ⟨args, isTuple, _, after, run, .inl rfl, .of_fresh modules fresh, gives first⟩
  · cases first.symm.trans runs

theorem Kept.read {kept given : List HostType} (stands : Kept kept given)
    (closed : ∀ type ∈ given, type.isClosed = true) :
    ∀ type ∈ kept, type.asText? = Option.none := by
  intro type member
  have renders := stands.renders (List.forall₂_same.mpr fun type known => .refl (closed type known))
  obtain ⟨other, -, rendered⟩ := Outcome.exists_related renders member
  exact asText?_of_isClosed rendered.closed

/-- Closed types are united unless one of them cannot stand in a set. -/
theorem unionOf_closed {members : List HostType} (some : members ≠ [])
    (closed : ∀ member ∈ members, member.isClosed = true) (before : Memory) :
    (∃ kept after, (unionOf members true).run.run before = (.ok (united kept), after) ∧
      Kept kept members ∧ Recalls (.builtin .unionForm) members kept before after ∧
      ∀ member ∈ kept, member.unhashable? = Option.none) ∨
    ∃ typeName after, (unionOf members true).run.run before =
      (.error (.unhashable typeName), after) ∧
      ¬∀ member ∈ members, member.unhashable? = Option.none := by
  have checks : (members.mapM (checked .union)).run.run before =
      (.ok (members.map present), before) :=
    mapM_closed (fun member inside => checkedForm_closed (closed member inside) _ _) before
  have fresh : (freshUnion members).run.run before =
      (liftM (checkHashable (members.map present)) >>= fun _ =>
        Pure.pure (united members) : Building HostType).run.run before := by
    rw [freshUnion, if_neg (by simpa using some), Outcome.run_bind_of_ok checks]
    rfl
  have hashable : unhashableIn? (members.map present) = Option.none ↔
      ∀ member ∈ members, member.unhashable? = Option.none := by
    simp only [unhashableIn?_eq_none, List.forall_mem_map, unhashable?_present]
  have made : (unhashableIn? (members.map present) = Option.none ∧
        (freshUnion members).run.run before = (.ok (united members), before)) ∨
      ∃ typeName, unhashableIn? (members.map present) = Option.some typeName ∧
        (freshUnion members).run.run before = (.error (.unhashable typeName), before) := by
    rw [fresh, checkHashable]
    rcases unhashableIn? (members.map present) with _ | typeName
    · exact .inl ⟨rfl, rfl⟩
    · exact .inr ⟨typeName, rfl, rfl⟩
  rcases Building.run_once ⟨.builtin .unionForm, members, true⟩ before with
    ⟨known, listed, same, run⟩ | ⟨type, between, after, first, run, modules, fresh⟩ |
    ⟨fault, after, first, run⟩
  · obtain ⟨behind, kept, stable, gives⟩ := Kept.of_built rfl same
    refine .inl ⟨known.construction.args, before, ?_, kept,
      behind ▸ .of_known listed members, stable⟩
    rw [unionOf, run, gives (kept.read closed)]
    rfl
  · rcases made with ⟨none, runs⟩ | ⟨typeName, -, runs⟩
    · cases first.symm.trans runs
      exact .inl ⟨members, after, run, .inl rfl, .of_fresh modules fresh, hashable.mp none⟩
    · cases first.symm.trans runs
  · rcases made with ⟨-, runs⟩ | ⟨typeName, found, runs⟩
    · cases first.symm.trans runs
    · cases first.symm.trans runs
      refine .inr ⟨typeName, _, run, fun all => ?_⟩
      rw [hashable.mpr all] at found
      cases found

/-- A closed type takes metadata. -/
theorem annotate_closed {base : HostType} {metadata : List HostType} (closed : base.isClosed = true)
    (some : metadata ≠ []) (before : Memory) :
    ∃ kept notes after, (base.annotate metadata).run.run before = (.ok (noted kept notes), after) ∧
      Kept (kept :: notes) (base :: metadata) ∧
      Recalls (.builtin .annotatedForm) (base :: metadata) (kept :: notes) before after := by
  obtain ⟨note, rest, rfl⟩ := List.exists_cons_of_ne_nil some
  have total : (subscriptForm .annotatedForm (base :: note :: rest) true).run.run before =
      (.ok (noted base (note :: rest)), before) := by
    rw [subscriptForm, Outcome.run_bind_of_ok (checkedForm_closed closed true .annotated before),
      withMetadata_of_isClosed closed]
    rfl
  obtain ⟨kept, again, type, after, run, stands, recalls, gives⟩ :=
    Kept.of_once (.builtin .annotatedForm) (base :: note :: rest) true subscriptForm_gives
      rfl ⟨_, total⟩
  cases kept with
  | nil =>
    rcases stands with same | ⟨same, -⟩
    · cases same
    · cases same
  | cons first notes =>
    have read : first.asText? = Option.none := by
      rcases stands with same | ⟨same, -⟩
      · cases same
        exact asText?_of_isClosed closed
      · exact asText?_of_isClosed (isClosed_of_same first (Bool.and_eq_true_iff.mp same).1 closed)
    obtain rfl := withMetadata_ok (gives read)
    exact ⟨first, notes, after, run, stands, recalls⟩

/-- Brackets that take so many arguments take closed ones. -/
theorem rebuild_closed {head : Head} {args : List HostType} (takes : head.takes args.length = true)
    (closed : ∀ arg ∈ args, arg.isClosed = true) (before : Memory) :
    ∃ kept after, (rebuild head args).run.run before = (.ok (assembled head kept), after) ∧
      Kept kept args ∧ Recalls head.target args kept before after := by
  have converts : (args.mapM fun arg => converted arg false).run.run before =
      (.ok (args.map present), before) :=
    mapM_closed (fun arg member => converted_closed (closed arg member) false) before
  cases head with
  | list _ | map _ => exact ⟨args, before, rfl, .inl rfl, .refl _ _ _⟩
  | box =>
    have single : (args.map present).length = 1 := by
      rw [List.length_map]
      exact beq_iff_eq.mp takes
    have total : (subscriptForm .box args (1 < args.length)).run.run before =
        (.ok (.applied .box (args.map present)), before) := by
      rw [subscriptForm, Outcome.run_bind_of_ok converts, fill, if_pos single]
      rfl
    obtain ⟨kept, again, type, after, run, stands, recalls, gives⟩ :=
      Kept.of_once (.builtin .box) args (1 < args.length) subscriptForm_gives rfl ⟨_, total⟩
    obtain rfl := gives (stands.read closed)
    exact ⟨kept, after, run, stands, recalls⟩
  | declared ref =>
    obtain ⟨noEnum, brackets⟩ := Bool.and_eq_true_iff.mp takes
    show ∃ kept after, (subscriptClass ref args (1 < args.length)).run.run before =
        (.ok (assembled (.declared ref) kept), after) ∧ Kept kept args ∧
        Recalls (.declared ref) args kept before after
    unfold subscriptClass
    split
    · next known =>
      rw [known] at noEnum
      cases noEnum
    · next known _ =>
      rw [known] at brackets
      cases brackets
    · next known _ =>
      refine ⟨args, before, ?_, .inl rfl, .refl _ _ _⟩
      rw [assembled, if_pos known]
      rfl
    · next known _ =>
      rw [known] at brackets
      obtain ⟨generic, count⟩ := Bool.and_eq_true_iff.mp brackets
      have filled : (args.map present).length = ref.parameters.length := by
        rw [List.length_map]
        exact beq_iff_eq.mp count
      have total : (freshInstance ref args).run.run before =
          (.ok (.applied (.declared ref) (args.map present)), before) := by
        rw [freshInstance, Outcome.run_bind_of_ok converts, if_neg (by simpa using generic), fill,
          if_pos filled]
        rfl
      obtain ⟨kept, again, type, after, run, stands, recalls, gives⟩ :=
        Kept.of_once (.declared ref) args (1 < args.length) freshInstance_gives rfl ⟨_, total⟩
      obtain rfl := gives (stands.read closed)
      refine ⟨kept, after, ?_, stands, recalls⟩
      rw [assembled, if_neg (by rw [known]; decide)]
      exact run
  | _ => cases takes

/-- A property of types that building keeps: what is built of closed types has it if they all do. -/
structure Inherited (property : HostType → Prop) : Prop where
  atom {type : HostType} : type.isAtom = true → property type
  bare (head : Head) : property (.applied head [])
  assembled {head : Head} {args : List HostType} : (∀ arg ∈ args, property arg) →
    property (assembled head args)
  united {members : List HostType} : (∀ member ∈ members, member.unhashable? = Option.none) →
    (∀ member ∈ members, property member) → property (united members)
  noted {base : HostType} {metadata : List HostType} :
    property base → property (noted base metadata)
  same {type other : HostType} : other.isClosed = true → type.same other = true →
    type.unhashable? = Option.none → property other → property type

theorem Kept.inherits {property : HostType → Prop} (inherited : Inherited property)
    {kept given : List HostType} (stands : Kept kept given)
    (closed : ∀ type ∈ given, type.isClosed = true) (each : ∀ type ∈ given, property type) :
    ∀ type ∈ kept, property type := by
  rcases stands with rfl | ⟨same, hashable⟩
  · exact each
  · intro type member
    obtain ⟨other, known, equal⟩ := Outcome.exists_related (sameList_iff.mp same) member
    exact inherited.same (closed other known) equal (hashable type member) (each other known)

mutual

/-- The members of each union in the type can stand in a set. -/
def hasHashableUnions : HostType → Bool
  | .applied _ args => haveHashableUnions args
  | .union _ members => (unhashableIn? members).isNone
  | .annotated base _ => hasHashableUnions base
  | _ => true

/-- The members of each union in the types can stand in a set. -/
def haveHashableUnions : List HostType → Bool
  | [] => true
  | type :: rest => hasHashableUnions type && haveHashableUnions rest

end

theorem haveHashableUnions_iff {types : List HostType} :
    haveHashableUnions types = true ↔ ∀ type ∈ types, type.hasHashableUnions = true := by
  induction types with
  | nil => simp [haveHashableUnions]
  | cons type rest ih => simp [haveHashableUnions, ih]

mutual

theorem hasHashableUnions_of_hashable (type : HostType)
    (hashable : type.unhashable? = Option.none) :
    type.hasHashableUnions = true := by
  cases type with
  | applied head args => exact haveHashableUnions_of_hashable args hashable
  | union spelling members => exact Option.isNone_iff_eq_none.mpr hashable
  | annotated base metadata =>
    exact hasHashableUnions_of_hashable base (Option.or_eq_none_iff.mp hashable).1
  | _ => rfl

theorem haveHashableUnions_of_hashable (types : List HostType)
    (hashable : unhashableIn? types = Option.none) : haveHashableUnions types = true := by
  cases types with
  | nil => rfl
  | cons type rest =>
    obtain ⟨first, others⟩ := Option.or_eq_none_iff.mp hashable
    rw [haveHashableUnions, hasHashableUnions_of_hashable type first,
      haveHashableUnions_of_hashable rest others]
    rfl

end

theorem hasHashableUnions_present {type : HostType} :
    type.present.hasHashableUnions = type.hasHashableUnions := by
  cases type <;> rfl

theorem inherited_hasHashableUnions : Inherited fun type => type.hasHashableUnions = true where
  atom {type} isAtom := by
    cases type <;> first | rfl | cases isAtom
  bare head := rfl
  assembled {head args} each := by
    have plain : haveHashableUnions args = true := haveHashableUnions_iff.mpr each
    have converted : haveHashableUnions (args.map present) = true := by
      simpa only [haveHashableUnions_iff, List.forall_mem_map, hasHashableUnions_present] using each
    cases head with
    | list _ | map _ => exact plain
    | declared ref =>
      rw [HostType.assembled, HostType.hasHashableUnions]
      split
      · exact plain
      · exact converted
    | _ => exact converted
  united hashable _ := hasHashableUnions_of_hashable _ (hashable_united hashable)
  noted {base metadata} kept := by
    rw [← hasHashableUnions_present] at kept
    rw [HostType.noted]
    generalize base.present = shown at kept
    cases shown <;> exact kept
  same _ _ hashable _ := hasHashableUnions_of_hashable _ hashable

mutual

/-- The lists and maps in the type are in the native spelling, at whatever depth. -/
def isSettled : HostType → Bool
  | .applied head args => args.isEmpty || !head.isQualified && areSettled args
  | .union _ members => areSettled members
  | .annotated base _ => isSettled base
  | _ => true

/-- The lists and maps in the types are in the native spelling. -/
def areSettled : List HostType → Bool
  | [] => true
  | type :: rest => isSettled type && areSettled rest

end

theorem areSettled_iff {types : List HostType} :
    areSettled types = true ↔ ∀ type ∈ types, type.isSettled = true := by
  induction types with
  | nil => simp [areSettled]
  | cons type rest ih => simp [areSettled, ih]

theorem isSettled_present {type : HostType} : type.present.isSettled = type.isSettled := by
  cases type <;> rfl

mutual

theorem isSettled_of_same (type : HostType) {other : HostType} (closed : other.isClosed = true)
    (same : type.same other = true) (settled : other.isSettled = true) : type.isSettled = true := by
  cases type with
  | applied head args =>
    cases other with
    | applied another others =>
      obtain ⟨equal, inside⟩ := Bool.and_eq_true_iff.mp same
      obtain rfl : head = another := beq_iff_eq.mp equal
      obtain ⟨takes, each⟩ := Bool.and_eq_true_iff.mp closed
      have noLiteral : head ≠ .literal := by
        rintro rfl
        cases takes
      rw [if_neg noLiteral] at inside
      cases args with
      | nil => rfl
      | cons arg rest =>
        rcases others with _ | ⟨first, behind⟩
        · cases inside
        obtain ⟨native, all⟩ := Bool.and_eq_true_iff.mp settled
        rw [isSettled, areSettled_of_sameList (arg :: rest) each inside all, native]
        rfl
    | _ => cases same
  | union _ members =>
    cases other with
    | union _ others =>
      rw [isClosed, Bool.and_eq_true] at closed
      exact areSettled_of_allIn members closed.2 (Bool.and_eq_true_iff.mp same).2 settled
    | _ => cases same
  | annotated base metadata =>
    cases other with
    | annotated another notes =>
      rw [isClosed, Bool.and_eq_true, Bool.and_eq_true] at closed
      exact isSettled_of_same base closed.1.1 (Bool.and_eq_true_iff.mp same).1 settled
    | _ => cases same
  | _ => rfl

theorem areSettled_of_sameList (types : List HostType) {others : List HostType}
    (closed : areClosed others = true) (same : sameList types others = true)
    (settled : areSettled others = true) : areSettled types = true := by
  cases types with
  | nil => rfl
  | cons type rest =>
    cases others with
    | nil => cases same
    | cons other behind =>
      obtain ⟨first, remaining⟩ := Bool.and_eq_true_iff.mp same
      obtain ⟨here, later⟩ := Bool.and_eq_true_iff.mp closed
      obtain ⟨native, all⟩ := Bool.and_eq_true_iff.mp settled
      rw [areSettled, isSettled_of_same type here first native,
        areSettled_of_sameList rest later remaining all]
      rfl

theorem areSettled_of_allIn (types : List HostType) {others : List HostType}
    (closed : areClosed others = true) (inside : allIn types others = true)
    (settled : areSettled others = true) : areSettled types = true := by
  cases types with
  | nil => rfl
  | cons type rest =>
    obtain ⟨first, remaining⟩ := Bool.and_eq_true_iff.mp inside
    obtain ⟨other, member, same⟩ := List.any_eq_true.mp first
    rw [areSettled, isSettled_of_same type (areClosed_eq_true.mp closed other member) same
      (areSettled_iff.mp settled other member), areSettled_of_allIn rest closed remaining settled]
    rfl

end

theorem isSettled_applied {head : Head} {args : List HostType} (native : head.isQualified = false)
    (settled : areSettled args = true) : (applied head args).isSettled = true := by
  rw [isSettled, native, settled]
  exact Bool.or_true _

theorem inherited_isSettled : Inherited fun type => type.isSettled = true where
  atom {type} isAtom := by
    cases type <;> first | rfl | cases isAtom
  bare head := rfl
  assembled {head args} each := by
    have plain : areSettled args = true := areSettled_iff.mpr each
    have converted : areSettled (args.map present) = true := by
      simpa only [areSettled_iff, List.forall_mem_map, isSettled_present] using each
    cases head with
    | list _ | map _ => exact isSettled_applied rfl plain
    | declared ref =>
      rw [HostType.assembled]
      split
      · exact isSettled_applied rfl plain
      · exact isSettled_applied rfl converted
    | _ => exact isSettled_applied rfl converted
  united {members} _ settled := by
    have each : ∀ member ∈ members, ∀ part ∈ member.present.members, part.isSettled = true := by
      intro member known part here
      have whole : member.present.isSettled = true := isSettled_present.trans (settled member known)
      generalize member.present = shown at here whole
      cases shown with
      | union spelling members => exact areSettled_iff.mp whole part here
      | _ =>
        obtain rfl := List.mem_singleton.mp here
        exact whole
    rcases united_cases each with single | ⟨same, parts⟩
    · exact single
    · rw [same]
      exact areSettled_iff.mpr parts
  noted {base metadata} settled := by
    rw [← isSettled_present] at settled
    rw [HostType.noted]
    generalize base.present = shown at settled
    cases shown <;> exact settled
  same closed same _ settled := isSettled_of_same _ closed same settled

mutual

/-- A type in the native spelling is itself when it is built again. -/
theorem respelled_alike (type : HostType) (settled : type.isSettled = true) :
    Alike type.respelled type := by
  cases type with
  | applied head args =>
    rcases args with _ | ⟨arg, rest⟩
    · exact .refl _
    · obtain ⟨native, each⟩ := Bool.and_eq_true_iff.mp settled
      rw [respelled]
      · exact (Alike.assembled (respelledAll_alike (arg :: rest) each)).trans
          (.applied _ (by simpa using native))
      · simp
  | union spelling members =>
    exact (Alike.united (respelledAll_alike members settled)).trans (.union ..)
  | annotated base metadata =>
    exact (Alike.noted (respelled_alike base settled)).trans (.annotated ..)
  | _ => exact .refl _

theorem respelledAll_alike (types : List HostType) (settled : areSettled types = true) :
    List.Forall₂ Alike (respelledAll types) types := by
  cases types with
  | nil => exact .nil
  | cons type rest =>
    obtain ⟨first, others⟩ := Bool.and_eq_true_iff.mp settled
    exact .cons (respelled_alike type first) (respelledAll_alike rest others)

end

theorem respelledAll_length {types : List HostType} :
    (respelledAll types).length = types.length := by
  induction types with
  | nil => rfl
  | cons type rest ih => rw [respelledAll, List.length_cons, ih, List.length_cons]

mutual

theorem respelled_hashable (type : HostType) (hashable : type.unhashable? = Option.none) :
    type.respelled.unhashable? = Option.none := by
  cases type with
  | applied head args =>
    rcases args with _ | ⟨arg, rest⟩
    · exact hashable
    · rw [respelled]
      · exact hashable_assembled.mpr
          (unhashableIn?_eq_none.mp (respelledAll_hashable (arg :: rest) hashable))
      · simp
  | union spelling members =>
    exact hashable_united (unhashableIn?_eq_none.mp (respelledAll_hashable members hashable))
  | annotated base metadata =>
    exact hashable_noted.mpr
      ((Option.or_eq_none_iff.mp hashable).imp_left (respelled_hashable base))
  | _ => exact hashable

theorem respelledAll_hashable (types : List HostType)
    (hashable : unhashableIn? types = Option.none) :
    unhashableIn? (respelledAll types) = Option.none := by
  cases types with
  | nil => rfl
  | cons type rest =>
    obtain ⟨first, others⟩ := Option.or_eq_none_iff.mp hashable
    exact Option.or_eq_none_iff.mpr ⟨respelled_hashable type first,
      respelledAll_hashable rest others⟩

end

/-- Brackets that take so many arguments are filled with what was built for the arguments. -/
theorem rebuild_renders {head : Head} {args wanted : List HostType}
    (renders : List.Forall₂ Renders args wanted) (takes : head.takes args.length = true)
    (before : Memory) :
    ∃ made after, (rebuild head args).run.run before = (.ok made, after) ∧
      made.Renders (assembled head wanted) ∧
      ∀ {property : HostType → Prop}, Inherited property → (∀ arg ∈ args, property arg) →
        property made := by
  have closed : ∀ arg ∈ args, arg.isClosed = true := by
    intro arg member
    obtain ⟨other, -, rendered⟩ := Outcome.exists_related renders member
    exact rendered.closed
  obtain ⟨kept, after, run, stands, -⟩ := rebuild_closed takes closed before
  have count : kept.length = args.length := by
    rw [(stands.renders renders).length_eq, renders.length_eq]
  rw [← count] at takes
  exact ⟨_, after, run, .assembled (stands.renders renders) takes,
    fun inherited each => inherited.assembled (stands.inherits inherited closed each)⟩

/-- What was built for the members is united, unless one of these cannot stand in a set. -/
theorem unionOf_renders {members wanted : List HostType}
    (renders : List.Forall₂ Renders members wanted) (some : members ≠ []) (before : Memory) :
    (∃ made after, (unionOf members true).run.run before = (.ok made, after) ∧
      made.Renders (united wanted) ∧
      ∀ {property : HostType → Prop}, Inherited property → (∀ member ∈ members, property member) →
        property made) ∨
    ∃ typeName after, (unionOf members true).run.run before =
      (.error (.unhashable typeName), after) ∧
      ¬∀ member ∈ wanted, member.unhashable? = Option.none := by
  have closed : ∀ member ∈ members, member.isClosed = true := by
    intro member inside
    obtain ⟨other, -, rendered⟩ := Outcome.exists_related renders inside
    exact rendered.closed
  rcases unionOf_closed some closed before with ⟨kept, after, run, stands, -, hashable⟩ |
    ⟨typeName, after, run, refused⟩
  · have nonempty : kept ≠ [] := by
      rintro rfl
      cases stands.renders renders
      cases renders
      exact some rfl
    exact .inl ⟨_, after, run, .united (stands.renders renders) nonempty hashable,
      fun inherited each => inherited.united hashable (stands.inherits inherited closed each)⟩
  · refine .inr ⟨typeName, after, run, fun hashable => refused fun member inside => ?_⟩
    obtain ⟨other, known, rendered⟩ := Outcome.exists_related renders inside
    exact rendered.hashable (hashable other known)

/-- Metadata is added to what was built for a type. -/
theorem annotate_renders {base wanted : HostType} {metadata : List HostType}
    (renders : base.Renders wanted) (some : metadata ≠ []) (before : Memory) :
    ∃ made after, (base.annotate metadata).run.run before = (.ok made, after) ∧
      made.Renders (noted wanted metadata) ∧
      ∀ {property : HostType → Prop}, Inherited property → property base → property made := by
  obtain ⟨kept, notes, after, run, stands, -⟩ := annotate_closed renders.closed some before
  refine ⟨_, after, run, ?_, ?_⟩
  · rcases stands with same | ⟨same, hashable⟩
    · cases same
      exact renders.noted some
    · obtain ⟨equal, listed⟩ := Bool.and_eq_true_iff.mp same
      have nonempty : notes ≠ [] := by
        rintro rfl
        rw [sameList_iff, List.forall₂_nil_left_iff] at listed
        exact some listed
      exact
        { closed := isClosed_noted (isClosed_of_same kept equal renders.closed) nonempty
          alike := (Alike.equal (noted_of_same equal listed)).trans (.noted renders.alike)
          hashable := fun _ => hashable_noted.mpr ⟨hashable kept (List.mem_cons_self ..),
            unhashableIn?_eq_none.mpr fun note member =>
              hashable note (List.mem_cons_of_mem _ member)⟩ }
  · intro property inherited each
    rcases stands with same | ⟨same, hashable⟩
    · cases same
      exact inherited.noted each
    · exact inherited.noted (inherited.same renders.closed (Bool.and_eq_true_iff.mp same).1
        (hashable kept (List.mem_cons_self ..)) each)

end HostType

end WireModel
