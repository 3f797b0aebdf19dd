import WireModel.Proofs.Collection.Inheritance
import WireModel.Proofs.Collection.Substitution
import WireModel.Proofs.Collection.Tidy

/-!
Declarations that cannot tell spellings apart. A hint is regular if no type parameter in it is a
member of a union, if the members of its unions have several forms, and if no argument of a class in
it has a renaming around it. Whatever two instantiations of one identity have for the type
parameters, and whatever was built before, regular hints close to types of one identity and one name
on the wire.
-/

namespace WireModel

/-- Whatever was built was built of tidy types, and no annotation has bound a name. -/
structure Memory.IsTidy (known : List ClassRef) (memory : Memory) : Prop where
  built : ∀ built ∈ memory.built, ∀ arg ∈ built.construction.args, arg.isTidy known = true
  modules : memory.modules = []

theorem Memory.IsTidy.empty (known : List ClassRef) : Memory.empty.IsTidy known :=
  ⟨fun _ member => (List.not_mem_nil member).elim, rfl⟩

namespace HostType

variable {known : List ClassRef} {before after : Memory}

theorem Recalls.tidy {target : HostType} {given kept : List HostType}
    (recalls : Recalls target given kept before after) (tidy : before.IsTidy known)
    (each : ∀ arg ∈ given, arg.isTidy known = true) :
    after.IsTidy known ∧ ∀ arg ∈ kept, arg.isTidy known = true := by
  refine ⟨⟨fun built member => ?_, recalls.modules.trans tidy.modules⟩, ?_⟩
  · rcases recalls.rest built member with old | ⟨-, same⟩
    · exact tidy.built built old
    · rw [same]
      exact each
  · rcases recalls.known with rfl | ⟨built, listed, -, rfl⟩
    · exact each
    · exact tidy.built built listed

/-- Tidy types that stand for others differ from these in nothing that shows. -/
theorem Kept.akin {kept given : List HostType} (stands : Kept kept given)
    (tidy : ∀ arg ∈ kept, arg.isTidy known = true) (each : ∀ arg ∈ given, arg.isTidy known = true) :
    List.Forall₂ Akin kept given := by
  rcases stands with rfl | ⟨same, -⟩
  · exact List.forall₂_same.mpr fun type _ => .refl type
  · exact akin_of_sameList kept same (areTidy_iff.mpr tidy) (areTidy_iff.mpr each)

theorem Kept.tidy {kept given : List HostType} (stands : Kept kept given)
    (tidy : ∀ arg ∈ kept, arg.isTidy known = true) (each : ∀ arg ∈ given, arg.Tidy known) :
    ∀ arg ∈ kept, arg.Tidy known := by
  rcases stands with rfl | ⟨same, hashable⟩
  · exact each
  · intro arg member
    obtain ⟨other, inside, equal⟩ := Outcome.exists_related (sameList_iff.mp same) member
    exact ⟨isClosed_of_same arg equal (each other inside).closed, hashable arg member,
      tidy arg member⟩

theorem forall_renaming_of_akin {kept given : List HostType} (akin : List.Forall₂ Akin kept given)
    (plain : ∀ arg ∈ given, arg.renaming? = Option.none) :
    ∀ arg ∈ kept, arg.renaming? = Option.none := by
  intro arg member
  obtain ⟨other, inside, same⟩ := Outcome.exists_related akin member
  exact same.renamed.trans (plain other inside)

theorem map_form_of_akin {kept given : List HostType} (akin : List.Forall₂ Akin kept given) :
    kept.map form = given.map form := by
  induction akin with
  | nil => rfl
  | cons first _ ih => rw [List.map_cons, List.map_cons, first.form, ih]

/-- What brackets give for tidy arguments is tidy, and what shows of it follows from these. -/
theorem rebuild_tidy {head : Head} {args : List HostType} (takes : head.takes args.length = true)
    (isKnown : head.isKnown known = true) (each : ∀ arg ∈ args, arg.Tidy known)
    (plain : head.isClass = true → ∀ arg ∈ args, arg.renaming? = Option.none)
    (tidy : before.IsTidy known) :
    ∃ made after, (rebuild head args).run.run before = (.ok made, after) ∧ after.IsTidy known ∧
      made.Tidy known ∧ made.SameIdentity (.applied head.native args) ∧
      made.renaming? = Option.none ∧ made.form = .applied head.native := by
  have given : ∀ arg ∈ args, arg.isTidy known = true := fun arg member => (each arg member).tidy
  obtain ⟨kept, after, run, stands, recalls⟩ :=
    rebuild_closed takes (fun arg member => (each arg member).closed) before
  obtain ⟨left, keptTidy⟩ := recalls.tidy tidy given
  have akin := stands.akin keptTidy given
  have filled : head.takes kept.length = true := by rw [akin.length_eq, takes]
  refine ⟨_, after, run, left, ?_, ?_, renaming?_assembled .., form_assembled ..⟩
  · exact .assembled filled isKnown (stands.tidy keptTidy each)
      fun isClass => forall_renaming_of_akin akin (plain isClass)
  · exact (SameIdentity.assembled head kept).trans
      (.applied rfl (akin.imp fun _ _ same => same.identity))

theorem SameIdentity.union_of_akin {spelling other : Spelling} {members others : List HostType}
    (akin : List.Forall₂ Akin members others) (apart : (members.map form).Nodup) :
    (HostType.union spelling members).SameIdentity (.union other others) :=
  .union (optionalPart?_rel akin.length_eq apart fun _ inside => Outcome.exists_related akin inside)

/-- The union of tidy types of several forms is tidy, and shows what these show. -/
theorem unionOf_tidy {members : List HostType} (several : 2 ≤ members.length)
    (each : ∀ member ∈ members, member.Tidy known)
    (single : ∀ member ∈ members, member.form ≠ .union) (apart : (members.map form).Nodup)
    (tidy : before.IsTidy known) :
    ∃ made after, (unionOf members true).run.run before = (.ok made, after) ∧ after.IsTidy known ∧
      made.Tidy known ∧ made.SameIdentity (.union .qualified (members.map present)) ∧
      made.renaming? = Option.none ∧ made.form = .union := by
  have given : ∀ member ∈ members, member.isTidy known = true := fun member inside =>
    (each member inside).tidy
  have some : members ≠ [] := List.ne_nil_of_length_pos (by omega)
  rcases unionOf_closed some (fun member inside => (each member inside).closed) before with
    ⟨kept, after, run, stands, recalls, -⟩ | ⟨_, _, -, refused⟩
  · obtain ⟨left, keptTidy⟩ := recalls.tidy tidy given
    have akin := stands.akin keptTidy given
    have forms := map_form_of_akin akin
    have count := akin.length_eq
    have keptSingle : ∀ member ∈ kept, member.form ≠ .union := by
      intro member inside
      obtain ⟨other, known, same⟩ := Outcome.exists_related akin inside
      rw [same.form]
      exact single other known
    have shape : united kept = .union .qualified (kept.map present) :=
      united_of_forms (by omega) keptSingle (forms ▸ apart)
    refine ⟨united kept, after, run, left, ?_, ?_, ?_, ?_⟩
    · exact .united (List.ne_nil_of_length_pos (by omega)) (stands.tidy keptTidy each) (by omega)
        keptSingle (forms ▸ apart)
    · have shown : List.Forall₂ Akin (kept.map present) (members.map present) := by
        rw [List.forall₂_map_left_iff, List.forall₂_map_right_iff]
        exact akin.imp fun _ _ same => .present same.identity same.renamed same.form
      rw [shape]
      exact .union_of_akin shown (by rwa [map_form_present, forms])
    · rw [shape, renaming?]
      simp
    · rw [shape, form]
  · exact absurd (fun member inside => (each member inside).hashable) refused

/-- Metadata behind a tidy type leave its identity as it is, and rename it unless it is renamed. -/
theorem annotate_tidy {base : HostType} {metadata : List HostType} (some : metadata ≠ [])
    (hashable : unhashableIn? metadata = Option.none) (notes : areTidy known metadata = true)
    (each : base.Tidy known) (tidy : before.IsTidy known) :
    ∃ made after, (base.annotate metadata).run.run before = (.ok made, after) ∧ after.IsTidy known ∧
      made.Tidy known ∧ made.SameIdentity base ∧
      made.renaming? = base.renaming?.or (metadata.findSome? renamingOf?) ∧
      made.form = .annotated := by
  have given : ∀ arg ∈ base :: metadata, arg.isTidy known = true :=
    List.forall_mem_cons.mpr ⟨each.tidy, areTidy_iff.mp notes⟩
  obtain ⟨kept, others, after, run, stands, recalls⟩ := annotate_closed each.closed some before
  obtain ⟨left, keptTidy⟩ := recalls.tidy tidy given
  rw [List.forall_mem_cons, ← areTidy_iff] at keptTidy
  have stood : kept.Tidy known ∧ kept.Akin base ∧ unhashableIn? others = Option.none ∧
      others.findSome? renamingOf? = metadata.findSome? renamingOf? ∧ others ≠ [] := by
    rcases stands with equal | ⟨same, stable⟩
    · cases equal
      exact ⟨each, .refl _, hashable, rfl, some⟩
    · obtain ⟨equal, listed⟩ := Bool.and_eq_true_iff.mp same
      obtain ⟨first, behind⟩ := List.forall_mem_cons.mp stable
      refine ⟨⟨isClosed_of_same kept equal each.closed, first, keptTidy.1⟩,
        akin_of_same kept equal keptTidy.1 each.tidy, unhashableIn?_eq_none.mpr behind,
        renamingOf?_of_sameList listed keptTidy.2 notes, ?_⟩
      rintro rfl
      rw [sameList_iff, List.forall₂_nil_left_iff] at listed
      exact some listed
  obtain ⟨keptEach, akin, stable, renamed, nonempty⟩ := stood
  refine ⟨_, after, run, left, keptEach.noted nonempty stable keptTidy.2,
    (SameIdentity.noted kept others).trans akin.identity, ?_, ?_⟩
  · rw [renaming?_noted, akin.renamed, renamed]
  · rw [HostType.noted]
    generalize kept.present = shown
    cases shown <;> rfl

def isOutlined (type : HostType) : Bool :=
  type.form != .other && type.form != .union

mutual

/-- Closing the hint cannot tell spellings of one identity apart. It is made of classes among some,
of type variables, unions and annotated types, at whatever depth. -/
def isRegular (known : List ClassRef) : HostType → Bool
  | .variable _ => true
  | .applied head args =>
    head.takes args.length && head.isKnown known &&
      (!head.isClass || args.all (·.renaming?.isNone)) && areRegular known args
  | .union _ members =>
    2 ≤ members.length && members.all isOutlined && decide (members.map form).Nodup &&
      areRegular known members
  | .annotated base metadata =>
    !metadata.isEmpty && (unhashableIn? metadata).isNone && areTidy known metadata &&
      isRegular known base
  | type => type.isAtom && isTidy known type

def areRegular (known : List ClassRef) : List HostType → Bool
  | [] => true
  | type :: rest => isRegular known type && areRegular known rest

end

/-- The type shows what follows from a hint that it stands for. -/
structure Shows (known : List ClassRef) (hint type : HostType) : Prop where
  tidy : type.Tidy known
  renamed : type.renaming? = hint.renaming?
  form : hint.isOutlined = true → type.form = hint.form

theorem tidy_of_shows {hints types : List HostType}
    (shows : List.Forall₂ (Shows known) hints types) : ∀ type ∈ types, type.Tidy known := by
  intro type member
  obtain ⟨hint, -, shown⟩ := Outcome.exists_related shows.flip member
  exact shown.tidy

theorem map_form_of_shows {hints types : List HostType}
    (shows : List.Forall₂ (Shows known) hints types) (outlined : hints.all isOutlined = true) :
    types.map form = hints.map form := by
  induction shows with
  | nil => rfl
  | cons first _ ih =>
    obtain ⟨here, later⟩ := Bool.and_eq_true_iff.mp outlined
    rw [List.map_cons, List.map_cons, first.form here, ih later]

/-- What brackets of a regular hint give. -/
theorem rebuild_shows {head : Head} {hints types : List HostType}
    (regular : (applied head hints).isRegular known = true)
    (shows : List.Forall₂ (Shows known) hints types) (tidy : before.IsTidy known) :
    ∃ made after, (rebuild head types).run.run before = (.ok made, after) ∧ after.IsTidy known ∧
      made.SameIdentity (.applied head.native types) ∧ Shows known (.applied head hints) made := by
  rw [isRegular, Bool.and_eq_true, Bool.and_eq_true, Bool.and_eq_true] at regular
  obtain ⟨⟨⟨takes, isKnown⟩, plain⟩, -⟩ := regular
  rw [shows.length_eq] at takes
  have bare : head.isClass = true → ∀ type ∈ types, type.renaming? = Option.none := by
    intro isClass type member
    obtain ⟨hint, inside, shown⟩ := Outcome.exists_related shows.flip member
    rw [isClass, Bool.not_true, Bool.false_or, List.all_eq_true] at plain
    exact shown.renamed.trans (Option.isNone_iff_eq_none.mp (plain hint inside))
  obtain ⟨made, after, run, left, each, same, renamed, form⟩ :=
    rebuild_tidy takes isKnown (tidy_of_shows shows) bare tidy
  exact ⟨made, after, run, left, same, each, renamed, fun _ => form⟩

/-- What a regular union gives. -/
theorem unionOf_shows {spelling : Spelling} {hints types : List HostType}
    (regular : (HostType.union spelling hints).isRegular known = true)
    (shows : List.Forall₂ (Shows known) hints types) (tidy : before.IsTidy known) :
    ∃ made after, (unionOf types true).run.run before = (.ok made, after) ∧ after.IsTidy known ∧
      made.SameIdentity (.union .qualified (types.map present)) ∧
      Shows known (.union spelling hints) made := by
  rw [isRegular, Bool.and_eq_true, Bool.and_eq_true, Bool.and_eq_true] at regular
  obtain ⟨⟨⟨several, outlined⟩, apart⟩, -⟩ := regular
  have forms := map_form_of_shows shows outlined
  have single : ∀ type ∈ types, type.form ≠ .union := by
    intro type member
    obtain ⟨hint, inside, shown⟩ := Outcome.exists_related shows.flip member
    have here := List.all_eq_true.mp outlined hint inside
    rw [shown.form here]
    rw [isOutlined, Bool.and_eq_true, bne_iff_ne, bne_iff_ne] at here
    exact here.2
  rw [← forms] at apart
  have count := of_decide_eq_true several
  rw [shows.length_eq] at count
  obtain ⟨made, after, run, left, each, same, renamed, form⟩ :=
    unionOf_tidy count (tidy_of_shows shows) single (of_decide_eq_true apart) tidy
  exact ⟨made, after, run, left, same, each, renamed, fun _ => form⟩

/-- What metadata of a regular hint give. -/
theorem annotate_shows {hint type : HostType} {metadata : List HostType}
    (regular : (annotated hint metadata).isRegular known = true) (shows : Shows known hint type)
    (tidy : before.IsTidy known) :
    ∃ made after, (type.annotate metadata).run.run before = (.ok made, after) ∧ after.IsTidy known ∧
      made.SameIdentity type ∧ Shows known (.annotated hint metadata) made := by
  rw [isRegular, Bool.and_eq_true, Bool.and_eq_true, Bool.and_eq_true] at regular
  obtain ⟨⟨⟨some, hashable⟩, notes⟩, -⟩ := regular
  have nonempty : metadata ≠ [] := by
    rintro rfl
    cases some
  obtain ⟨made, after, run, left, each, same, renamed, form⟩ :=
    annotate_tidy nonempty (Option.isNone_iff_eq_none.mp hashable) notes shows.tidy tidy
  exact ⟨made, after, run, left, same,
    each, by rw [renamed, shows.renamed, renaming?], fun _ => form⟩

/-- Two types that stand for one hint have one identity. -/
structure Matched (known : List ClassRef) (hint type other : HostType) : Prop where
  same : type.SameIdentity other
  shows : Shows known hint type
  showsOther : Shows known hint other

/-- Types that stand for some hints, place by place. -/
structure AllMatched (known : List ClassRef) (hints types others : List HostType) : Prop where
  same : List.Forall₂ SameIdentity types others
  shows : List.Forall₂ (Shows known) hints types
  showsOther : List.Forall₂ (Shows known) hints others

end HostType

namespace HostType

variable {known : List ClassRef}

theorem AllMatched.akin {hints types others : List HostType}
    (matched : AllMatched known hints types others) (outlined : hints.all isOutlined = true) :
    List.Forall₂ (fun type other => type.present.Akin other.present) types others := by
  obtain ⟨same, shows, showsOther⟩ := matched
  induction same generalizing hints with
  | nil => exact .nil
  | cons first _ ih =>
    cases shows with
    | cons shown behind =>
      cases showsOther with
      | cons shownOther behindOther =>
        obtain ⟨here, later⟩ := Bool.and_eq_true_iff.mp outlined
        exact .cons (.present first (shown.renamed.trans shownOther.renamed.symm)
          ((shown.form here).trans (shownOther.form here).symm)) (ih later behind behindOther)

/-- What stands for a regular union has one identity once it is put together. -/
theorem AllMatched.union {spelling : Spelling} {hints types others : List HostType}
    (matched : AllMatched known hints types others)
    (regular : (HostType.union spelling hints).isRegular known = true) :
    (HostType.union .qualified (types.map present)).SameIdentity
      (.union .qualified (others.map present)) := by
  rw [isRegular, Bool.and_eq_true, Bool.and_eq_true, Bool.and_eq_true] at regular
  obtain ⟨⟨⟨-, outlined⟩, apart⟩, -⟩ := regular
  refine .union_of_akin ?_ (by
    rw [map_form_present, map_form_of_shows matched.shows outlined]
    exact of_decide_eq_true apart)
  rw [List.forall₂_map_left_iff, List.forall₂_map_right_iff]
  exact matched.akin outlined

end HostType

section Agrees

variable {α β γ δ : Type} {known : List ClassRef} {relates : α → β → Prop}
  {relatesNext : γ → δ → Prop} {step : Resolving α} {other : Resolving β}

/-- Whatever tidy types were built before, two steps both succeed, with related results, or both
fail, and leave nothing else behind. -/
def Resolving.Agrees (known : List ClassRef) (relates : α → β → Prop) (step : Resolving α)
    (other : Resolving β) : Prop :=
  ∀ memory later, memory.IsTidy known → later.IsTidy known →
    Outcome.Agree relates (step.run.run memory).1 (other.run.run later).1 ∧
      (step.run.run memory).2.IsTidy known ∧ (other.run.run later).2.IsTidy known

/-- Whatever tidy types were built before, a step gives one value. -/
def Outcome.Steady {ε α : Type} (known : List ClassRef) (step : ExceptT ε (StateM Memory) α)
    (value : α) : Prop :=
  ∀ memory, memory.IsTidy known →
    ∃ after, step.run.run memory = (.ok value, after) ∧ after.IsTidy known

namespace Resolving.Agrees

theorem pure {value : α} {another : β} (related : relates value another) :
    Agrees known relates (pure value) (pure another) :=
  fun _ _ tidy tidyLater => ⟨.succeed related, tidy, tidyLater⟩

theorem throw {failure another : Failure} :
    Agrees known relates (throw failure) (throw another) :=
  fun _ _ tidy tidyLater => ⟨.fail, tidy, tidyLater⟩

theorem bind {next : α → Resolving γ} {nextOther : β → Resolving δ}
    (first : Agrees known relates step other)
    (rest : ∀ value another, relates value another →
      Agrees known relatesNext (next value) (nextOther another)) :
    Agrees known relatesNext (step >>= next) (other >>= nextOther) := by
  intro memory later tidy tidyLater
  obtain ⟨agree, left, leftLater⟩ := first memory later tidy tidyLater
  rcases run : step.run.run memory with ⟨outcome, after⟩
  rcases runOther : other.run.run later with ⟨outcomeOther, afterOther⟩
  rw [run] at agree left
  rw [runOther] at agree leftLater
  cases agree with
  | succeed related =>
    rw [Outcome.run_bind_of_ok run, Outcome.run_bind_of_ok runOther]
    exact rest _ _ related after afterOther left leftLater
  | fail =>
    rw [Outcome.run_bind_of_error run, Outcome.run_bind_of_error runOther]
    exact ⟨.fail, left, leftLater⟩

/-- Building agrees if it succeeds on both sides, with related results. -/
theorem built {gives givesOther : HostType → Prop} {relates : HostType → HostType → Prop}
    {step other : Building HostType}
    (makes : ∀ {before}, before.IsTidy known → ∃ made after,
      step.run.run before = (.ok made, after) ∧ after.IsTidy known ∧ gives made)
    (makesOther : ∀ {before}, before.IsTidy known → ∃ made after,
      other.run.run before = (.ok made, after) ∧ after.IsTidy known ∧ givesOther made)
    (related : ∀ made another, gives made → givesOther another → relates made another) :
    Agrees known relates (liftM step) (liftM other) := by
  intro memory later tidy tidyLater
  obtain ⟨made, after, run, left, given⟩ := makes tidy
  obtain ⟨another, afterOther, runOther, leftOther, givenOther⟩ := makesOther tidyLater
  rw [HostType.run_lift run, HostType.run_lift runOther]
  exact ⟨.succeed (related _ _ given givenOther), left, leftOther⟩

end Resolving.Agrees

end Agrees

namespace Model

open HostType

section Regular

variable (model : Model) (known : List ClassRef) (owner : ClassRef)

/-- The hint stands for another one, in which its strings are evaluated: each of them means one
thing, whatever tidy types were built before. -/
inductive Spells : HostType → HostType → Prop
  | text {type value plain : HostType} {expression : String} : type.expression? = some expression →
    Outcome.Steady known (model.evaluate owner expression) value → Spells value plain →
    Spells type plain
  | parameter (name : String) : Spells (.variable name) (.variable name)
  | atom {type : HostType} : type.isAtom = true → Spells type type
  | applied {head : Head} {args parts : List HostType} : List.Forall₂ Spells args parts →
    Spells (.applied head args) (.applied head parts)
  | union {spelling : Spelling} {members parts : List HostType} :
    List.Forall₂ Spells members parts →
    Spells (.union spelling members) (.union spelling parts)
  | annotated {base part : HostType} {metadata : List HostType} : Spells base part →
    Spells (.annotated base metadata) (.annotated part metadata)

end Regular

variable {model : Model} {known : List ClassRef} {owner : ClassRef} {bindings others : TypeBindings}

/-- Two instantiations of a class give each type parameter types of one identity. -/
def BindAlike (known : List ClassRef) (bindings others : TypeBindings) : Prop :=
  List.Forall₂ (fun bound another => bound.1 = another.1 ∧
    Matched known (.variable bound.1) bound.2 another.2) bindings others

theorem BindAlike.lookup (alike : BindAlike known bindings others) (name : String) :
    Option.Rel (Matched known (.variable name)) (bindings.lookup name) (others.lookup name) := by
  induction alike with
  | nil => exact .none
  | @cons bound another _ _ first _ ih =>
    obtain ⟨bound, image⟩ := bound
    obtain ⟨another, imageOther⟩ := another
    obtain ⟨rfl, matched⟩ := first
    rw [List.lookup_cons, List.lookup_cons]
    by_cases same : name = bound
    · subst same
      simpa using matched
    · have differ : (name == bound) = false := beq_eq_false_iff_ne.mpr same
      simpa [differ] using ih

theorem shows_atom {type : HostType} (isAtom : type.isAtom = true)
    (tidy : type.isTidy known = true) :
    Shows known type type := by
  refine ⟨⟨?_, ?_, tidy⟩, rfl, fun _ => rfl⟩
  · cases type <;> first | exact isAtom | cases isAtom
  · cases type <;> first | rfl | cases isAtom

theorem shows_bare {head : Head} (regular : (applied head []).isRegular known = true) :
    Shows known (.applied head []) (.applied head []) := by
  rw [isRegular, Bool.and_eq_true, Bool.and_eq_true, Bool.and_eq_true] at regular
  obtain ⟨⟨⟨takes, isKnown⟩, plain⟩, -⟩ := regular
  refine ⟨⟨?_, rfl, ?_⟩, rfl, fun _ => rfl⟩
  · rw [isClosed, takes]
    rfl
  · rw [isTidy, isKnown, plain]
    rfl

theorem matched_self {hint type : HostType} (shows : Shows known hint type) :
    Matched known hint type type :=
  ⟨.refl type, shows, shows⟩

variable {onText onTextOther : String → Resolving HostType}

mutual

/-- Closing what stands for a regular hint gives types of one identity, if closing its strings
does. -/
theorem closeWith_agrees (alike : BindAlike known bindings others)
    (texts : ∀ {type plain : HostType} {expression : String}, type.expression? = some expression →
      model.Spells known owner type plain → plain.isRegular known = true →
      Resolving.Agrees known (Matched known plain) (onText expression) (onTextOther expression))
    (type : HostType) {plain : HostType} (spells : model.Spells known owner type plain)
    (regular : plain.isRegular known = true) :
    Resolving.Agrees known (Matched known plain) (type.closeWith onText owner bindings)
      (type.closeWith onTextOther owner others) := by
  cases type with
  | text expression => exact texts rfl spells regular
  | reference serial expression => exact texts rfl spells regular
  | «variable» name =>
    cases spells with
    | text written => cases written
    | atom isAtom => cases isAtom
    | parameter =>
      have found := alike.lookup name
      rw [closeWith, closeWith]
      cases bound : bindings.lookup name with
      | none =>
        cases boundOther : others.lookup name with
        | none => exact .throw
        | some another =>
          rw [bound, boundOther] at found
          cases found
      | some image =>
        cases boundOther : others.lookup name with
        | none =>
          rw [bound, boundOther] at found
          cases found
        | some another =>
          rw [bound, boundOther] at found
          cases found with
          | some matched => exact .pure matched
  | applied head args =>
    cases spells with
    | text written => cases written
    | atom isAtom => cases isAtom
    | @applied _ _ parts all =>
      rcases args with _ | ⟨arg, rest⟩
      · cases all
        exact .pure (matched_self (shows_bare regular))
      have inside := (Bool.and_eq_true_iff.mp regular).2
      rw [closeWith, closeWith]
      · refine (closeAllWith_agrees alike texts (arg :: rest) all inside).bind
          fun types anothers matched => ?_
        refine .built (rebuild_shows regular matched.shows)
          (rebuild_shows regular matched.showsOther)
          fun made another ⟨same, shows⟩ ⟨sameOther, showsOther⟩ => ⟨?_, shows, showsOther⟩
        exact same.trans ((SameIdentity.applied rfl matched.same).trans sameOther.symm)
      · simp
      · simp
  | union spelling members =>
    cases spells with
    | text written => cases written
    | atom isAtom => cases isAtom
    | union all =>
      have inside := (Bool.and_eq_true_iff.mp regular).2
      rw [closeWith, closeWith]
      refine (closeAllWith_agrees alike texts members all inside).bind fun types anothers
        matched => ?_
      refine .built (unionOf_shows regular matched.shows) (unionOf_shows regular matched.showsOther)
        fun made another ⟨same, shows⟩ ⟨sameOther, showsOther⟩ => ⟨?_, shows, showsOther⟩
      exact same.trans ((matched.union regular).trans sameOther.symm)
  | annotated base metadata =>
    cases spells with
    | text written => cases written
    | atom isAtom => cases isAtom
    | annotated inside =>
      rw [closeWith, closeWith]
      refine (closeWith_agrees alike texts base inside (Bool.and_eq_true_iff.mp regular).2).bind
        fun type another matched => ?_
      refine .built (annotate_shows regular matched.shows)
        (annotate_shows regular matched.showsOther)
        fun made another ⟨same, shows⟩ ⟨sameOther, showsOther⟩ => ⟨?_, shows, showsOther⟩
      exact same.trans (matched.same.trans sameOther.symm)
  | primitive _ | declared _ | builtin _ | noneType | none | initVar _ | constant _ | container _ _
  | record _ _ | bound _ _ _ =>
    cases spells with
    | text written => cases written
    | atom isAtom =>
      exact .pure (matched_self (shows_atom isAtom (Bool.and_eq_true_iff.mp regular).2))

theorem closeAllWith_agrees (alike : BindAlike known bindings others)
    (texts : ∀ {type plain : HostType} {expression : String}, type.expression? = some expression →
      model.Spells known owner type plain → plain.isRegular known = true →
      Resolving.Agrees known (Matched known plain) (onText expression) (onTextOther expression))
    (types : List HostType) {plains : List HostType}
    (spells : List.Forall₂ (model.Spells known owner) types plains)
    (regular : areRegular known plains = true) :
    Resolving.Agrees known (AllMatched known plains) (closeAllWith onText owner bindings types)
      (closeAllWith onTextOther owner others types) := by
  cases types with
  | nil =>
    cases spells
    exact .pure ⟨.nil, .nil, .nil⟩
  | cons type rest =>
    cases spells with
    | cons first behind =>
      obtain ⟨here, later⟩ := Bool.and_eq_true_iff.mp regular
      rw [closeAllWith, closeAllWith]
      refine (closeWith_agrees alike texts type first here).bind fun made another matched => ?_
      refine (closeAllWith_agrees alike texts rest behind later).bind fun all anothers
        matchedAll => ?_
      exact .pure ⟨.cons matched.same matchedAll.same, .cons matched.shows matchedAll.shows,
        .cons matched.showsOther matchedAll.showsOther⟩

end

theorem Steady.bind_agrees {α β γ : Type} {relates : β → γ → Prop} {step : Resolving α} {value : α}
    {next : α → Resolving β} {nextOther : α → Resolving γ}
    (steady : Outcome.Steady known step value)
    (rest : Resolving.Agrees known relates (next value) (nextOther value)) :
    Resolving.Agrees known relates (step >>= next) (step >>= nextOther) := by
  intro memory later tidy tidyLater
  obtain ⟨after, run, left⟩ := steady memory tidy
  obtain ⟨afterOther, runOther, leftOther⟩ := steady later tidyLater
  rw [Outcome.run_bind_of_ok run, Outcome.run_bind_of_ok runOther]
  exact rest after afterOther left leftOther

theorem Spells.exists_value {type plain : HostType} {expression : String}
    (spells : model.Spells known owner type plain) (written : type.expression? = some expression) :
    ∃ value, Outcome.Steady known (model.evaluate owner expression) value ∧
      model.Spells known owner value plain := by
  cases spells with
  | text same steady inside =>
    obtain rfl := Option.some.inj (written.symm.trans same)
    exact ⟨_, steady, inside⟩
  | atom isAtom =>
    rw [expression?_of_isAtom isAtom] at written
    cases written
  | _ => cases written

/-- Closing agrees however many strings stand for strings; their number carries the induction. -/
theorem closeAt_agrees (alike : BindAlike known bindings others) (fuel : Nat)
    {type plain : HostType}
    (spells : model.Spells known owner type plain) (regular : plain.isRegular known = true) :
    Resolving.Agrees known (Matched known plain) (model.closeAt owner bindings fuel type)
      (model.closeAt owner others fuel type) := by
  induction fuel generalizing type plain with
  | zero => exact closeWith_agrees alike (fun _ _ _ => .throw) type spells regular
  | succ fuel ih =>
    refine closeWith_agrees alike (fun written spelled each => ?_) type spells regular
    obtain ⟨value, steady, inside⟩ := spelled.exists_value written
    exact Steady.bind_agrees steady (ih inside each)

def refs (model : Model) : List ClassRef :=
  model.classes.map ClassDecl.ref

/-- The hint stands for a regular one. -/
def IsRegular (model : Model) (owner : ClassRef) (hint : HostType) : Prop :=
  ∃ plain, model.Spells model.refs owner hint plain ∧ plain.isRegular model.refs = true

/-- All hints of a model are regular: the evaluated annotations of records, which mean one thing
whatever was built before, and what variants carry. -/
structure Indifferent (model : Model) : Prop where
  fields : ∀ declared ∈ model.classes, declared.ref.category = .record → ∃ fields,
    Outcome.Steady model.refs (model.typedFields declared.ref) fields ∧
      ∀ field ∈ fields, model.IsRegular declared.ref field.2
  variants : ∀ declared ∈ model.classes, ∀ offered ∈ model.variants declared.ref,
    ∀ hint ∈ offered.payload.types, model.IsRegular declared.ref hint

theorem declares_of_tidy {type : HostType} (tidy : type.Tidy model.refs) : model.Declares type := by
  intro ref mentions
  induction mentions with
  | self seenAs => exact List.mem_map.mp (mem_of_isTidy _ tidy.tidy seenAs)
  | part member _ ih => exact ih (tidy.part member)

theorem eq_zip_of_bindings {ref : ClassRef} {type : HostType}
    (bound : Collect.bindings model ref type = .ok bindings) :
    bindings = ref.parameters.zip type.parts := by
  unfold Collect.bindings at bound
  split at bound
  · cases bound
  · dsimp only at bound
    split at bound <;> cases bound
    rfl

theorem forall₂_zip {α β γ : Type} {relates : β → γ → Prop} {items : List β} {others : List γ}
    (related : List.Forall₂ relates items others) (names : List α) :
    List.Forall₂ (fun item another => item.1 = another.1 ∧ relates item.2 another.2)
      (names.zip items) (names.zip others) := by
  induction related generalizing names with
  | nil =>
    rw [List.zip_nil_right, List.zip_nil_right]
    exact .nil
  | cons first _ ih =>
    cases names with
    | nil => exact .nil
    | cons name rest => exact .cons ⟨rfl, first⟩ (ih rest)

/-- Tidy types that are seen alike give type parameters types of one identity. -/
theorem bindAlike_of_view {ref : ClassRef} {type other : HostType} {args : List View}
    (tidy : type.Tidy known) (tidyOther : other.Tidy known) (same : type.view = other.view)
    (seenAs : type.view.class? = some ref) (kept : type.view.args? = some args)
    (bound : Collect.bindings model ref type = .ok bindings)
    (boundOther : Collect.bindings model ref other = .ok others) :
    BindAlike known bindings others := by
  have shows {source : HostType} (each : source.Tidy known) (seen : source.view.class? = some ref) :
      ∀ part ∈ source.parts, ∀ name, Shows known (.variable name) part :=
    fun part inside name => ⟨each.part inside, each.plain_part seen inside, fun outlined =>
      nomatch outlined⟩
  have views := HostType.map_view_parts same kept
  rw [← List.forall₂_eq_eq_eq, List.forall₂_map_left_iff, List.forall₂_map_right_iff] at views
  have first := (List.forall₂_and_left _ _).mpr ⟨shows tidy seenAs, views⟩
  have both := (List.forall₂_and_left _ _).mpr ⟨shows tidyOther (same ▸ seenAs), first.flip⟩
  have matched :
      List.Forall₂ (fun part another => ∀ name, Matched known (.variable name) part another)
      type.parts other.parts := by
    refine both.flip.imp fun part another ⟨showsOther, shows, seen⟩ name => ?_
    exact ⟨.of_view seen, shows name, showsOther name⟩
  rw [eq_zip_of_bindings bound, eq_zip_of_bindings boundOther]
  exact (forall₂_zip matched ref.parameters).imp fun _ _ ⟨names, alike⟩ => ⟨names, alike _⟩

/-- What closing and evaluating leave behind, and is tidy. -/
def Held (model : Model) (start memory : Memory) : Prop :=
  memory.IsTidy model.refs ∧ Arises model start memory

variable {start : Memory} {type other : HostType} {ref : ClassRef} {args : List View}
  {held : Memory → Prop}

theorem Indifferent.exists_fields (indifferent : model.Indifferent) (tidy : type.Tidy model.refs)
    (seenAs : type.view = .record ref args) : ∃ fields,
    Outcome.Steady model.refs (model.typedFields ref) fields ∧
      ∀ field ∈ fields, model.IsRegular ref field.2 := by
  obtain ⟨declared, inside, rfl⟩ := List.mem_map.mp (mem_of_isTidy type tidy.tidy (by
    rw [seenAs]
    rfl))
  have sight := type.sight
  rw [seenAs] at sight
  cases sight with
  | record isRecord => exact indifferent.fields declared inside isRecord

/-- Whatever a class declares is regular. -/
theorem Indifferent.regular (indifferent : model.Indifferent) (tidy : type.Tidy model.refs)
    (holds : ∀ memory, held memory → memory.IsTidy model.refs) {hint : HostType}
    (known : HasHint model held type ref bindings hint) : model.IsRegular ref hint := by
  cases known with
  | field seenAs bound here typed inside =>
    obtain ⟨fields, steady, regular⟩ := indifferent.exists_fields tidy seenAs
    obtain ⟨after, run, -⟩ := steady _ (holds _ here)
    rw [run] at typed
    cases typed
    exact regular _ inside
  | slot seenAs bound offered inside =>
    obtain ⟨declared, member, rfl⟩ := List.mem_map.mp (mem_of_isTidy type tidy.tidy (by
      rw [seenAs]
      rfl))
    exact indifferent.variants declared member _ offered _ inside

theorem exists_args_of_hasHint {hint : HostType}
    (known : HasHint model held type ref bindings hint) :
    Collect.bindings model ref type = .ok bindings ∧ type.view.class? = some ref ∧
      ∃ args, type.view.args? = some args := by
  cases known with
  | field seenAs bound =>
    rw [seenAs]
    exact ⟨bound, rfl, _, rfl⟩
  | slot seenAs bound =>
    rw [seenAs]
    exact ⟨bound, rfl, _, rfl⟩

/-- What a class declares closes in two tidy spellings of one instantiation to types of one
identity. -/
theorem Indifferent.close_agrees (indifferent : model.Indifferent) (tidy : type.Tidy model.refs)
    (tidyOther : other.Tidy model.refs) (same : type.view = other.view)
    (boundOther : Collect.bindings model ref other = .ok others)
    (holds : ∀ memory, held memory → memory.IsTidy model.refs) {hint : HostType}
    (known : HasHint model held type ref bindings hint) : ∃ plain,
    Resolving.Agrees model.refs (Matched model.refs plain) (model.close ref bindings hint)
      (model.close ref others hint) := by
  obtain ⟨plain, spells, regular⟩ := indifferent.regular tidy holds known
  obtain ⟨bound, seenAs, args, kept⟩ := exists_args_of_hasHint known
  exact ⟨plain,
    closeAt_agrees (bindAlike_of_view tidy tidyOther same seenAs kept bound boundOther) 4
    spells regular⟩

theorem sameField_of_matched {hint : HostType} (matched : Matched known hint type other)
    (name : String) : type.SameField name other := by
  refine ⟨matched.same, ?_⟩
  rw [Collect.fieldTag, Collect.fieldTag, wireName?_of_isClosed matched.shows.tidy.closed,
    wireName?_of_isClosed matched.showsOther.tidy.closed, matched.shows.renamed,
    matched.showsOther.renamed]

/-- A run over tidy roots does not tell spellings apart if the declarations cannot. -/
theorem Indifferent.uniformOn (indifferent : model.Indifferent) (apart : model.NamesApart)
    (tidy : start.IsTidy model.refs) {roots : List HostType}
    (each : ∀ root ∈ roots, root.Tidy model.refs) :
    UniformOn model start roots (HostType.Tidy model.refs) (model.Held start) := by
  have holds : ∀ memory, model.Held start memory → memory.IsTidy model.refs := fun _ held => held.1
  have closes {type : HostType} {ref : ClassRef} {bindings : TypeBindings} {hint : HostType}
      (tidy : type.Tidy model.refs)
        (known : HasHint model (model.Held start) type ref bindings hint) :=
    indifferent.close_agrees tidy tidy rfl (exists_args_of_hasHint known).1 holds known
  have seen {type other : HostType} {identity : Identity} (tidy : type.Tidy model.refs)
      (tidyOther : other.Tidy model.refs) (identified : type.view.identity = .ok identity)
      (identifiedOther : other.view.identity = .ok identity) : type.view = other.view :=
    apart.view_eq (declares_of_tidy tidy) (declares_of_tidy tidyOther) identified identifiedOther
  refine
    { confines := ⟨?_, ?_, ?_⟩
      arises := fun _ held => held.2
      roots := each
      start := ⟨tidy, .start⟩
      declares := declares_of_tidy
      respects := ⟨?_, ?_⟩ }
  · intro type part tidy offers
    cases offers with
    | argument _ inside => exact tidy.part inside
    | part known closed =>
      obtain ⟨memory, here, run⟩ := closed
      obtain ⟨plain, agrees⟩ := closes tidy known
      have agree := (agrees memory memory here.1 here.1).1
      rw [run] at agree
      cases agree with
      | succeed matched => exact matched.shows.tidy
  · intro type ref args memory tidy seenAs here
    obtain ⟨fields, steady, -⟩ := indifferent.exists_fields tidy seenAs
    obtain ⟨after, run, left⟩ := steady memory here.1
    have arises := Arises.fields ref here.2
    rw [run] at arises ⊢
    exact ⟨left, arises⟩
  · intro type ref bindings hint memory tidy known here
    obtain ⟨plain, agrees⟩ := closes tidy known
    exact ⟨(agrees memory memory here.1 here.1).2.1, .close ref bindings hint here.2⟩
  · intro type other identity ref args bindings others tidy tidyOther identified
      identifiedOther seenAs
      bound boundOther memory later here hereLater
    obtain ⟨fields, steady, -⟩ := indifferent.exists_fields tidy seenAs
    obtain ⟨after, run, -⟩ := steady memory here.1
    obtain ⟨afterLater, runLater, -⟩ := steady later hereLater.1
    rw [run, runLater]
    refine .succeed (List.forall₂_same.mpr fun field inside =>
      ⟨rfl, fun first second held heldOther => ?_⟩)
    have known : HasHint model (model.Held start) type ref bindings field.2 :=
      .field seenAs bound here (by rw [run]) inside
    obtain ⟨plain, agrees⟩ := indifferent.close_agrees tidy tidyOther
      (seen tidy tidyOther identified identifiedOther) boundOther holds known
    exact (agrees first second held.1 heldOther.1).1.mono
      fun _ _ matched _ _ => sameField_of_matched matched field.1
  · intro type other identity ref args bindings others tidy tidyOther identified
      identifiedOther seenAs
      bound boundOther declared offered
    have alike {relates : HostType → HostType → Prop}
        (weaken : ∀ plain made another, Matched model.refs plain made another →
          relates made another)
        (hint : HostType) (inside : hint ∈ declared.payload.types) :
        ClosesAlike model (model.Held start) ref bindings others relates hint hint := by
      intro first second held heldOther
      obtain ⟨plain, agrees⟩ := indifferent.close_agrees tidy tidyOther
        (seen tidy tidyOther identified identifiedOther) boundOther holds
        (.slot seenAs bound offered inside)
      exact (agrees first second held.1 heldOther.1).1.mono
        fun _ _ matched _ _ => weaken plain _ _ matched
    cases payload : declared.payload with
    | unit => trivial
    | tuple slots =>
      intro hint inside
      exact alike (fun _ _ _ matched => matched.same) hint (by rwa [payload])
    | object fields =>
      intro field inside
      exact ⟨rfl, alike (fun _ _ _ matched => sameField_of_matched matched field.1) field.2
        (by rw [payload]; exact List.mem_map_of_mem inside)⟩

/-- No class that a run over tidy roots needs tells spellings apart if the declarations cannot. -/
theorem Indifferent.uniform (indifferent : model.Indifferent) (apart : model.NamesApart)
    (tidy : start.IsTidy model.refs) {roots : List HostType}
    (each : ∀ root ∈ roots, root.Tidy model.refs) : Uniform model start roots :=
  ⟨_, _, indifferent.uniformOn apart tidy each⟩

end Model

end WireModel
