import Mathlib.Data.List.Find
import WireModel.Codec.Decoding
import WireModel.Proofs.Codec.Package
import WireModel.Proofs.Naming
import WireModel.Proofs.Search

/-!
Finding the classes of a package: where names do not clash, the place of a class and its qualified
name lead to it and to no other one.
-/

namespace WireModel

open Schema Text

namespace Text

theorem not_dot_mem_identifier {text : String} (identifier : isIdentifier text = true) :
    '.' ∉ text.toList :=
  not_mem_identifier (by decide +kernel) (by decide +kernel) identifier

theorem isIdentifier_of_isBindable {text : String} (bindable : isBindable text = true) :
    isIdentifier text = true := by
  simp only [isBindable, Bool.and_eq_true] at bindable
  exact bindable.1.1

end Text

theorem Render.Python.isBindable_of_isReadable {entity : Entity}
    (readable : isReadable entity = true) : isBindable entity.className = true := by
  cases entity with
  | record entity =>
    simp only [isReadable, isReadableRecord, Bool.and_eq_true] at readable
    exact readable.1
  | enumeration entity =>
    simp only [isReadable, Bool.and_eq_true] at readable
    exact readable.1
  | dataEnum entity =>
    simp only [isReadable, Bool.and_eq_true] at readable
    exact readable.1.1

theorem Render.Python.isIdentifier_of_isReadable {entity : Entity}
    (readable : isReadable entity = true) : isIdentifier entity.className = true :=
  isIdentifier_of_isBindable (isBindable_of_isReadable readable)

namespace Codec

theorem Class.outermost_of_mem {entity : Entity} {type : Class} (member : type ∈ ofEntity entity) :
    type.path.outermost = entity.className := by
  cases entity with
  | record entity =>
    obtain rfl := List.mem_singleton.mp member
    rfl
  | enumeration entity =>
    obtain rfl := List.mem_singleton.mp member
    rfl
  | dataEnum entity =>
    rcases List.mem_cons.mp member with rfl | nested
    · rfl
    rcases List.mem_cons.mp nested with rfl | holder
    · rfl
    obtain ⟨v, -, found⟩ := List.mem_filterMap.mp holder
    unfold holder? at found
    split at found
    · cases found
      rfl
    · cases found

theorem Class.path_of_nestedIn {entity : DataEnum} {type : Class}
    (member : type ∈ nestedIn entity) :
    type.path = .nested entity.className type.path.name := by
  rcases List.mem_cons.mp member with rfl | holder
  · rfl
  obtain ⟨v, -, found⟩ := List.mem_filterMap.mp holder
  unfold holder? at found
  split at found
  · cases found
    simp only [path, holderPath, ClassPath.name]
  · cases found

/-- Only one class of an entity is not nested in another one. -/
theorem Class.eq_of_mem_of_top {entity : Entity} {type other : Class}
    (member : type ∈ ofEntity entity)
    (otherMember : other ∈ ofEntity entity) {name : String} (top : type.path = .top name)
    (otherTop : other.path = .top name) : other = type := by
  cases entity with
  | record => rw [List.mem_singleton.mp member, List.mem_singleton.mp otherMember]
  | enumeration => rw [List.mem_singleton.mp member, List.mem_singleton.mp otherMember]
  | dataEnum entity =>
    have head {type : Class} (member : type ∈ ofEntity (.dataEnum entity))
        (top : type.path = .top name) : type = .dataEnum entity := by
      rcases List.mem_cons.mp member with rfl | nested
      · rfl
      · rw [path_of_nestedIn nested] at top
        cases top
    rw [head member top, head otherMember otherTop]

private theorem cut_at_mark {mark : Char} {front rest other otherRest : List Char}
    (plain : mark ∉ front) (otherPlain : mark ∉ other)
    (same : front ++ mark :: rest = other ++ mark :: otherRest) :
    front = other ∧ rest = otherRest := by
  induction front generalizing other with
  | nil =>
    cases other with
    | nil => exact ⟨rfl, (List.cons.inj same).2⟩
    | cons c others =>
      obtain ⟨rfl, -⟩ := List.cons.inj same
      exact absurd (List.mem_cons_self ..) otherPlain
  | cons c front ih =>
    cases other with
    | nil =>
      obtain ⟨rfl, -⟩ := List.cons.inj same
      exact absurd (List.mem_cons_self ..) plain
    | cons d others =>
      obtain ⟨rfl, tail⟩ := List.cons.inj same
      obtain ⟨rfl, rfl⟩ := ih (fun member => plain (List.mem_cons_of_mem _ member))
        (fun member => otherPlain (List.mem_cons_of_mem _ member)) tail
      exact ⟨rfl, rfl⟩

/-- Where class names hold no dot, a qualified name tells the place of a class. -/
theorem ClassPath.eq_of_qualifiedName {path other : ClassPath} (plain : '.' ∉ path.outermost.toList)
    (otherPlain : '.' ∉ other.outermost.toList)
    (same : path.qualifiedName = other.qualifiedName) : path = other := by
  have spelled := congrArg String.toList same
  have dotted (outer name : String) :
      (outer ++ "." ++ name).toList = outer.toList ++ '.' :: name.toList := by
    simp [String.toList_append]
  cases path with
  | top name =>
    cases other with
    | top other => exact congrArg _ same
    | nested outer inner =>
      simp only [qualifiedName, dotted] at spelled
      simp only [outermost, spelled] at plain
      exact absurd (by simp) plain
  | nested outer inner =>
    cases other with
    | top other =>
      simp only [qualifiedName, dotted] at spelled
      simp only [outermost, ← spelled] at otherPlain
      exact absurd (by simp) otherPlain
    | nested otherOuter otherInner =>
      simp only [qualifiedName, dotted] at spelled
      obtain ⟨outerSame, innerSame⟩ := cut_at_mark plain otherPlain spelled
      simp only [outermost] at outerSame
      rw [String.toList_inj.mp outerSame, String.toList_inj.mp innerSame]

namespace Library

variable {library : Library}

/-- A class of the package is that of an entity whose name is in its normal form, or nested in
it. -/
theorem mem_classes {type : Class} : type ∈ library.classes ↔ ∃ entity ∈ library.entities,
    normalized entity.className = entity.className ∧ type ∈ Class.ofEntity entity := by
  simp only [classes, List.mem_flatMap, List.mem_filter, beq_iff_eq, and_assoc]

theorem dataEnum_mem_classes {entity : DataEnum} :
    .dataEnum entity ∈ library.classes ↔ .dataEnum entity ∈ library.entities ∧
      normalized entity.className = entity.className := by
  constructor
  · intro known
    obtain ⟨owner, inside, plain, made⟩ := mem_classes.mp known
    cases owner with
    | record => cases List.mem_singleton.mp made
    | enumeration => cases List.mem_singleton.mp made
    | dataEnum owner =>
      rcases List.mem_cons.mp made with same | nested
      · cases same
        exact ⟨inside, plain⟩
      rcases List.mem_cons.mp nested with same | holder
      · cases same
      obtain ⟨w, -, found⟩ := List.mem_filterMap.mp holder
      unfold Class.holder? at found
      split at found <;> cases found
  · rintro ⟨inside, plain⟩
    exact mem_classes.mpr ⟨_, inside, plain, List.mem_cons_self ..⟩

/-- The holder class of a variant stands beside its data enum. -/
theorem holder_mem_classes {entity : DataEnum} (known : .dataEnum entity ∈ library.classes)
    {v : Schema.Variant} (member : v ∈ entity.variants) {fields : List Field}
    (carries : v.payload = .object fields) :
    .record (Class.holderPath entity v) v.name.pascal fields ∈ library.classes := by
  obtain ⟨inside, plain⟩ := dataEnum_mem_classes.mp known
  refine mem_classes.mpr ⟨_, inside, plain, List.mem_cons_of_mem _ (List.mem_cons_of_mem _ ?_)⟩
  refine List.mem_filterMap.mpr ⟨v, List.mem_reverse.mpr member, ?_⟩
  rw [Class.holder?, carries]

theorem Loaded.plain (loaded : library.Loaded) {type : Class} (member : type ∈ library.classes) :
    '.' ∉ type.path.outermost.toList := by
  obtain ⟨entity, inside, -, made⟩ := mem_classes.mp member
  rw [Class.outermost_of_mem made]
  exact not_dot_mem_identifier
    (Render.Python.isIdentifier_of_isReadable (loaded.readable entity inside))

/-- The names of the classes nested in one data enum are apart. -/
def NestedDistinct (library : Library) : Prop :=
  ∀ entity, .dataEnum entity ∈ library.entities →
    ((Class.nestedIn entity).map fun type => type.path.name).Nodup

/-- The places of the classes of one entity are apart. -/
theorem NestedDistinct.ofEntity (nested : library.NestedDistinct) {entity : Entity}
    (member : entity ∈ library.entities) : ((Class.ofEntity entity).map Class.path).Nodup := by
  cases entity with
  | record entity => exact List.nodup_singleton _
  | enumeration entity => exact List.nodup_singleton _
  | dataEnum entity =>
    have names := nested entity member
    simp only [Class.ofEntity, List.map_cons, List.nodup_cons]
    constructor
    · intro repeated
      obtain ⟨type, inside, same⟩ := List.mem_map.mp repeated
      rw [Class.path_of_nestedIn inside] at same
      cases same
    · rw [List.nodup_map_iff_inj_on (List.Nodup.of_map _ names)]
      intro type inside other otherInside same
      exact List.inj_on_of_nodup_map names inside otherInside (congrArg ClassPath.name same)

theorem Loaded.classes_distinct (loaded : library.Loaded) (nested : library.NestedDistinct) :
    (library.classes.map Class.path).Nodup := by
  rw [classes, List.map_flatMap, List.nodup_flatMap]
  constructor
  · intro entity member
    exact nested.ofEntity (List.mem_filter.mp member).1
  · have apart : library.entities.Pairwise fun entity other =>
        entity.className ≠ other.className := List.pairwise_map.mp loaded.distinct
    refine (apart.filter _).imp ?_
    intro entity other differ path first second
    obtain ⟨type, made, rfl⟩ := List.mem_map.mp first
    obtain ⟨otherType, otherMade, same⟩ := List.mem_map.mp second
    apply differ
    rw [← Class.outermost_of_mem made, ← same, Class.outermost_of_mem otherMade]

/-- The place of a class leads to it. -/
theorem Loaded.at?_path (loaded : library.Loaded) (nested : library.NestedDistinct) {type : Class}
    (member : type ∈ library.classes) : library.at? type.path = some type := by
  refine Search.find?_unique member (beq_self_eq_true _) ?_
  intro other otherMember same
  exact Search.eq_of_key (loaded.classes_distinct nested) member otherMember (beq_iff_eq.mp same)

/-- The name of a class that is not nested in another one leads to it, whatever else clashes. -/
theorem Loaded.at?_top (loaded : library.Loaded) {type : Class} (member : type ∈ library.classes)
    {name : String} (top : type.path = .top name) : library.at? (.top name) = some type := by
  refine Search.find?_unique member (beq_iff_eq.mpr top) ?_
  intro other otherMember same
  rw [beq_iff_eq] at same
  obtain ⟨entity, inside, -, made⟩ := mem_classes.mp member
  obtain ⟨otherEntity, otherInside, -, otherMade⟩ := mem_classes.mp otherMember
  obtain rfl : otherEntity = entity := by
    refine Search.eq_of_key loaded.distinct inside otherInside ?_
    rw [← Class.outermost_of_mem made, ← Class.outermost_of_mem otherMade, top, same]
  exact Class.eq_of_mem_of_top made otherMade top same

/-- A class is found under its qualified name as under its path. -/
theorem Loaded.class?_eq_at? (loaded : library.Loaded) {type : Class}
    (member : type ∈ library.classes) :
    library.class? type.path.qualifiedName = library.at? type.path := by
  refine List.find?_congr fun other inside => ?_
  rw [Bool.eq_iff_iff, beq_iff_eq, beq_iff_eq]
  constructor
  · exact ClassPath.eq_of_qualifiedName (loaded.plain inside) (loaded.plain member)
  · exact congrArg ClassPath.qualifiedName

theorem mem_of_at? {path : ClassPath} {type : Class} (found : library.at? path = some type) :
    type ∈ library.classes ∧ type.path = path := by
  have same := List.find?_some (p := fun type : Class => type.path == path) found
  exact ⟨List.mem_of_find?_eq_some found, beq_iff_eq.mp same⟩

/-- What a name stands for is decoded as the class that it leads to. -/
theorem Loaded.form_of_at? (loaded : library.Loaded) {path : ClassPath} {type : Class}
    (found : library.at? path = some type) :
    library.form (library.typeOf type) = .instanceOf type := by
  obtain ⟨member, rfl⟩ := mem_of_at? found
  simp only [typeOf, form, ref, loaded.class?_eq_at? member, found]

/-- A class of the package is decoded as itself. -/
theorem Loaded.form_typeOf (loaded : library.Loaded) (nested : library.NestedDistinct)
    {type : Class}
    (member : type ∈ library.classes) : library.form (library.typeOf type) = .instanceOf type :=
  loaded.form_of_at? (loaded.at?_path nested member)

theorem Loaded.changed? (loaded : library.Loaded) (path : ClassPath) (name : String) :
    library.changed? path name = none := by
  simp [Library.changed?, loaded.unchanged]

theorem Loaded.nameOf (loaded : library.Loaded) (path : ClassPath) :
    library.nameOf path = path.name := by
  simp [Library.nameOf, ownText, loaded.changed?]

theorem Loaded.provider (loaded : library.Loaded) (path : ClassPath) (name : String) :
    library.provider path name = .ok path := by
  simp [Library.provider, loaded.changed?]

theorem Loaded.decodingClass (loaded : library.Loaded) (type : Class) :
    library.decodingClass type = .ok type := by
  cases type <;> simp [Library.decodingClass, loaded.changed?]

end Library

end Codec

end WireModel
