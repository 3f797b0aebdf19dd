import WireModel.Proofs.Collection.References

/-!
The names of generated classes. Each character of them is one of the name of a declared class, or a
letter or digit of a word for a type of the language.
-/

namespace WireModel

variable {model : Model} {target : Target} {allowed : Char → Prop}

/-- Each character of the text is allowed. -/
def MadeOf (allowed : Char → Prop) (text : String) : Prop :=
  ∀ c ∈ text.toList, allowed c

theorem madeOf_append {first second : String} :
    MadeOf allowed (first ++ second) ↔ MadeOf allowed first ∧ MadeOf allowed second := by
  rw [MadeOf, String.toList_append]
  exact List.forall_mem_append

theorem madeOf_word {word : String} (alphanumeric : ∀ c : Char, c.isAlphanum = true → allowed c)
    (plain : word.toList.all Char.isAlphanum = true) : MadeOf allowed word :=
  fun c member => alphanumeric c (List.all_eq_true.mp plain c member)

theorem Target.primitiveFragment_plain (target : Target) (shown : Primitive) :
    (target.primitiveFragment shown).toList.all Char.isAlphanum = true := by
  cases target <;> cases shown <;> decide

/-- The names of the classes that stand in a type are made of allowed characters. -/
def HostType.NamesMadeOf (allowed : Char → Prop) (type : HostType) : Prop :=
  ∀ ref, type.Mentions ref → MadeOf allowed ref.name

theorem HostType.NamesMadeOf.part {type : HostType} (names : type.NamesMadeOf allowed)
    {args : List View} (kept : type.view.args? = some args) {arg : View} (member : arg ∈ args) :
    ∃ part : HostType, part.view = arg ∧ part.NamesMadeOf allowed := by
  obtain ⟨part, inside, same⟩ := List.mem_map.mp (view_parts kept ▸ member)
  exact ⟨part, same, fun ref mentions => names ref (.part inside mentions)⟩

namespace View

mutual

/-- What a type adds to the name of a class is made of the names of the classes in it, and of
words. -/
theorem fragment_madeOf (alphanumeric : ∀ c : Char, c.isAlphanum = true → allowed c) :
    ∀ (view : View) {type : HostType} {text : String}, type.view = view →
    type.NamesMadeOf allowed → view.fragment target = .ok text → MadeOf allowed text
  | .refused _, _, _, _, _, made => by cases made
  | .primitive shown, _, _, _, _, made => by
    cases made
    exact madeOf_word alphanumeric (target.primitiveFragment_plain shown)
  | .list [], _, _, _, _, made => by cases made
  | .list (item :: _), _, _, seenAs, names, made => by
    obtain ⟨inner, found, same⟩ := Outcome.bind_ok.mp made
    obtain rfl := Outcome.pure_ok.mp same
    obtain ⟨_, seen, inside⟩ := names.part (by rw [seenAs]; rfl) (.head _)
    exact madeOf_append.mpr ⟨madeOf_word alphanumeric (by decide),
      fragment_madeOf alphanumeric item seen inside found⟩
  | .map [], _, _, _, _, made => by cases made
  | .map [_], _, _, _, _, made => by
    obtain ⟨_, -, lacks⟩ := Outcome.bind_ok.mp made
    cases lacks
  | .map (key :: value :: _), _, _, seenAs, names, made => by
    obtain ⟨first, foundKey, rest⟩ := Outcome.bind_ok.mp made
    obtain ⟨second, foundValue, same⟩ := Outcome.bind_ok.mp rest
    obtain rfl := Outcome.pure_ok.mp same
    obtain ⟨_, seenKey, insideKey⟩ := names.part (by rw [seenAs]; rfl) (.head _)
    obtain ⟨_, seenValue, insideValue⟩ := names.part (by rw [seenAs]; rfl) (.tail _ (.head _))
    exact madeOf_append.mpr ⟨madeOf_append.mpr ⟨madeOf_word alphanumeric (by decide),
      fragment_madeOf alphanumeric key seenKey insideKey foundKey⟩,
      fragment_madeOf alphanumeric value seenValue insideValue foundValue⟩
  | .optional inner, _, _, seenAs, names, made => by
    obtain ⟨_, seen, inside⟩ := names.part (by rw [seenAs]; rfl) (.head _)
    exact fragment_madeOf alphanumeric inner seen inside made
  | .box [], _, _, _, _, made => by cases made
  | .box (inner :: _), _, _, seenAs, names, made => by
    obtain ⟨_, seen, inside⟩ := names.part (by rw [seenAs]; rfl) (.head _)
    exact fragment_madeOf alphanumeric inner seen inside made
  | .enumeration ref, _, _, seenAs, names, made => by
    cases made
    exact names ref (.self (seenAs ▸ rfl))
  | .record ref args, _, _, seenAs, names, made => by
    obtain ⟨arguments, found, same⟩ := Outcome.bind_ok.mp made
    obtain rfl := Outcome.pure_ok.mp same
    exact madeOf_append.mpr ⟨names ref (.self (seenAs ▸ rfl)),
      fragments_madeOf alphanumeric args (fun _ => names.part (by rw [seenAs]; rfl)) found⟩
  | .dataEnum ref args, _, _, seenAs, names, made => by
    obtain ⟨arguments, found, same⟩ := Outcome.bind_ok.mp made
    obtain rfl := Outcome.pure_ok.mp same
    exact madeOf_append.mpr ⟨names ref (.self (seenAs ▸ rfl)),
      fragments_madeOf alphanumeric args (fun _ => names.part (by rw [seenAs]; rfl)) found⟩

/-- And so is what some types add. -/
theorem fragments_madeOf (alphanumeric : ∀ c : Char, c.isAlphanum = true → allowed c) :
    ∀ (views : List View) {text : String},
    (∀ view ∈ views, ∃ type : HostType, type.view = view ∧ type.NamesMadeOf allowed) →
    fragments target views = .ok text → MadeOf allowed text
  | [], _, _, made => by
    cases made
    exact fun _ member => by cases member
  | view :: rest, _, each, made => by
    obtain ⟨first, found, next⟩ := Outcome.bind_ok.mp made
    obtain ⟨others, later, same⟩ := Outcome.bind_ok.mp next
    obtain rfl := Outcome.pure_ok.mp same
    obtain ⟨⟨_, seen, inside⟩, behind⟩ := List.forall_mem_cons.mp each
    exact madeOf_append.mpr ⟨fragment_madeOf alphanumeric view seen inside found,
      fragments_madeOf alphanumeric rest behind later⟩

end

/-- The name of the class that is generated for a type is made like what the type adds to other
names. -/
theorem className_madeOf {type : HostType} {name : String}
    (alphanumeric : ∀ c : Char, c.isAlphanum = true → allowed c) (isClass : type.view.class?.isSome)
    (names : type.NamesMadeOf allowed) (named : type.view.className target = .ok name) :
    MadeOf allowed name := by
  have same : type.view.fragment target = type.view.className target := by
    cases seenAs : type.view with
    | record ref args | enumeration ref | dataEnum ref args => rfl
    | refused error | primitive shown | list args | map args | optional inner | box args =>
      rw [seenAs] at isClass
      cases isClass
  exact fragment_madeOf alphanumeric type.view rfl names (same.trans named)

end View

/-- Only what is seen as a class is described. -/
theorem Collect.isClass_of_describe {type : HostType} {content : Content} {start : Memory}
    {entity : Schema.Entity} (made : HasContent model start type content)
    (found : describe model target type content = .ok (some entity)) : type.view.class?.isSome := by
  cases made with
  | primitive seenAs | container seenAs => cases found
  | record seenAs | enumeration seenAs | dataEnum seenAs => exact seenAs ▸ rfl

/-- The names of the collected classes are made of allowed characters if those of the declared ones
are. -/
theorem Walked.className_madeOf {start : Memory} {roots : List HostType} {collection : Collection}
    {walk : List Expansion} (walked : Walked model start roots (.empty target) collection walk)
    (alphanumeric : ∀ c : Char, c.isAlphanum = true → allowed c)
    (names : ∀ type, Needed model start roots type → type.NamesMadeOf allowed)
    {entity : Schema.Entity} (member : entity ∈ collection.schema.entities) :
    MadeOf allowed entity.className := by
  have entities : collection.schema.entities.Perm (walk.filterMap Expansion.entity) :=
    walked.entities
  obtain ⟨expansion, inside, made⟩ := List.mem_filterMap.mp (entities.mem_iff.mp member)
  obtain ⟨-, content, described⟩ := walked.valid expansion inside
  rw [made] at described
  have isClass := Collect.isClass_of_describe content described
  obtain ⟨described, same, named⟩ := Collect.describe_class isClass content described
  cases same
  exact View.className_madeOf alphanumeric isClass
    (names _ (walked.needed (walked.reached _ inside))) named

end WireModel
