import WireModel.Codec.Instance
import WireModel.Proofs.Codec.Methods
import WireModel.Proofs.Codec.RoundTrip

/-!
Instances of data enums through their methods: a factory makes an instance of its variant, the tests
tell the variant, and the accessors give what the factory was called with, of its own variant only.
-/

namespace WireModel

namespace Text

/-- A name that begins with two characters of ASCII that are no mark begins with the first of them
in its normal form. -/
theorem head?_normalized {name : String} {first second : Char} (rest : List Char)
    (spelled : name.toList = first :: second :: rest) (ascii : first.toNat < 0x80)
    (followed : second.toNat < 0x80) (apart : composition? first second = none) :
    (normalized name).toList.head? = some first := by
  have starter {c : Char} (ascii : c.toNat < 0x80) : combiningClass c = 0 := if_pos ascii
  have inFront {c : Char} (ascii : c.toNat < 0x80) (text : List Char) :
      insertMark c text = c :: text := by
    cases text with
    | nil => rfl
    | cons d others =>
      rw [insertMark, starter ascii, if_neg (by omega)]
  unfold normalized
  split
  · rw [spelled]
    rfl
  have plain {c : Char} (ascii : c.toNat < 0x80) : decomposed c = [c] := if_pos ascii
  rw [String.toList_ofList, spelled, List.flatMap_cons, List.flatMap_cons, plain ascii,
    plain followed, List.singleton_append, List.singleton_append, ordered, List.foldr_cons,
    List.foldr_cons, inFront followed, inFront ascii, composed, if_pos (starter ascii),
    composedFrom]
  simp only [if_true, apart, starter followed]
  rfl

end Text

namespace Codec

open Schema Text
open Render.Python (attributeName keptName)

/-- Each parameter has a value: the leading ones by place, the others by name, in any order. -/
structure Supplies (parameters : List String) (args : List Value) (named : List (String × Value))
    (values : List Value) : Prop where
  length : values.length = parameters.length
  leading : args <+: values
  others : named.Perm ((parameters.drop args.length).zip (values.drop args.length))

namespace Library

/-- Parameters that are apart are bound to the values that they are given. -/
theorem bindAll_of_supplies {parameters : List String} {args values : List Value}
    {named : List (String × Value)} (distinct : parameters.Nodup)
    (supplies : Supplies parameters args named values) :
    bindAll parameters args named = .ok values := by
  obtain ⟨length, ⟨others, rfl⟩, same⟩ := supplies
  rw [List.drop_left] at same
  rw [List.length_append] at length
  generalize behind : parameters.drop args.length = free at same
  have free_length : free.length = others.length := by
    rw [← behind, List.length_drop]
    omega
  have names : (free.zip others).map Prod.fst = free := List.map_fst_zip (Nat.le_of_eq free_length)
  have apart : (named.map Prod.fst).Nodup := by
    rw [(same.map Prod.fst).nodup_iff, names, ← behind]
    exact distinct.sublist (List.drop_sublist ..)
  have known : (named.any fun entry => !free.contains entry.1) = false := by
    rw [List.any_eq_false]
    intro entry member
    have inside := (List.of_mem_zip (same.mem_iff.mp member)).1
    simpa using inside
  have leading : ((parameters.zip args).map fun pair => (pair.1, some pair.2)).filterMap Prod.snd =
      args := by
    rw [List.filterMap_map]
    refine (List.filterMap_eq_map (f := Prod.snd)).symm ▸ List.map_snd_zip ?_
    omega
  have given : (free.map fun name => (name, named.lookup name)).filterMap Prod.snd = others := by
    rw [List.filterMap_map]
    conv_lhs => rw [← names]
    rw [List.filterMap_map]
    have each : ∀ entry ∈ free.zip others, named.lookup entry.1 = some entry.2 :=
      fun entry member => Search.lookup_of_mem apart (same.mem_iff.mpr member)
    rw [List.filterMap_congr (g := fun entry => some entry.2) each]
    exact (List.filterMap_eq_map (f := Prod.snd)).symm ▸ List.map_snd_zip
      (Nat.le_of_eq free_length.symm)
  have fits : ¬ parameters.length < args.length := by omega
  have bound : bindArguments parameters args named =
      .ok (((parameters.zip args).map fun pair => (pair.1, some pair.2)) ++
        free.map fun name => (name, named.lookup name)) := by
    simp only [bindArguments, behind, known, decide_eq_false fits, Bool.or_self, Bool.false_eq_true,
      if_false]
  rw [bindAll, bound, Outcome.ok_bind, List.filterMap_append, leading, given]
  exact if_pos (List.length_append.trans length)

/-- The names that instances and their class know for something else than a method of a variant. -/
def takenNames : List String :=
  ["__class__", "__dict__", "_variant", "_value", "variant", expectName, callName, decoderName]

/-- The name of a method begins with a word, which none of the other names does. -/
theorem not_taken_of_word {word name : String} (known : word ∈ methodWords)
    (begins : name.toList.head? = word.toList.head?) : name ∉ takenNames := by
  intro taken
  have differ : ∀ word ∈ methodWords, ∀ name ∈ takenNames,
      name.toList.head? ≠ word.toList.head? := by decide +kernel
  exact differ word known name taken begins

theorem head?_normalized_word {word : String} (known : word ∈ methodWords) (rest : String) :
    (normalized (word ++ rest)).toList.head? = word.toList.head? := by
  simp only [methodWords, List.mem_cons, List.not_mem_nil, or_false] at known
  rcases known with rfl | rfl | rfl
  · exact head?_normalized ('_' :: rest.toList) String.toList_append (by decide) (by decide)
      (by decide)
  · exact head?_normalized ('t' :: '_' :: rest.toList) String.toList_append (by decide)
      (by decide) (by decide)
  · exact head?_normalized ('_' :: rest.toList) String.toList_append (by decide) (by decide)
      (by decide)

def testName (v : Schema.Variant) : String :=
  normalized ("is_" ++ v.name.snake)

/-- The name of the accessor of a variant, which the number of a slot may follow. -/
def getterName (v : Schema.Variant) : String :=
  normalized ("get_" ++ v.name.snake)

/-- No method is taken for something else. -/
theorem not_taken {v : Schema.Variant} {part : String × Method} (member : part ∈ variantMethods v) :
    part.1 ∉ takenNames := by
  have begins (text : String) (known : "get_" ∈ methodWords) :
      (getterName v ++ text).toList.head? = "get_".toList.head? := by
    have front := head?_normalized_word known v.name.snake
    rw [String.toList_append, List.head?_append, getterName, front]
    rfl
  rcases List.mem_cons.mp member with rfl | others
  · have known : "of_" ∈ methodWords := by decide
    exact not_taken_of_word known (head?_normalized_word known _)
  rcases List.mem_append.mp others with accessor | test
  · have known : "get_" ∈ methodWords := by decide
    have bare : getterName v ∉ takenNames :=
      not_taken_of_word known (head?_normalized_word known _)
    split at accessor
    · cases accessor
    · rw [List.mem_singleton.mp accessor]
      exact bare
    · rw [List.mem_singleton.mp accessor]
      exact bare
    · obtain ⟨place, -, rfl⟩ := List.mem_map.mp accessor
      exact not_taken_of_word known (begins _ known)
  · have known : "is_" ∈ methodWords := by decide
    rw [List.mem_singleton.mp test]
    exact not_taken_of_word known (head?_normalized_word known _)

section Instances

variable {library : Library} {entity : DataEnum} {discriminant payload : Value}

/-- What a class of a loaded package has by itself is not hidden. -/
theorem Loaded.classMember?_own (loaded : library.Loaded) {path : ClassPath}
    {receiver : Option Value}
    {name : String} {value : Value} (own : library.ownMember? path receiver name = some value) :
    library.classMember? path receiver name = some value := by
  have unchanged : library.changedMember? path receiver name = none := by
    rw [changedMember?, loaded.changed?]
    split <;> rfl
  rw [classMember?, unchanged, own]
  rfl

/-- An attribute of an instance is looked up in what all instances have, in its own parts and in its
class. -/
theorem attribute_of_instance {value result : Value} {path : ClassPath} {name : String}
    (isInstance : classOf? value = some path)
    (looked : (((library.fixedAttribute? value name).or
      (((partsOf value).lookup name).filter Value.isSet)).or
        (library.classMember? path (some value) name)).filter Value.isSet = some result) :
    library.attribute value name = .ok result := by
  have known := isInstance
  rw [classOf?] at known
  split at known
  case h_4 => cases known
  all_goals
    rename_i same
    simp only [«attribute», same, isInstance, looked]

theorem attribute_of_class {result : Value} {path : ClassPath} {name : String}
    (looked : (library.classMember? path none name).filter Value.isSet = some result) :
    library.attribute (.type path) name = .ok result := by
  simp only [«attribute», Value.content, looked]

/-- An instance has the methods of its class. -/
theorem Loaded.attribute_bound (loaded : library.Loaded)
    (found : library.at? (.top entity.className) = some (.dataEnum entity)) {name : String}
    {value : Value} (free : name ∉ ["__class__", "__dict__", "_variant", "_value", "variant"])
    (member : library.dataEnumMember? entity (some (.choice entity.className discriminant payload))
      name = some value) (isSet : value.isSet = true) :
    library.attribute (.choice entity.className discriminant payload) name = .ok value := by
  simp only [List.mem_cons, List.not_mem_nil, or_false, not_or] at free
  obtain ⟨noClass, noDict, noVariant, noValue, noProperty⟩ := free
  have unfixed : library.fixedAttribute? (.choice entity.className discriminant payload) name =
      none := by
    unfold fixedAttribute?
    split <;> first | rfl | contradiction
  have unset : (partsOf (.choice entity.className discriminant payload)).lookup name = none := by
    have parts : partsOf (.choice entity.className discriminant payload) =
      [("_variant", discriminant), ("_value", payload)] := rfl
    rw [parts, Search.lookup_entry, if_neg noVariant, Search.lookup_entry, if_neg noValue]
    rfl
  have inClass : library.classMember? (.top entity.className)
      (some (.choice entity.className discriminant payload)) name = some value := by
    refine loaded.classMember?_own ?_
    rw [ownMember?, found]
    exact member
  refine attribute_of_instance rfl ?_
  rw [unfixed, unset, inClass]
  simp [Option.filter, isSet]

/-- The parts of an instance are its own. -/
theorem attribute_variant (isSet : discriminant.isSet = true) (className : String) :
    library.attribute (.choice className discriminant payload) "_variant" = .ok discriminant := by
  refine attribute_of_instance rfl ?_
  have unfixed :
      library.fixedAttribute? (.choice className discriminant payload) "_variant" = none := rfl
  have here : (partsOf (.choice className discriminant payload)).lookup "_variant" =
      some discriminant := rfl
  rw [unfixed, here]
  simp [Option.filter, isSet]

theorem attribute_value (isSet : payload.isSet = true) (className : String) :
    library.attribute (.choice className discriminant payload) "_value" = .ok payload := by
  refine attribute_of_instance rfl ?_
  have unfixed :
      library.fixedAttribute? (.choice className discriminant payload) "_value" = none := rfl
  have here : (partsOf (.choice className discriminant payload)).lookup "_value" =
      some payload := rfl
  rw [unfixed, here]
  simp [Option.filter, isSet]

theorem Loaded.attribute_property (loaded : library.Loaded) (isSet : discriminant.isSet = true)
    (className : String) :
    library.attribute (.choice className discriminant payload) "variant" = .ok discriminant := by
  have fixed : library.fixedAttribute? (.choice className discriminant payload) "variant" =
      some discriminant := by
    simp [fixedAttribute?, Value.content, loaded.changed?]
  refine attribute_of_instance rfl ?_
  rw [fixed]
  simp [Option.filter, isSet]

variable {name : String} {v w : Schema.Variant}

/-- What a method of a variant does on an instance. -/
theorem Loaded.call_method (loaded : library.Loaded)
    (found : library.at? (.top entity.className) = some (.dataEnum entity))
    (distinct : ((methods entity).map Prod.fst).Nodup) (member : w ∈ entity.variants)
    {method : Method} (inside : (name, method) ∈ variantMethods w)
    (noFactory : ∀ v, method ≠ .factory v) :
    library.call (.choice entity.className discriminant payload) name [] =
      library.callVariantMethod entity (.choice entity.className discriminant payload)
        method [] := by
  have free := not_taken inside
  simp only [takenNames, List.mem_cons, List.not_mem_nil, or_false, not_or] at free
  have here : Codec.method? entity name = some method :=
    Search.lookup_reverse_of_mem distinct (List.mem_flatMap.mpr ⟨w, member, inside⟩)
  have isBound : library.dataEnumMember? entity
      (some (.choice entity.className discriminant payload)) name =
        some (.method (.top entity.className) name
          (.choice entity.className discriminant payload)) := by
    simp only [dataEnumMember?, here]
    cases method with
    | factory v => exact absurd rfl (noFactory v)
    | accessor => rfl
    | test => rfl
  have known : library.dataEnum? (ClassPath.top entity.className).qualifiedName = some entity := by
    show library.dataEnum? entity.className = some entity
    simp only [Library.dataEnum?, found]
  rw [call, loaded.attribute_bound found (by simp [free]) isBound rfl, Outcome.ok_bind]
  show library.apply (.method (.top entity.className) name _) [] [] = _
  simp only [apply, Value.content, free, if_false, List.isEmpty_nil, if_true, callMethod,
    found, known, Option.bind_some, here]

/-- The names of a data enum do not hinder its methods: its own is shown, and those of its variants
are apart. -/
structure Reaches (entity : DataEnum) : Prop where
  clear : Clear entity
  methods : ((methods entity).map Prod.fst).Nodup
  normal : normalized entity.className = entity.className
  plain : entity.className.toList.head? ≠ some '_'

theorem Reaches.itself (reaches : Reaches entity) : reachesItself entity.className = true := by
  rw [reachesItself, keptName, reaches.normal, mangled_of_plain reaches.plain]
  exact beq_self_eq_true _

theorem Reaches.ownDiscriminant (reaches : Reaches entity) (member : w ∈ entity.variants) :
    ownDiscriminant entity w = .ok (declaredDiscriminant entity w) := by
  rw [Library.ownDiscriminant, if_pos reaches.itself, reaches.clear.discriminant member]

/-- Discriminants tell variants apart. -/
theorem Clear.isIdentical (clear : Clear entity) (member : v ∈ entity.variants)
    (other : w ∈ entity.variants) :
    (declaredDiscriminant entity v).isIdentical (declaredDiscriminant entity w) = true ↔ v = w := by
  have unfolded : (declaredDiscriminant entity v).isIdentical (declaredDiscriminant entity w) =
      ((ClassPath.nested entity.className Constants.discriminantClass,
        normalized v.name.upperSnake) ==
        (ClassPath.nested entity.className Constants.discriminantClass,
          normalized w.name.upperSnake)) := rfl
  rw [unfolded, beq_iff_eq, Prod.mk.injEq]
  constructor
  · rintro ⟨-, same⟩
    exact Search.eq_of_key clear.constants other member same
  · rintro rfl
    exact ⟨rfl, rfl⟩

theorem mem_methods_test (v : Schema.Variant) : (testName v, .test v) ∈ variantMethods v :=
  List.mem_cons_of_mem _ (List.mem_append_right _ (List.mem_singleton_self _))

/-- The test of a variant tells whether an instance is of it. -/
theorem Loaded.call_test (loaded : library.Loaded)
    (found : library.at? (.top entity.className) = some (.dataEnum entity))
    (reaches : Reaches entity) (member : v ∈ entity.variants) (other : w ∈ entity.variants) :
    ∃ answer, library.call (.choice entity.className (declaredDiscriminant entity v) payload)
      (testName w) [] = .ok (.bool answer) ∧ (answer = true ↔ v = w) := by
  refine ⟨(declaredDiscriminant entity v).isIdentical (declaredDiscriminant entity w), ?_,
    reaches.clear.isIdentical member other⟩
  rw [loaded.call_method found reaches.methods other (mem_methods_test w) (by simp)]
  simp only [callVariantMethod, noArguments, List.isEmpty_nil, if_true, Outcome.ok_bind,
    attribute_variant (show (declaredDiscriminant entity v).isSet = true from rfl),
    reaches.ownDiscriminant other]
  rfl

/-- An instance checks its variant by the function of its class. -/
theorem Loaded.expectVariant_eq (loaded : library.Loaded)
    (found : library.at? (.top entity.className) = some (.dataEnum entity))
    {expected : Value} :
    library.expectVariant (.choice entity.className discriminant payload) (.ok expected) =
      library.expect entity (.choice entity.className discriminant payload) expected := by
  have noMethod : Codec.method? entity expectName = none := by
    cases here : Codec.method? entity expectName with
    | none => rfl
    | some method =>
      obtain ⟨v, -, inside⟩ :=
        List.mem_flatMap.mp (List.mem_reverse.mp (Search.mem_of_lookup here))
      have taken : expectName ∈ takenNames := by decide
      exact absurd taken (not_taken inside)
  have isBound : library.dataEnumMember? entity
      (some (.choice entity.className discriminant payload)) expectName =
        some (.method (.top entity.className) expectName
          (.choice entity.className discriminant payload)) := by
    simp only [dataEnumMember?, noMethod]
    rfl
  have known : library.dataEnum? (ClassPath.top entity.className).qualifiedName = some entity := by
    show library.dataEnum? entity.className = some entity
    simp only [Library.dataEnum?, found]
  simp only [expectVariant, loaded.attribute_bound found (by decide) isBound rfl, Outcome.ok_bind,
    Value.content, known]
  rfl

/-- Only an instance of the variant passes its check; the refusal names the variant that it is
of. -/
theorem Reaches.expect_self (reaches : Reaches entity) (member : v ∈ entity.variants) :
    library.expect entity (.choice entity.className (declaredDiscriminant entity v) payload)
      (declaredDiscriminant entity v) = .ok () := by
  have identical := (reaches.clear.isIdentical member member).mpr rfl
  simp only [expect, attribute_variant (show (declaredDiscriminant entity v).isSet = true from rfl),
    Outcome.ok_bind, identical, Bool.not_true, Bool.false_eq_true, if_false]
  rfl

theorem Reaches.expect_other (reaches : Reaches entity) (member : v ∈ entity.variants)
    (other : w ∈ entity.variants) (differ : v ≠ w) :
    library.expect entity (.choice entity.className (declaredDiscriminant entity v) payload)
      (declaredDiscriminant entity w) =
        .error (.invalidVariant (normalized v.name.upperSnake)) := by
  have apart :
      (declaredDiscriminant entity v).isIdentical (declaredDiscriminant entity w) = false :=
    Bool.eq_false_iff.mpr fun same => differ ((reaches.clear.isIdentical member other).mp same)
  have noCodec : entity.className ≠ codecName := by
    intro same
    have plain := reaches.plain
    rw [same] at plain
    exact plain rfl
  simp only [expect, attribute_variant (show (declaredDiscriminant entity v).isSet = true from rfl),
    Outcome.ok_bind, apart, Bool.not_false, if_true]
  show (throw (if entity.className = codecName then _ else _) : Except CodecError Unit) = _
  rw [if_neg noCodec]
  rfl

/-- An accessor of another variant gives no value. -/
theorem Loaded.call_other (loaded : library.Loaded)
    (found : library.at? (.top entity.className) = some (.dataEnum entity))
    (reaches : Reaches entity) (member : v ∈ entity.variants) (other : w ∈ entity.variants)
    (differ : v ≠ w) {slot : Option Nat} (inside : (name, .accessor w slot) ∈ variantMethods w) :
    library.call (.choice entity.className (declaredDiscriminant entity v) payload) name [] =
      .error (.invalidVariant (normalized v.name.upperSnake)) := by
  rw [loaded.call_method found reaches.methods other inside (by simp)]
  simp only [callVariantMethod, noArguments, List.isEmpty_nil, if_true, Outcome.ok_bind,
    reaches.ownDiscriminant other, loaded.expectVariant_eq found,
    reaches.expect_other member other differ]
  rfl

/-- An accessor of the variant gives the payload, or the item of it at its place. -/
theorem Loaded.call_own (loaded : library.Loaded)
    (found : library.at? (.top entity.className) = some (.dataEnum entity))
    (reaches : Reaches entity) (member : v ∈ entity.variants) {slot : Option Nat}
    (inside : (name, .accessor v slot) ∈ variantMethods v) (isSet : payload.isSet = true) :
    library.call (.choice entity.className (declaredDiscriminant entity v) payload) name [] =
      slot.elim (.ok payload) (library.slot payload) := by
  rw [loaded.call_method found reaches.methods member inside (by simp)]
  simp only [callVariantMethod, noArguments, List.isEmpty_nil, if_true, Outcome.ok_bind,
    reaches.ownDiscriminant member, loaded.expectVariant_eq found, reaches.expect_self member,
    attribute_value isSet]
  cases slot <;> rfl

/-- The place of a class that is nested in a data enum leads to it, if no other one in it has its
name. -/
theorem Loaded.at?_nested (loaded : library.Loaded) (known : .dataEnum entity ∈ library.classes)
    (clear : Clear entity) {type : Class} (inside : type ∈ Class.nestedIn entity) :
    library.at? type.path = some type := by
  obtain ⟨listed, normal⟩ := dataEnum_mem_classes.mp known
  have member : type ∈ library.classes :=
    mem_classes.mpr ⟨_, listed, normal, List.mem_cons_of_mem _ inside⟩
  refine Search.find?_unique member (beq_self_eq_true _) fun other otherMember same => ?_
  rw [beq_iff_eq] at same
  obtain ⟨owner, ownerListed, -, made⟩ := mem_classes.mp otherMember
  obtain rfl : owner = .dataEnum entity := by
    refine Search.eq_of_key loaded.distinct listed ownerListed ?_
    rw [← Class.outermost_of_mem made, same, Class.path_of_nestedIn inside]
    rfl
  rcases List.mem_cons.mp made with rfl | nested
  · rw [Class.path_of_nestedIn inside] at same
    cases same
  · exact Search.eq_of_key clear.nested inside nested (congrArg ClassPath.name same)

def shownAttribute (field : Field) : String :=
  normalized (attributeName field)

/-- The attributes of an instance of a record are its own. -/
theorem attribute_field {path : ClassPath} {attributes : List (String × Value)} {value : Value}
    (plain : name.toList.head? ≠ some '_') (here : attributes.lookup name = some value)
    (isSet : value.isSet = true) :
    library.attribute (.record path attributes) name = .ok value := by
  have unfixed : library.fixedAttribute? (.record path attributes) name = none := by
    have differs {other : String} (hidden : other.toList.head? = some '_') : name ≠ other := by
      rintro rfl
      exact plain hidden
    have noClass : name ≠ "__class__" := differs rfl
    have noDict : name ≠ "__dict__" := differs rfl
    unfold fixedAttribute?
    split <;> first | rfl | contradiction
  have parts : partsOf (.record path attributes) = attributes := List.append_nil _
  refine attribute_of_instance rfl ?_
  rw [unfixed, parts, here]
  simp [Option.filter, isSet]

/-- The constructor of a holder takes a value for each field. -/
theorem constructRecord_all {path : ClassPath} {fields : List Field} {values : List Value}
    (plain : ∀ field ∈ fields, (shownAttribute field).toList.head? ≠ some '_')
    (length : values.length = fields.length) :
    constructRecord path fields values [] =
      .ok (.record path ((fields.map shownAttribute).zip values)) := by
  have kept : fields.map (fun field => keptName path.name (attributeName field)) =
      fields.map shownAttribute :=
    List.map_congr_left fun field member => mangled_of_plain (plain field member)
  have bound : bindArguments (fields.map shownAttribute) values [] =
      .ok (((fields.map shownAttribute).zip values).map fun pair => (pair.1, some pair.2)) := by
    have none : (fields.map shownAttribute).drop values.length = [] := by
      rw [length, List.drop_eq_nil_iff, List.length_map]
    have fits : ¬ (fields.map shownAttribute).length < values.length := by
      rw [length, List.length_map]
      exact Nat.lt_irrefl _
    simp only [bindArguments, decide_eq_false fits, List.any_nil, Bool.or_self, Bool.false_eq_true,
      if_false, none, List.map_nil, List.append_nil]
  have made : ((((fields.map shownAttribute).zip values).map fun pair => (pair.1, some pair.2)).map
      fun part => (part.1, part.2.getD .null)) = (fields.map shownAttribute).zip values := by
    rw [List.map_map]
    exact List.map_id' _
  rw [constructRecord, kept, bound, Outcome.ok_bind]
  refine (congrArg (makeRecord path) made).trans (makeRecord_of_plain fun part member => ?_)
  obtain ⟨field, listed, same⟩ := List.mem_map.mp (List.of_mem_zip member).1
  rw [← same]
  exact plain field listed

def parametersOf (entity : DataEnum) (v : Schema.Variant) : List String :=
  (Method.factory v).parameters.map (keptName entity.className)

def callFactory (library : Library) (entity : DataEnum) (v : Schema.Variant) (args : List Value)
    (named : List (String × Value)) : Except CodecError Value := do
  library.apply (← library.attribute (.type (.top entity.className)) (factoryName v)) args named

theorem Loaded.callFactory_eq (loaded : library.Loaded)
    (found : library.at? (.top entity.className) = some (.dataEnum entity))
    (distinct : ((methods entity).map Prod.fst).Nodup) (member : v ∈ entity.variants)
    {args : List Value} {named : List (String × Value)} :
    library.callFactory entity v args named = library.make entity v args named := by
  have here := method?_factory distinct member
  have own : library.ownMember? (.top entity.className) none (factoryName v) =
      some (.function (.top entity.className) (factoryName v)) := by
    rw [ownMember?, found]
    simp only [dataEnumMember?, here]
  have known : library.dataEnum? (ClassPath.top entity.className).qualifiedName = some entity := by
    show library.dataEnum? entity.className = some entity
    simp only [Library.dataEnum?, found]
  have got : library.attribute (.type (.top entity.className)) (factoryName v) =
      .ok (.function (.top entity.className) (factoryName v)) := by
    refine attribute_of_class ?_
    rw [loaded.classMember?_own own]
    rfl
  rw [callFactory, got, Outcome.ok_bind]
  simp only [apply, Value.content, callFunction, known, here, Option.bind_some, Option.map_some]

/-- A factory none of whose parameters hides the class makes an instance of its variant. -/
theorem Reaches.make (reaches : Reaches entity) {args values : List Value}
    {named : List (String × Value)} (free : entity.className ∉ parametersOf entity v)
    (distinct : (parametersOf entity v).Nodup)
    (supplies : Supplies (parametersOf entity v) args named values) :
    library.make entity v args named = library.makeVariant entity v values := by
  have own : keptName entity.className entity.className = entity.className :=
    beq_iff_eq.mp reaches.itself
  have absent : ((parametersOf entity v).zip values).lookup entity.className = none := by
    rw [List.lookup_eq_none_iff]
    intro pair member
    rw [bne_iff_ne]
    rintro same
    exact free (same ▸ (List.of_mem_zip member).1)
  have bound := bindAll_of_supplies distinct supplies
  rw [parametersOf] at bound absent
  simp only [Library.make, bound, Outcome.ok_bind, own, absent, reaches.itself, if_true]

/-- A factory one of whose parameters hides the class makes nothing of a value that is not the
class. -/
theorem make_hidden {args values : List Value} {named : List (String × Value)} {hidden made : Value}
    (distinct : (parametersOf entity v).Nodup)
    (supplies : Supplies (parametersOf entity v) args named values)
    (inPlace : ((parametersOf entity v).zip values).lookup
      (keptName entity.className entity.className) = some hidden)
    (other : hidden.isIdentical (.type (.top entity.className)) = false) :
    library.make entity v args named ≠ .ok made := by
  intro succeeds
  have bound := bindAll_of_supplies distinct supplies
  rw [parametersOf] at bound inPlace
  simp only [Library.make, bound, Outcome.ok_bind, inPlace, other, Bool.false_eq_true, if_false]
    at succeeds
  obtain ⟨discriminants, -, rest⟩ := Outcome.bind_ok.mp succeeds
  obtain ⟨⟨⟩, -, thrown⟩ := Outcome.bind_ok.mp rest
  cases thrown

/-- The number of a slot leaves the name of a parameter as it is. -/
theorem keptName_slot (className : String) (place : Nat) :
    keptName className ("arg" ++ toString place) = "arg" ++ toString place := by
  have digits : isAscii (toString place).toList = true := by
    refine List.all_eq_true.mpr fun c member => ?_
    have isDigit := List.all_eq_true.mp (all_isDigit_toString place) c member
    rw [Char.isDigit, Bool.and_eq_true, decide_eq_true_eq, decide_eq_true_eq] at isDigit
    have bounded : c.toNat ≤ '9'.toNat := UInt32.le_iff_toNat_le.mp isDigit.2
    exact decide_eq_true (bounded.trans_lt (by decide))
  have ascii : isAscii ("arg" ++ toString place).toList = true := by
    rw [String.toList_append]
    exact isAscii_append.mpr ⟨by decide, digits⟩
  rw [keptName, normalized_of_isAscii ascii]
  refine mangled_of_plain ?_
  rw [String.toList_append]
  exact fun same => absurd (Option.some.inj same) (by decide)

/-- The parameters of a factory are apart. -/
theorem Loaded.parameters_distinct (loaded : library.Loaded)
    (known : .dataEnum entity ∈ library.classes) (member : v ∈ entity.variants) :
    (parametersOf entity v).Nodup := by
  have readable := loaded.readable _ (dataEnum_mem_classes.mp known).1
  simp only [Render.Python.isReadable, Bool.and_eq_true, List.all_eq_true] at readable
  have ofVariant := readable.2 v member
  cases carries : v.payload with
  | unit =>
    simp only [parametersOf, Method.parameters, carries]
    exact .nil
  | tuple slots =>
    have kept : ((List.range slots.length).map fun place => "arg" ++ toString place).map
        (keptName entity.className) =
          (List.range slots.length).map fun place => "arg" ++ toString place := by
      simp only [List.map_map, Function.comp_def, keptName_slot]
    simp only [parametersOf, Method.parameters, carries]
    rw [kept]
    refine List.nodup_range.map fun place other same => toString_injective ?_
    exact (String.append_right_inj "arg").mp same
  | object fields =>
    simp only [parametersOf, Method.parameters, carries]
    simp only [Render.Python.isReadableVariant, Render.Python.areParameters, carries,
      Bool.and_eq_true, Option.isNone_iff_eq_none] at ofVariant
    exact (firstRepeated?_eq_none.mp ofVariant.2.2.2).1

theorem parametersOf_object {fields : List Field} (carries : v.payload = .object fields)
    (plain : ∀ field ∈ fields, (shownAttribute field).toList.head? ≠ some '_') :
    parametersOf entity v = fields.map shownAttribute := by
  simp only [parametersOf, Method.parameters, carries, List.map_map]
  refine List.map_congr_left fun field member => ?_
  rw [Function.comp_apply, keptName, ← shownAttribute, mangled_of_plain (plain field member)]

/-- No field of a variant begins with an underscore. -/
def FieldsPlain (v : Schema.Variant) : Prop :=
  ∀ fields, v.payload = .object fields →
    ∀ field ∈ fields, (shownAttribute field).toList.head? ≠ some '_'

/-- What an instance of a variant holds. -/
def payloadOf (entity : DataEnum) (v : Schema.Variant) (values : List Value) : Value :=
  match v.payload with
  | .unit => .null
  | .tuple _ => .tuple values
  | .object fields => .record (Class.holderPath entity v) ((fields.map shownAttribute).zip values)

theorem payloadOf_isSet (entity : DataEnum) (v : Schema.Variant) (values : List Value) :
    (payloadOf entity v values).isSet = true := by
  unfold payloadOf
  split <;> rfl

theorem Loaded.makeVariant_eq (loaded : library.Loaded)
    (known : .dataEnum entity ∈ library.classes) (clear : Clear entity)
    (member : v ∈ entity.variants) (plain : FieldsPlain v) {values : List Value}
    (length : values.length = (parametersOf entity v).length) :
    library.makeVariant entity v values =
      .ok (.choice entity.className (declaredDiscriminant entity v)
        (payloadOf entity v values)) := by
  rw [makeVariant, clear.discriminant member, Outcome.ok_bind, loaded.provider]
  unfold payloadOf
  cases carries : v.payload with
  | unit => rfl
  | tuple slots => rfl
  | object fields =>
    have inside : .record (Class.holderPath entity v) v.name.pascal fields ∈
        Class.nestedIn entity :=
      List.mem_cons_of_mem _ (List.mem_filterMap.mpr
        ⟨v, List.mem_reverse.mpr member, by rw [Class.holder?, carries]⟩)
    have found : library.at? (Class.holderPath entity v) =
        some (.record (Class.holderPath entity v) v.name.pascal fields) :=
      loaded.at?_nested known clear inside
    rw [parametersOf_object carries (plain fields carries), List.length_map] at length
    have made : library.construct (Class.holderPath entity v) values [] =
        .ok (.record (Class.holderPath entity v) ((fields.map shownAttribute).zip values)) := by
      simp only [construct, loaded.changed?, found]
      exact constructRecord_all (plain fields carries) length
    simp only [made]
    rfl

/-- What the accessors of a variant give for the values that its factory was called with: the
payload is the only value, or an item for each value in their order, or a holder that has the values
as its attributes. -/
def Answers (library : Library) (value : Value) (v : Schema.Variant) (values : List Value) : Prop :=
  match v.payload with
  | .unit => values = []
  | .object fields => ∃ holder, library.call value (getterName v) [] = .ok holder ∧
      List.Forall₂ (fun field part => library.attribute holder (shownAttribute field) = .ok part)
        fields values
  | .tuple [_] => ∃ part, values = [part] ∧ library.call value (getterName v) [] = .ok part
  | .tuple slots => values.length = slots.length ∧
      ∀ (place : Nat) (part : Value), values[place]? = some part →
        library.call value (getterName v ++ toString place) [] = .ok part

theorem Loaded.answers (loaded : library.Loaded) (known : .dataEnum entity ∈ library.classes)
    (reaches : Reaches entity) (member : v ∈ entity.variants) (plain : FieldsPlain v)
    {values : List Value} (length : values.length = (parametersOf entity v).length)
    (set : ∀ value ∈ values, value.isSet = true) :
    library.Answers
      (.choice entity.className (declaredDiscriminant entity v) (payloadOf entity v values)) v
      values := by
  have found := loaded.at?_top known rfl
  have distinct := loaded.parameters_distinct known member
  have isSet := payloadOf_isSet entity v values
  unfold Answers
  split
  case h_1 carries =>
    refine List.eq_nil_of_length_eq_zero (length.trans ?_)
    simp only [parametersOf, Method.parameters, carries, List.map_nil, List.length_nil]
  case h_2 fields carries =>
    have inside : (getterName v, .accessor v none) ∈ variantMethods v := by
      simp [variantMethods, carries, getterName]
    have names : parametersOf entity v = _ := parametersOf_object carries (plain fields carries)
    rw [names] at length distinct
    refine ⟨_, loaded.call_own found reaches member inside isSet, ?_⟩
    have keys : ((fields.map shownAttribute).zip values).map Prod.fst = fields.map shownAttribute :=
      List.map_fst_zip (Nat.le_of_eq length.symm)
    have apart : (((fields.map shownAttribute).zip values).map Prod.fst).Nodup := by
      rw [keys]
      exact distinct
    rw [List.forall₂_iff_zip]
    refine ⟨by rw [length, List.length_map], fun {field part} paired => ?_⟩
    have listed : (shownAttribute field, part) ∈ (fields.map shownAttribute).zip values := by
      rw [List.zip_map_left]
      exact List.mem_map.mpr ⟨_, paired, rfl⟩
    obtain ⟨fieldListed, partListed⟩ := List.of_mem_zip paired
    simp only [payloadOf, carries]
    exact attribute_field (plain fields carries field fieldListed)
      (Search.lookup_of_mem apart listed) (set part partListed)
  case h_3 slot carries =>
    have inside : (getterName v, .accessor v (some 0)) ∈ variantMethods v := by
      simp [variantMethods, carries, getterName]
    simp only [parametersOf, Method.parameters, carries] at length
    obtain ⟨part, rfl⟩ := List.length_eq_one_iff.mp length
    refine ⟨part, rfl, (loaded.call_own found reaches member inside isSet).trans ?_⟩
    simp only [payloadOf, carries]
    rfl
  case h_4 slots several carries =>
    simp only [parametersOf, Method.parameters, carries, List.length_map,
      List.length_range] at length
    refine ⟨length, fun place part here => ?_⟩
    have bounded : place < slots.length := length ▸ (List.getElem?_eq_some_iff.mp here).1
    have inside : (getterName v ++ toString place, .accessor v (some place)) ∈
        variantMethods v := by
      simp [variantMethods, carries, getterName, bounded]
    refine (loaded.call_own found reaches member inside isSet).trans ?_
    simp only [payloadOf, carries, Option.elim_some, slot, Value.content, here]

/-- An instance is a value of one variant, made of some values, and of no other one. -/
structure Downcasts (library : Library) (entity : DataEnum) (v : Schema.Variant)
    (values : List Value) (value : Value) : Prop where
  discriminant : library.attribute value "variant" = .ok (declaredDiscriminant entity v)
  tests {w : Schema.Variant} : w ∈ entity.variants → ∃ answer,
    library.call value (testName w) [] = .ok (.bool answer) ∧ (answer = true ↔ v = w)
  own : library.Answers value v values
  others {w : Schema.Variant} {name : String} {slot : Option Nat} : w ∈ entity.variants → v ≠ w →
    (name, .accessor w slot) ∈ variantMethods w →
    library.call value name [] = .error (.invalidVariant (normalized v.name.upperSnake))

theorem Loaded.downcasts (loaded : library.Loaded) (known : .dataEnum entity ∈ library.classes)
    (reaches : Reaches entity) (member : v ∈ entity.variants) (plain : FieldsPlain v)
    {values : List Value} (length : values.length = (parametersOf entity v).length)
    (set : ∀ value ∈ values, value.isSet = true) :
    Downcasts library entity v values
      (.choice entity.className (declaredDiscriminant entity v) (payloadOf entity v values)) where
  discriminant := loaded.attribute_property rfl entity.className
  tests := loaded.call_test (loaded.at?_top known rfl) reaches member
  own := loaded.answers known reaches member plain length set
  others := fun other differ inside =>
    loaded.call_other (loaded.at?_top known rfl) reaches member other differ inside

end Instances

/-- What a factory was called with is got back by the accessors of its variant and by no other one,
if no names clash within the data enum and no parameter of the factory hides the class. -/
theorem make_downcasts {package : String} {model : Model} {types : List HostType}
    {before after : Memory} {library : Library}
    (loads : (Library.ofTypes package model types).run.run before = (.ok library, after))
    {entity : DataEnum} (known : .dataEnum entity ∈ library.classes) (clear : Clear entity)
    (distinct : ((methods entity).map Prod.fst).Nodup)
    (plain : entity.className.toList.head? ≠ some '_') {v : Schema.Variant}
    (member : v ∈ entity.variants) (fieldsPlain : FieldsPlain v)
    (free : entity.className ∉ parametersOf entity v) {args values : List Value}
    {named : List (String × Value)} (supplies : Supplies (parametersOf entity v) args named values)
    (set : ∀ value ∈ values, value.isSet = true) :
    ∃ value, library.callFactory entity v args named = .ok value ∧
      Downcasts library entity v values value := by
  have loaded := (Library.ofTypes_ok loads).1
  have reaches : Reaches entity :=
    ⟨clear, distinct, (dataEnum_mem_classes.mp known).2, plain⟩
  refine ⟨_, ?_, loaded.downcasts known reaches member fieldsPlain supplies.length set⟩
  rw [loaded.callFactory_eq (loaded.at?_top known rfl) distinct member,
    reaches.make free (loaded.parameters_distinct known member) supplies]
  exact loaded.makeVariant_eq known clear member fieldsPlain supplies.length

def pairVariant : Schema.Variant :=
  ⟨.ofPascal "Pair", "pair", .tuple [.named "int", .named "Shape"]⟩

theorem make_downcasts_pair :
    Clear shapeEnum ∧ ((methods shapeEnum).map Prod.fst).Nodup ∧
      Supplies (parametersOf shapeEnum pairVariant) [.int 1] [("arg1", framedShape)]
        [.int 1, framedShape] ∧
      ∃ value, drawingLibrary.callFactory shapeEnum pairVariant [.int 1] [("arg1", framedShape)] =
        .ok value ∧ Downcasts drawingLibrary shapeEnum pairVariant [.int 1, framedShape] value := by
  have inside : Entity.dataEnum shapeEnum ∈ drawingLibrary.entities := by
    simp [drawingLibrary]
  have known : .dataEnum shapeEnum ∈ drawingLibrary.classes := by
    simp [drawingLibrary_classes]
  have clear := drawingLibrary_clear shapeEnum inside
  have distinct := drawingLibrary_methods shapeEnum inside
  have parameters : parametersOf shapeEnum pairVariant = ["arg0", "arg1"] := by decide
  have supplies : Supplies (parametersOf shapeEnum pairVariant) [.int 1] [("arg1", framedShape)]
      [.int 1, framedShape] := by
    rw [parameters]
    exact ⟨rfl, ⟨[framedShape], rfl⟩, .refl _⟩
  have free : shapeEnum.className ∉ parametersOf shapeEnum pairVariant := by
    rw [parameters]
    decide
  have member : pairVariant ∈ shapeEnum.variants := by simp [shapeEnum, pairVariant]
  have set : ∀ value ∈ [Value.int 1, framedShape], value.isSet = true := by
    rintro value (_ | ⟨_, _ | ⟨_, listed⟩⟩)
    · rfl
    · rfl
    · cases listed
  have noHolder : ∀ fields, pairVariant.payload ≠ .object fields := by rintro fields ⟨⟩
  exact ⟨clear, distinct, supplies,
    make_downcasts drawingRun_succeeds known clear distinct (by decide) member
      (fun fields carries => absurd carries (noHolder fields)) free supplies set⟩

def argumentRef : ClassRef :=
  sampleRef 0 "arg0" .dataEnum

/-- A data enum of one variant, which is called like the parameter of its factory. -/
def argumentModel : Model where
  classes := [sampleClass argumentRef [] [] [⟨"A", .tuple [.primitive .int], none⟩]]
  bindings := [⟨"models", "arg0", argumentRef⟩]
  typeVariables := []

def argumentVariant : Schema.Variant :=
  ⟨.ofPascal "A", "A", .tuple [.named "int"]⟩

def argumentEnum : DataEnum :=
  ⟨.ofPascal "arg0", "arg0", .external, [argumentVariant]⟩

def argumentLibrary : Library where
  package := "sample"
  entities := [.dataEnum argumentEnum]

def argumentRun : Except Failure Library × Memory :=
  (Library.ofTypes "sample" argumentModel [.declared argumentRef]).run.run .empty

theorem argumentRun_succeeds : argumentRun = (.ok argumentLibrary, argumentRun.2) := by
  refine made_of_parts rfl ?_
  rw [argumentRun, Library.ofTypes, Schema.ofTypes_eq_paired (by decide +kernel)]
  decide +kernel

/-- That no field is called like the class is not enough: the parameters of the slots of a tuple
have names too, and one of them may hide the class. -/
theorem not_downcasts_hidden_class :
    ¬ ∀ (package : String) (model : Model) (types : List HostType) (before after : Memory)
      (library : Library),
      (Library.ofTypes package model types).run.run before = (.ok library, after) →
      ∀ entity, .dataEnum entity ∈ library.classes → Clear entity →
        ((methods entity).map Prod.fst).Nodup → entity.className.toList.head? ≠ some '_' →
        (∀ v ∈ entity.variants, FieldsPlain v) →
        (∀ v ∈ entity.variants, ∀ fields, v.payload = .object fields →
          entity.className ∉ fields.map shownAttribute) →
        ∀ v ∈ entity.variants, ∀ args named values,
          Supplies (parametersOf entity v) args named values →
          (∀ value ∈ values, value.isSet = true) →
          ∃ value, library.callFactory entity v args named = .ok value ∧
            Downcasts library entity v values value := by
  intro claimed
  have known : .dataEnum argumentEnum ∈ argumentLibrary.classes := List.mem_cons_self ..
  have clear : Clear argumentEnum := by constructor <;> decide +kernel
  have distinct : ((methods argumentEnum).map Prod.fst).Nodup := by decide +kernel
  have noFields {v : Schema.Variant} (member : v ∈ argumentEnum.variants) (fields : List Field) :
      v.payload ≠ .object fields := by
    obtain rfl := List.mem_singleton.mp member
    exact nofun
  have parameters : parametersOf argumentEnum argumentVariant = ["arg0"] := by decide
  have supplies : Supplies (parametersOf argumentEnum argumentVariant) [.int 1] [] [.int 1] := by
    rw [parameters]
    exact ⟨rfl, List.prefix_rfl, .refl _⟩
  have member : argumentVariant ∈ argumentEnum.variants := List.mem_singleton_self _
  obtain ⟨value, made, -⟩ := claimed _ _ _ _ _ _ argumentRun_succeeds argumentEnum known clear
    distinct (by decide) (fun v member fields carries => absurd carries (noFields member fields))
    (fun v member fields carries => absurd carries (noFields member fields)) argumentVariant
    member [.int 1] [] [.int 1] supplies (by simp [Value.isSet])
  have loaded := (Library.ofTypes_ok argumentRun_succeeds).1
  rw [loaded.callFactory_eq (loaded.at?_top known rfl) distinct member] at made
  have own : keptName argumentEnum.className argumentEnum.className = "arg0" := by decide
  have inPlace : ((parametersOf argumentEnum argumentVariant).zip [Value.int 1]).lookup
      (keptName argumentEnum.className argumentEnum.className) = some (.int 1) := by
    rw [parameters, own]
    rfl
  exact make_hidden (loaded.parameters_distinct known member) supplies inPlace rfl made

end Library

end Codec

end WireModel
