import WireModel.Codec.Encoding
import WireModel.Proofs.Codec.Typing
import WireModel.Proofs.Naming

/-!
The members of the class of a data enum: its discriminants, its methods and the classes in it. The
names of methods are made of a word, the name of a variant and perhaps the number of a slot, and
they tell all of these unless a number makes one name of two.
-/

namespace WireModel

open Text

def isPlainName (name : String) : Bool :=
  isAscii name.toList && beginsPlain name.toList

def isNumbered (base name : String) : Bool :=
  base.toList.isPrefixOf name.toList && base.toList.length < name.toList.length &&
    (name.toList.drop base.toList.length).all Char.isDigit

namespace Codec

open Schema
open Render.Python (attributeName keptName)

/-- No attribute hides the encoder, which is called on instances. -/
def AttributesApart (fields : List Field) : Prop :=
  ∀ field ∈ fields, normalized (attributeName field) ≠ encoderName

/-- The members of the class of a data enum are apart: each variant has a discriminant of its own,
and no method or nested class takes the name of another one. -/
structure DataEnumApart (entity : DataEnum) : Prop where
  constants : ((Constants.ofVariants entity).entries.map Prod.fst).Nodup
  pascals : ((Constants.ofVariants entity).entries.map Prod.snd).Nodup
  kept : ∀ entry ∈ (Constants.ofVariants entity).entries,
    (Constants.ofVariants entity).isConstant entry.1 = true
  members : ((methods entity).map Prod.fst ++
    (Class.nestedIn entity).map fun type => type.path.name).Nodup
  attributes : ∀ v ∈ entity.variants, ∀ fields, v.payload = .object fields → AttributesApart fields

theorem isAscii_of_isPlainName {name : String} (plain : isPlainName name = true) :
    isAscii name.toList = true :=
  (Bool.and_eq_true_iff.mp plain).1

theorem head?_of_beginsPlain {text : List Char} (plain : beginsPlain text = true) :
    text.head? ≠ some '_' :=
  bne_iff_ne.mp plain

/-- A name in upper snake case is kept as it is. -/
theorem keptName_upperSnake {name : Name} (ascii : isAscii name.snake.toList = true)
    (plain : beginsPlain name.snake.toList = true) (className : String) :
    keptName className name.upperSnake = name.upperSnake := by
  rw [keptName, normalized_of_isAscii (Name.isAscii_upperSnake ascii)]
  exact mangled_of_plain (head?_of_beginsPlain (Name.upperSnake_beginsPlain ascii plain))

/-- The slots of a payload are told by numbers. -/
def isSlotted : Schema.Payload → Bool
  | .tuple slots => slots.length != 1
  | _ => false

/-- The words in front of the names of methods. -/
def methodWords : List String :=
  ["of_", "get_", "is_"]

/-- What the names of the accessors of a payload end with: nothing, or the number of a slot. -/
def accessorNumbers : Schema.Payload → List String
  | .unit => []
  | .object _ => [""]
  | .tuple [_] => [""]
  | .tuple slots => (List.range slots.length).map toString

/-- What the names of the methods of a variant have around the name of the variant: a word in front,
and perhaps the number of a slot behind. -/
def methodParts (v : Schema.Variant) : List (String × String) :=
  ("of_", "") :: (accessorNumbers v.payload).map (Prod.mk "get_") ++ [("is_", "")]

def methodName (v : Schema.Variant) (part : String × String) : String :=
  part.1 ++ v.name.snake ++ part.2

theorem normalized_word {v : Schema.Variant} (ascii : isAscii v.name.snake.toList = true)
    {word : String} (member : word ∈ methodWords) :
    normalized (word ++ v.name.snake) = word ++ v.name.snake := by
  refine normalized_of_isAscii ?_
  rw [String.toList_append]
  have wordAscii : ∀ word ∈ methodWords, isAscii word.toList = true := by decide
  exact isAscii_append.mpr ⟨wordAscii word member, ascii⟩

theorem methodNames {v : Schema.Variant} (ascii : isAscii v.name.snake.toList = true) :
    (variantMethods v).map Prod.fst = (methodParts v).map (methodName v) := by
  have unnumbered (word : String) : methodName v (word, "") = word ++ v.name.snake :=
    String.append_empty
  simp only [variantMethods, methodParts, factoryName, List.map_cons, List.map_append, List.map_nil,
    List.cons_append, normalized_word ascii (show "of_" ∈ methodWords by decide),
    normalized_word ascii (show "get_" ∈ methodWords by decide),
    normalized_word ascii (show "is_" ∈ methodWords by decide), unnumbered]
  congr 2
  cases v.payload with
  | unit => rfl
  | object fields => simp [accessorNumbers, unnumbered]
  | tuple slots =>
    rcases slots with _ | ⟨slot, _ | ⟨other, rest⟩⟩
    · rfl
    · simp [accessorNumbers, unnumbered]
    · simp only [accessorNumbers, List.map_map]
      rfl

/-- What is around the name of a variant tells what the variant carries. -/
structure MethodPart (v : Schema.Variant) (part : String × String) : Prop where
  known : part.1 ∈ methodWords
  number : part.2.toList.all Char.isDigit = true
  slotted : part.2.toList ≠ [] → part.1 = "get_" ∧ isSlotted v.payload = true
  carried : part.1 = "get_" → v.payload ≠ .unit

theorem all_isDigit_toString (number : Nat) : (toString number).toList.all Char.isDigit = true := by
  rw [List.all_eq_true]
  intro c member
  rw [Nat.toString_eq_repr, Nat.repr, String.toList_ofList] at member
  exact Nat.isDigit_of_mem_toDigits (by decide) (by decide) member

theorem methodPart_of_mem {v : Schema.Variant} {part : String × String}
    (member : part ∈ methodParts v) : MethodPart v part := by
  have unnumbered {word : String} (inside : word ∈ methodWords)
      (carried : word = "get_" → v.payload ≠ .unit) : MethodPart v (word, "") :=
    ⟨inside, rfl, fun absent => absurd rfl absent, carried⟩
  rcases List.mem_cons.mp member with rfl | others
  · exact unnumbered (by decide) fun same => absurd same (by decide)
  rcases List.mem_append.mp others with accessor | test
  · obtain ⟨number, listed, rfl⟩ := List.mem_map.mp accessor
    have inside : "get_" ∈ methodWords := by decide
    unfold accessorNumbers at listed
    split at listed
    · cases listed
    · rename_i fields carries
      cases List.mem_singleton.mp listed
      exact unnumbered inside fun _ => by simp [carries]
    · rename_i slot carries
      cases List.mem_singleton.mp listed
      exact unnumbered inside fun _ => by simp [carries]
    · rename_i slots several carries
      obtain ⟨place, -, rfl⟩ := List.mem_map.mp listed
      refine ⟨inside, all_isDigit_toString place, fun _ => ⟨rfl, ?_⟩, fun _ => by simp [carries]⟩
      rw [carries, isSlotted, bne_iff_ne]
      intro single
      obtain ⟨slot, rfl⟩ := List.length_eq_one_iff.mp single
      exact several slot rfl
  · cases List.mem_singleton.mp test
    exact unnumbered (by decide) fun same => absurd same (by decide)

theorem toString_injective : Function.Injective (toString : Nat → String) := by
  intro number other same
  simp only [Nat.toString_eq_repr, Nat.repr] at same
  rw [← Nat.ofDigitChars_ten_toDigits (n := number), String.ofList_injective same,
    Nat.ofDigitChars_ten_toDigits]

theorem accessorNumbers_nodup (payload : Schema.Payload) : (accessorNumbers payload).Nodup := by
  unfold accessorNumbers
  split
  · exact .nil
  · exact List.nodup_singleton _
  · exact List.nodup_singleton _
  · exact List.nodup_range.map toString_injective

theorem methodParts_nodup (v : Schema.Variant) : (methodParts v).Nodup := by
  have accessors : ((accessorNumbers v.payload).map (Prod.mk "get_")).Nodup :=
    (accessorNumbers_nodup v.payload).map fun _ _ same => congrArg Prod.snd same
  simp [methodParts, List.nodup_append, accessors]

/-- The name is another one with digits behind if it is spelled so. -/
theorem isNumbered_of_append {base name : String} {digits : List Char}
    (spelled : name.toList = base.toList ++ digits) (some : digits ≠ [])
    (number : digits.all Char.isDigit = true) : isNumbered base name = true := by
  have longer := List.length_pos_iff.mpr some
  simp only [isNumbered, spelled, List.drop_left, List.length_append, number, Bool.and_true,
    Bool.and_eq_true, decide_eq_true_eq]
  exact ⟨List.isPrefixOf_iff_prefix.mpr (List.prefix_append ..), by omega⟩

/-- Of two names with numbers behind that are spelled alike, the first one is not the shorter. -/
theorem extra_eq_nil {v w : Schema.Variant} {part other : String × String} {extra : List Char}
    (first : MethodPart v part) (second : MethodPart w other) (word : part.1 = other.1)
    (unnumbered : isSlotted v.payload = true → w.payload ≠ .unit →
      isNumbered v.name.snake w.name.snake = false)
    (longer : w.name.snake.toList = v.name.snake.toList ++ extra)
    (ending : part.2.toList = extra ++ other.2.toList) : extra = [] := by
  by_contra some
  obtain ⟨getter, slotted⟩ := first.slotted (by simp [ending, some])
  have carried := second.carried (word ▸ getter)
  have number := first.number
  rw [ending, List.all_append, Bool.and_eq_true] at number
  have numbered := isNumbered_of_append longer some number.1
  rw [unnumbered slotted carried] at numbered
  cases numbered

/-- The words in front of names are told apart by their first letters. -/
theorem word_eq {word other : String} {rest others : List Char} (known : word ∈ methodWords)
    (otherKnown : other ∈ methodWords) (same : word.toList ++ rest = other.toList ++ others) :
    word = other := by
  have told : ∀ word ∈ methodWords, ∀ other ∈ methodWords,
      word.toList.head? = other.toList.head? → word = other := by decide
  have some : ∀ word ∈ methodWords, word.toList ≠ [] := by decide
  have heads := congrArg List.head? same
  rw [List.head?_append_of_ne_nil _ (some word known),
    List.head?_append_of_ne_nil _ (some other otherKnown)] at heads
  exact told word known other otherKnown heads

/-- The name of a method tells what it is made of, if no number makes one name of two. -/
theorem methodName_inj {v w : Schema.Variant} {part other : String × String}
    (first : MethodPart v part) (second : MethodPart w other)
    (unnumbered : isSlotted v.payload = true → w.payload ≠ .unit →
      isNumbered v.name.snake w.name.snake = false)
    (otherUnnumbered : isSlotted w.payload = true → v.payload ≠ .unit →
      isNumbered w.name.snake v.name.snake = false)
    (same : methodName v part = methodName w other) : v.name = w.name ∧ part = other := by
  have spelled := congrArg String.toList same
  simp only [methodName, String.toList_append, List.append_assoc] at spelled
  have word := word_eq first.known second.known spelled
  rw [word, List.append_cancel_left_eq] at spelled
  -- One variant is named like the other with more behind, which can only be digits of a number.
  rcases List.append_eq_append_iff.mp spelled with ⟨extra, longer, ending⟩ | ⟨extra, longer, ending⟩
  · obtain rfl := extra_eq_nil first second word unnumbered longer ending
    rw [List.append_nil] at longer
    exact ⟨congrArg Name.mk (String.toList_inj.mp longer.symm),
      Prod.ext word (String.toList_inj.mp ending)⟩
  · obtain rfl := extra_eq_nil second first word.symm otherUnnumbered longer ending
    rw [List.append_nil] at longer
    exact ⟨congrArg Name.mk (String.toList_inj.mp longer),
      Prod.ext word (String.toList_inj.mp ending.symm)⟩

/-- What names of variants become in a data enum that describes them. -/
structure VariantsDescribed (variants : List Schema.Variant) : Prop where
  spelled : ∀ v ∈ variants, ∃ text, isPlainName text = true ∧ v.name = .ofPascal text
  pascals : (variants.map fun v => v.name.pascal).Nodup
  unnumbered : ∀ v ∈ variants, ∀ w ∈ variants, isSlotted v.payload = true → w.payload ≠ .unit →
    isNumbered v.name.snake w.name.snake = false

variable {entity : DataEnum}

namespace VariantsDescribed

theorem snake_ascii {variants : List Schema.Variant} (described : VariantsDescribed variants)
    {v : Schema.Variant} (member : v ∈ variants) : isAscii v.name.snake.toList = true := by
  obtain ⟨text, plain, named⟩ := described.spelled v member
  rw [named]
  exact Name.isAscii_snake (isAscii_of_isPlainName plain)

theorem snake_plain {variants : List Schema.Variant} (described : VariantsDescribed variants)
    {v : Schema.Variant} (member : v ∈ variants) : beginsPlain v.name.snake.toList = true := by
  obtain ⟨text, plain, named⟩ := described.spelled v member
  obtain ⟨ascii, begins⟩ := Bool.and_eq_true_iff.mp plain
  rw [named]
  exact Name.snake_beginsPlain ascii begins

theorem normalized_pascal {variants : List Schema.Variant} (described : VariantsDescribed variants)
    {v : Schema.Variant} (member : v ∈ variants) : normalized v.name.pascal = v.name.pascal := by
  obtain ⟨text, plain, named⟩ := described.spelled v member
  rw [named]
  exact normalized_of_isAscii (Name.isAscii_pascal (isAscii_of_isPlainName plain))

theorem methods_nodup (described : VariantsDescribed entity.variants) :
    ((methods entity).map Prod.fst).Nodup := by
  rw [methods, List.map_flatMap, List.nodup_flatMap]
  constructor
  · intro v member
    rw [methodNames (described.snake_ascii member)]
    refine (methodParts_nodup v).map_on fun part listed other otherListed same => ?_
    have unnumbered := described.unnumbered v member v member
    exact (methodName_inj (methodPart_of_mem listed) (methodPart_of_mem otherListed) unnumbered
      unnumbered same).2
  · refine (List.pairwise_map.mp described.pascals).imp_of_mem fun {v w} member inside differ => ?_
    show List.Disjoint ((variantMethods v).map Prod.fst) ((variantMethods w).map Prod.fst)
    rw [List.disjoint_left, methodNames (described.snake_ascii member),
      methodNames (described.snake_ascii inside)]
    intro name first second
    obtain ⟨part, listed, rfl⟩ := List.mem_map.mp first
    obtain ⟨other, otherListed, same⟩ := List.mem_map.mp second
    have named := (methodName_inj (methodPart_of_mem listed) (methodPart_of_mem otherListed)
      (described.unnumbered v member w inside) (described.unnumbered w inside v member) same.symm).1
    exact differ (congrArg Name.pascal named)

theorem entries (described : VariantsDescribed entity.variants) :
    (Constants.ofVariants entity).entries =
      entity.variants.map fun v => (v.name.upperSnake, v.name.pascal) :=
  List.map_congr_left fun v member => congrArg (·, v.name.pascal)
    (keptName_upperSnake (described.snake_ascii member) (described.snake_plain member) _)

theorem constants_nodup (described : VariantsDescribed entity.variants) :
    ((Constants.ofVariants entity).entries.map Prod.fst).Nodup := by
  rw [described.entries, List.map_map, List.Nodup, List.pairwise_map]
  refine (List.pairwise_map.mp described.pascals).imp_of_mem fun {v w} member inside differ => ?_
  obtain ⟨text, plain, named⟩ := described.spelled v member
  obtain ⟨other, otherPlain, otherNamed⟩ := described.spelled w inside
  intro same
  apply differ
  simp only [Function.comp_apply, named, otherNamed] at same ⊢
  exact congrArg Name.pascal
    (Name.eq_of_upperSnake (isAscii_of_isPlainName plain) (isAscii_of_isPlainName otherPlain) same)

theorem isConstant (described : VariantsDescribed entity.variants) {entry : String × String}
    (listed : entry ∈ (Constants.ofVariants entity).entries) :
    (Constants.ofVariants entity).isConstant entry.1 = true := by
  rw [described.entries] at listed
  obtain ⟨v, member, rfl⟩ := List.mem_map.mp listed
  have plain := head?_of_beginsPlain
    (Name.upperSnake_beginsPlain (described.snake_ascii member) (described.snake_plain member))
  simp [Constants.isConstant, isPrivateOf_of_plain plain,
    isDunder_of_shown (isHidden_of_plain plain)]

end VariantsDescribed

def holderName? (v : Schema.Variant) : Option String :=
  match v.payload with
  | .object _ => some v.name.pascal
  | _ => none

theorem holderName?_eq_some {v : Schema.Variant} {name : String} :
    holderName? v = some name ↔ (∃ fields, v.payload = .object fields) ∧ v.name.pascal = name := by
  cases carries : v.payload <;> simp [holderName?, carries]

theorem nestedNames (described : VariantsDescribed entity.variants) :
    ((Class.nestedIn entity).map fun type => type.path.name) =
      Constants.discriminantClass :: entity.variants.reverse.filterMap holderName? := by
  rw [Class.nestedIn, List.map_cons, List.map_filterMap]
  congr 1
  refine List.filterMap_congr fun v member => ?_
  have same := described.normalized_pascal (List.mem_reverse.mp member)
  cases carries : v.payload with
  | unit | tuple slots => simp only [Class.holder?, holderName?, carries, Option.map_none]
  | object fields =>
    simp only [Class.holder?, holderName?, carries, Option.map_some, Class.path, Class.holderPath,
      ClassPath.name, same]

/-- No holder class takes the name of the class of the discriminants. -/
theorem discriminantClass_not_holder (checked : entity.check Render.Python.reservedNames = .ok ())
    {v : Schema.Variant} (member : v ∈ entity.variants) :
    holderName? v ≠ some Constants.discriminantClass := by
  intro holds
  unfold DataEnum.check at checked
  split at checked
  · cases checked
  split at checked
  · cases checked
  rename_i absent
  have inside : Constants.discriminantClass ∈ entity.holders :=
    List.mem_filterMap.mpr ⟨v, member, holds⟩
  have reserved := List.find?_eq_none.mp absent _ inside
  exact reserved (by simp [Render.Python.reservedNames, Constants.discriminantClass])

theorem nested_nodup (described : VariantsDescribed entity.variants)
    (checked : entity.check Render.Python.reservedNames = .ok ()) :
    ((Class.nestedIn entity).map fun type => type.path.name).Nodup := by
  rw [nestedNames described, List.nodup_cons]
  constructor
  · intro inside
    obtain ⟨v, member, holds⟩ := List.mem_filterMap.mp inside
    exact discriminantClass_not_holder checked (List.mem_reverse.mp member) holds
  · have reversed : entity.variants.reverse.Pairwise fun v w => v.name.pascal ≠ w.name.pascal :=
      List.pairwise_reverse.mpr ((List.pairwise_map.mp described.pascals).imp Ne.symm)
    refine reversed.filterMap _ fun v w differ name holds other otherHolds => ?_
    rw [← (holderName?_eq_some.mp holds).2, ← (holderName?_eq_some.mp otherHolds).2]
    exact differ

/-- Methods begin with lower-case letters, and nested classes do not. -/
theorem members_nodup (described : VariantsDescribed entity.variants)
    (checked : entity.check Render.Python.reservedNames = .ok ()) :
    ((methods entity).map Prod.fst ++
      (Class.nestedIn entity).map fun type => type.path.name).Nodup := by
  refine described.methods_nodup.append (nested_nodup described checked) ?_
  rw [List.disjoint_left]
  intro name method nested
  obtain ⟨first, begins, isLower⟩ : ∃ c, name.toList.head? = some c ∧ c.isLower = true := by
    rw [methods, List.map_flatMap] at method
    obtain ⟨v, member, listed⟩ := List.mem_flatMap.mp method
    rw [methodNames (described.snake_ascii member)] at listed
    obtain ⟨part, inside, rfl⟩ := List.mem_map.mp listed
    have known := (methodPart_of_mem inside).known
    have lowered : ∀ word ∈ methodWords, ∃ c, word.toList.head? = some c ∧ c.isLower = true := by
      simp [methodWords]
    obtain ⟨c, begins, isLower⟩ := lowered _ known
    refine ⟨c, ?_, isLower⟩
    simp [methodName, String.toList_append, begins]
  rw [nestedNames described] at nested
  rcases List.mem_cons.mp nested with rfl | holder
  · cases begins
    cases isLower
  · obtain ⟨v, member, holds⟩ := List.mem_filterMap.mp holder
    obtain ⟨text, plain, named⟩ := described.spelled v (List.mem_reverse.mp member)
    obtain ⟨-, rfl⟩ := holderName?_eq_some.mp holds
    rw [named] at begins
    rw [Name.pascal_head (isAscii_of_isPlainName plain) begins] at isLower
    cases isLower

theorem dataEnumApart_of_described (described : VariantsDescribed entity.variants)
    (checked : entity.check Render.Python.reservedNames = .ok ())
    (attributes : ∀ v ∈ entity.variants, ∀ fields, v.payload = .object fields →
      AttributesApart fields) : DataEnumApart entity where
  constants := described.constants_nodup
  pascals := by
    rw [described.entries, List.map_map]
    exact described.pascals
  kept := fun _ => described.isConstant
  members := members_nodup described checked
  attributes := attributes

end Codec
end WireModel
