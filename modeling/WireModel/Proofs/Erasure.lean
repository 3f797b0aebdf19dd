import WireModel.Proofs.Identity
import WireModel.Proofs.Naming
import WireModel.Proofs.Render.JavaMembers

/-!
Type expressions tell types apart. What a type expression says of a type is its erasure:
annotations, optional types and boxes are gone, and a primitive or a class is only the word that the
target has for it. Two types have one type expression exactly if their erasures are one, since the
text of a type expression can be read in one way.
-/

namespace WireModel

open Text

/-- What is left of a type in a target. -/
inductive Erasure where
  | primitive (word : String)
  | generated (className : String)
  | list (item : Erasure)
  | map (key value : Erasure)
  deriving DecidableEq, Repr

namespace Erasure

/-- The names of the classes that an erasure mentions. -/
def classNames : Erasure → List String
  | .primitive _ => []
  | .generated className => [className]
  | .list item => item.classNames
  | .map key value => key.classNames ++ value.classNames

/-- The type expression that an erasure is written as. -/
def typeExpr : Erasure → TypeExpr
  | .primitive word => .named word
  | .generated className => .named className
  | .list item => .list item.typeExpr
  | .map key value => .map key.typeExpr value.typeExpr

/-- The class names are identifiers, of either language, and no words for primitive types. -/
structure WellNamed (target : Target) (erasure : Erasure) : Prop where
  identifiers : ∀ name ∈ erasure.classNames, isIdentifier name = true ∨
    Render.Java.isJavaName name = true
  apart : ∀ name ∈ erasure.classNames, ∀ type : Primitive, name ≠ target.primitiveType type

/-- The words for primitive types are those of the target. -/
def HasWords (target : Target) : Erasure → Prop
  | .primitive word => ∃ type : Primitive, word = target.primitiveType type
  | .generated _ => True
  | .list item => item.HasWords target
  | .map key value => key.HasWords target ∧ value.HasWords target

end Erasure

namespace HostType

/-- The types that have a type expression: lists have one argument, maps have two, and what a class
is applied to is supported too. -/
inductive Supported : HostType → Prop where
  | primitive {type : Primitive} : Supported (.primitive type)
  | annotated {base : HostType} {metadata : List HostType} :
    Supported base → Supported (.annotated base metadata)
  | list {spelling : Spelling} {item : HostType} :
    Supported item → Supported (.applied (.list spelling) [item])
  | map {spelling : Spelling} {key value : HostType} :
    Supported key → Supported value → Supported (.applied (.map spelling) [key, value])
  | optional {spelling : Spelling} {type : HostType} :
    Supported type → Supported (.union spelling [type, .noneType])
  | optionalLast {spelling : Spelling} {type : HostType} :
    Supported type → Supported (.union spelling [.noneType, type])
  | box {type : HostType} : Supported type → Supported (.applied .box [type])
  | declared {ref : ClassRef} : ref.category ≠ .opaqueClass → Supported (.declared ref)
  | generic {ref : ClassRef} {args : List HostType} :
    ref.category ≠ .opaqueClass → (∀ arg ∈ args, Supported arg) →
      Supported (.applied (.declared ref) args)

def generated? (target : Target) (type : HostType) : Option Erasure :=
  match type.view.className target with
  | .ok className => some (.generated className)
  | .error _ => Option.none

/-- What is left of a type in a target, if it is supported. What a class is applied to only counts
as far as the name of the generated class shows it. -/
def erased (target : Target) : HostType → Option Erasure
  | .primitive type => some (.primitive (target.primitiveType type))
  | .annotated base _ => erased target base
  | .applied (.list _) [item] => (erased target item).map .list
  | .applied (.map _) [key, value] => do return .map (← erased target key) (← erased target value)
  | .union _ [.noneType, type] => erased target type
  | .union _ [type, .noneType] => erased target type
  | .applied .box [type] => erased target type
  | .declared ref => generated? target (.declared ref)
  | .applied (.declared ref) args => generated? target (.applied (.declared ref) args)
  | _ => Option.none

end HostType

section Supported

variable {target : Target}

theorem View.fragments_ok {views : List View}
    (each : ∀ view ∈ views, ∃ text, view.fragment target = .ok text) :
    ∃ text, View.fragments target views = .ok text := by
  induction views with
  | nil => exact ⟨"", rfl⟩
  | cons view rest ih =>
    obtain ⟨⟨first, found⟩, others⟩ := List.forall_mem_cons.mp each
    obtain ⟨text, same⟩ := ih others
    refine ⟨first ++ text, ?_⟩
    rw [View.fragments, found, same]
    rfl

namespace HostType

/-- A declared class is written as the class that is generated for it, and adds its name to
others. -/
theorem classView_named {ref : ClassRef} (known : ref.category ≠ .opaqueClass) (args : List View)
    (type : HostType) {text : String} (made : View.fragments target args = .ok text) :
    ∃ name, (classView ref args type).className target = .ok name ∧
      (classView ref args type).fragment target = .ok name ∧
      (classView ref args type).typeExpr target = .ok (.named name) := by
  unfold classView
  split
  case h_1 => exact ⟨ref.name, rfl, rfl, rfl⟩
  case h_4 unknown => exact absurd unknown known
  all_goals
    refine ⟨ref.name ++ text, ?_, ?_, ?_⟩
    · rw [View.className, made]
      rfl
    · rw [View.fragment, made]
      rfl
    · rw [View.typeExpr, made]
      rfl

theorem erased_optional (spelling : Spelling) (type : HostType) :
    erased target (.union spelling [type, .noneType]) = erased target type := by
  cases type <;> rfl

theorem Supported.fragment_ok {type : HostType} (supported : type.Supported) :
    ∃ text, type.view.fragment target = .ok text := by
  induction supported with
  | @primitive type => exact ⟨target.primitiveFragment type, rfl⟩
  | annotated _ ih => exact ih
  | list _ ih =>
    obtain ⟨text, found⟩ := ih
    refine ⟨"List" ++ text, ?_⟩
    rw [view, viewAll, View.fragment, found]
    rfl
  | map _ _ keyIh valueIh =>
    obtain ⟨key, foundKey⟩ := keyIh
    obtain ⟨value, foundValue⟩ := valueIh
    refine ⟨"Map" ++ key ++ value, ?_⟩
    rw [view, viewAll, viewAll, View.fragment, foundKey, foundValue]
    rfl
  | optional _ ih =>
    rw [view_optional]
    exact ih
  | optionalLast _ ih => exact ih
  | box _ ih => exact ih
  | @declared ref known =>
    obtain ⟨name, -, found, -⟩ := @classView_named target ref known [] (.declared ref) _ rfl
    exact ⟨name, found⟩
  | @generic ref args known _ ih =>
    obtain ⟨text, made⟩ := View.fragments_ok (List.forall_mem_map.mpr ih)
    obtain ⟨name, -, found, -⟩ :=
      classView_named known (args.map view) (.applied (.declared ref) args) made
    refine ⟨name, ?_⟩
    rw [view, viewAll_eq_map]
    exact found

/-- What a declared class is written as is its erasure. -/
theorem erased_class {type : HostType} {name : String}
    (made : type.view.className target = .ok name) :
    generated? target type = some (.generated name) := by
  rw [generated?, made]

/-- A supported type is written as its erasure. -/
theorem Supported.typeExpr_ok (target : Target) {type : HostType} (supported : type.Supported) :
    ∃ erasure, type.erased target = some erasure ∧ erasure.HasWords target ∧
      type.view.typeExpr target = .ok erasure.typeExpr := by
  induction supported with
  | @primitive type => exact ⟨_, rfl, ⟨type, rfl⟩, rfl⟩
  | annotated _ ih => exact ih
  | list _ ih =>
    obtain ⟨erasure, erased, words, written⟩ := ih
    refine ⟨.list erasure, ?_, words, ?_⟩
    · rw [HostType.erased, erased]
      rfl
    · rw [view, viewAll, View.typeExpr, written]
      rfl
  | map _ _ keyIh valueIh =>
    obtain ⟨key, erasedKey, keyWords, writtenKey⟩ := keyIh
    obtain ⟨value, erasedValue, valueWords, writtenValue⟩ := valueIh
    refine ⟨.map key value, ?_, ⟨keyWords, valueWords⟩, ?_⟩
    · rw [HostType.erased, erasedKey, erasedValue]
      rfl
    · rw [view, viewAll, viewAll, View.typeExpr, writtenKey, writtenValue]
      rfl
  | @optional spelling type _ ih =>
    rw [view_optional, erased_optional]
    exact ih
  | optionalLast _ ih => exact ih
  | box _ ih => exact ih
  | @declared ref known =>
    obtain ⟨name, made, -, written⟩ := @classView_named target ref known [] (.declared ref) _ rfl
    exact ⟨.generated name, erased_class made, trivial, written⟩
  | @generic ref args known supported _ =>
    obtain ⟨text, fragments⟩ := View.fragments_ok (List.forall_mem_map.mpr fun arg member =>
      (supported arg member).fragment_ok)
    obtain ⟨name, made, -, written⟩ :=
      classView_named known (args.map view) (.applied (.declared ref) args) fragments
    rw [← viewAll_eq_map] at made written
    exact ⟨.generated name, erased_class made, trivial, written⟩

end HostType

end Supported

namespace TypeExpr

/-- What may stand behind a type expression. -/
def closers : List Char :=
  ['>', ']', ',']

/-- What may stand behind the first word of a list or a map. -/
def openers : List Char :=
  ['.', '[']

def punctuation : List Char :=
  closers ++ openers

/-- The text holds no punctuation. -/
def IsWord (text : List Char) : Prop :=
  ∀ c ∈ punctuation, c ∉ text

instance (text : List Char) : Decidable (IsWord text) :=
  List.decidableBAll (fun c => c ∉ text) punctuation

/-- Nothing follows, or one of the characters. -/
def Follows (marks : List Char) : List Char → Prop
  | [] => True
  | c :: _ => c ∈ marks

/-- All names in a type expression are words. -/
def HasWords : TypeExpr → Prop
  | .named name => IsWord name.toList
  | .list item => item.HasWords
  | .map key value => key.HasWords ∧ value.HasWords

theorem isWord_of_isIdentifier {name : String} (identifier : isIdentifier name = true) :
    IsWord name.toList := by
  have strange :
      punctuation.all (fun c => !isIdentifierStart c && !isIdentifierContinuation c) = true := by
    decide +kernel
  intro c member
  have apart := List.all_eq_true.mp strange c member
  rw [Bool.and_eq_true, Bool.not_eq_true', Bool.not_eq_true'] at apart
  exact not_mem_identifier apart.1 apart.2 identifier

theorem isWord_of_isJavaName {name : String} (named : Render.Java.isJavaName name = true) :
    IsWord name.toList := by
  have strange : punctuation.any Render.Java.isJavaPart = false := by
    decide +kernel
  intro c member within
  unfold Render.Java.isJavaName at named
  split at named
  · cases named
  rename_i first rest same
  simp only [Bool.and_eq_true, List.all_eq_true] at named
  rw [same, List.mem_cons] at within
  have part : Render.Java.isJavaPart c = true := by
    rcases within with rfl | within
    · simp only [Render.Java.isJavaPart, named.1.1, Bool.true_or]
    · exact named.1.2 c within
  exact List.any_eq_false.mp strange c member part

theorem Follows.imp {marks others : List Char} (inside : marks ⊆ others) {rest : List Char}
    (follows : Follows marks rest) : Follows others rest :=
  match rest with
  | [] => trivial
  | _ :: _ => inside follows

/-- Two words that go on with punctuation end at the same place. -/
theorem append_inj_of_words {first second rest other : List Char} (word : IsWord first)
    (word' : IsWord second)
    (follows : Follows punctuation rest) (follows' : Follows punctuation other)
    (same : first ++ rest = second ++ other) : first = second ∧ rest = other := by
  rcases List.append_eq_append_iff.mp same with ⟨more, rfl, rfl⟩ | ⟨more, rfl, rfl⟩
  · cases more with
    | nil => exact ⟨(List.append_nil first).symm, rfl⟩
    | cons c more => exact absurd (List.mem_append_right first List.mem_cons_self) (word' c follows)
  · cases more with
    | nil => exact ⟨List.append_nil second, rfl⟩
    | cons c more =>
      exact absurd (List.mem_append_right second List.mem_cons_self) (word c follows')

/-- What the text of a list begins with. -/
def listOpening : Target → List Char
  | .java => "java.util.List<".toList
  | .python => "list[".toList

/-- What the text of a map begins with. -/
def mapOpening : Target → List Char
  | .java => "java.util.Map<".toList
  | .python => "dict[".toList

/-- What the text of a list or a map ends with. -/
def closing : Target → List Char
  | .java => ">".toList
  | .python => "]".toList

/-- What stands between the arguments of a map. -/
def comma : List Char :=
  ", ".toList

/-- The text begins with a word and one of the characters that a list or a map goes on with. -/
def Opens (opening : List Char) : Prop :=
  ∃ word c rest, opening = word ++ c :: rest ∧ IsWord word ∧ c ∈ openers

theorem opens_list (target : Target) : Opens (listOpening target) :=
  match target with
  | .java => ⟨"java".toList, '.', "util.List<".toList, rfl, by decide, by decide⟩
  | .python => ⟨"list".toList, '[', [], rfl, by decide, by decide⟩

theorem opens_map (target : Target) : Opens (mapOpening target) :=
  match target with
  | .java => ⟨"java".toList, '.', "util.Map<".toList, rfl, by decide, by decide⟩
  | .python => ⟨"dict".toList, '[', [], rfl, by decide, by decide⟩

/-- A name does not begin as a list or a map does. -/
theorem Opens.ne_named {opening : List Char} (opens : Opens opening) {name rest other : List Char}
    (word : IsWord name) (closes : Follows closers rest) : name ++ rest ≠ opening ++ other := by
  obtain ⟨first, c, more, rfl, plain, opener⟩ := opens
  rw [List.append_assoc, List.cons_append]
  intro same
  have marks : Follows punctuation (c :: (more ++ other)) := List.mem_append_right closers opener
  obtain ⟨-, rfl⟩ :=
    append_inj_of_words word plain (closes.imp (List.subset_append_left ..)) marks same
  have apart : openers.Disjoint closers := by simp [openers, closers]
  exact apart opener closes

section Text

variable {target : Target}

/-- A list does not begin as a map does. -/
theorem list_ne_map (rest other : List Char) :
    listOpening target ++ rest ≠ mapOpening target ++ other := by
  -- The letter behind the package tells them apart, and in the other target the first letter.
  obtain ⟨place, within, within', differ⟩ : ∃ place, place < (listOpening target).length ∧
      place < (mapOpening target).length ∧ (listOpening target)[place]? ≠
        (mapOpening target)[place]? := by
    cases target with
    | java => exact ⟨10, by decide⟩
    | python => exact ⟨0, by decide⟩
  intro same
  have letters := congrArg (·[place]?) same
  rw [List.getElem?_append_left within, List.getElem?_append_left within'] at letters
  exact differ letters

theorem text_list_append (item : TypeExpr) (rest : List Char) :
    ((list item).text target).toList ++ rest =
      listOpening target ++ ((item.text target).toList ++ (closing target ++ rest)) := by
  have written : (list item).text target =
      String.ofList (listOpening target) ++ item.text target ++ String.ofList (closing target) := by
    cases target <;> rfl
  simp only [written, String.toList_append, String.toList_ofList, List.append_assoc]

theorem text_map_append (key value : TypeExpr) (rest : List Char) :
    ((map key value).text target).toList ++ rest = mapOpening target ++ ((key.text target).toList ++
      (comma ++ ((value.text target).toList ++ (closing target ++ rest)))) := by
  have written : (map key value).text target = String.ofList (mapOpening target) ++
      key.text target ++
      String.ofList comma ++ value.text target ++ String.ofList (closing target) := by
    cases target <;> rfl
  simp only [written, String.toList_append, String.toList_ofList, List.append_assoc]

theorem follows_closing (target : Target) (rest : List Char) :
    Follows closers (closing target ++ rest) := by
  have first : '>' ∈ closers ∧ ']' ∈ closers := by decide
  cases target with
  | java => exact first.1
  | python => exact first.2

theorem follows_comma (rest : List Char) : Follows closers (comma ++ rest) := by
  have first : ',' ∈ closers := by decide
  exact first

/-- A type expression can be read from its text, whatever follows behind it: the induction goes
through the first one, and each part of it ends where a bracket is closed or a comma stands. -/
theorem text_append_inj {first second : TypeExpr} (words : first.HasWords)
    (words' : second.HasWords)
    {rest other : List Char} (closes : Follows closers rest) (closes' : Follows closers other)
    (same : (first.text target).toList ++ rest = (second.text target).toList ++ other) :
    first = second ∧ rest = other := by
  have punctuated {rest : List Char} : Follows closers rest → Follows punctuation rest :=
    Follows.imp (List.subset_append_left ..)
  induction first generalizing second rest other with
  | named name =>
    cases second with
    | named another =>
      obtain ⟨names, rests⟩ :=
        append_inj_of_words words words' (punctuated closes) (punctuated closes') same
      exact ⟨congrArg named (String.toList_injective names), rests⟩
    | list item =>
      rw [text_list_append] at same
      exact absurd same ((opens_list target).ne_named words closes)
    | map key value =>
      rw [text_map_append] at same
      exact absurd same ((opens_map target).ne_named words closes)
  | list item ih =>
    rw [text_list_append] at same
    cases second with
    | named name => exact absurd same.symm ((opens_list target).ne_named words' closes')
    | list another =>
      rw [text_list_append] at same
      have inner : another.HasWords := words'
      obtain ⟨rfl, behind⟩ :=
        ih words inner (follows_closing target rest) (follows_closing target other)
        (List.append_cancel_left same)
      exact ⟨rfl, List.append_cancel_left behind⟩
    | map key value =>
      rw [text_map_append] at same
      exact absurd same (list_ne_map _ _)
  | map key value keyIh valueIh =>
    rw [text_map_append] at same
    cases second with
    | named name => exact absurd same.symm ((opens_map target).ne_named words' closes')
    | list item =>
      rw [text_list_append] at same
      exact absurd same.symm (list_ne_map _ _)
    | map otherKey otherValue =>
      rw [text_map_append] at same
      obtain ⟨rfl, behind⟩ := keyIh words.1 words'.1 (follows_comma _) (follows_comma _)
        (List.append_cancel_left same)
      obtain ⟨rfl, last⟩ := valueIh words.2 words'.2 (follows_closing target rest)
        (follows_closing target other) (List.append_cancel_left behind)
      exact ⟨rfl, List.append_cancel_left last⟩

/-- Two type expressions of one text are one. -/
theorem text_inj {first second : TypeExpr} (words : first.HasWords) (words' : second.HasWords)
    (same : first.text target = second.text target) : first = second := by
  have texts : (first.text target).toList ++ [] = (second.text target).toList ++ [] := by rw [same]
  have ends : Follows closers [] := trivial
  exact (text_append_inj words words' ends ends texts).1

end Text

end TypeExpr

namespace Erasure

variable {target : Target}

theorem isWord_primitiveType (target : Target) (type : Primitive) :
    TypeExpr.IsWord (target.primitiveType type).toList := by
  cases target <;> cases type <;> decide

theorem WellNamed.item {item : Erasure} (named : (list item).WellNamed target) :
    item.WellNamed target :=
  ⟨named.identifiers, named.apart⟩

theorem WellNamed.key {key value : Erasure} (named : (map key value).WellNamed target) :
    key.WellNamed target :=
  ⟨fun name member => named.identifiers name (List.mem_append_left _ member),
    fun name member => named.apart name (List.mem_append_left _ member)⟩

theorem WellNamed.value {key value : Erasure} (named : (map key value).WellNamed target) :
    value.WellNamed target :=
  ⟨fun name member => named.identifiers name (List.mem_append_right _ member),
    fun name member => named.apart name (List.mem_append_right _ member)⟩

/-- The names in the type expression of an erasure are words. -/
theorem hasWords_typeExpr {erasure : Erasure} (words : erasure.HasWords target)
    (named : erasure.WellNamed target) : erasure.typeExpr.HasWords := by
  induction erasure with
  | primitive word =>
    obtain ⟨type, rfl⟩ := words
    exact isWord_primitiveType target type
  | generated className =>
    exact (named.identifiers className List.mem_cons_self).elim TypeExpr.isWord_of_isIdentifier
      TypeExpr.isWord_of_isJavaName
  | list item ih => exact ih words named.item
  | map key value keyIh valueIh => exact ⟨keyIh words.1 named.key, valueIh words.2 named.value⟩

/-- No class has the name of a primitive type. -/
theorem WellNamed.ne_primitive {className word : String}
    (named : (generated className).WellNamed target)
    (words : (primitive word).HasWords target) : className ≠ word := by
  obtain ⟨type, rfl⟩ := words
  exact named.apart className List.mem_cons_self type

/-- Erasures of one type expression are one. -/
theorem typeExpr_inj {first second : Erasure} (words : first.HasWords target)
    (words' : second.HasWords target) (named : first.WellNamed target)
    (named' : second.WellNamed target)
    (same : first.typeExpr = second.typeExpr) : first = second := by
  induction first generalizing second with
  | primitive word =>
    cases second with
    | primitive other => exact congrArg primitive (TypeExpr.named.inj same)
    | generated other => exact absurd (TypeExpr.named.inj same).symm (named'.ne_primitive words)
    | list | map => cases same
  | generated className =>
    cases second with
    | primitive other => exact absurd (TypeExpr.named.inj same) (named.ne_primitive words')
    | generated other => exact congrArg generated (TypeExpr.named.inj same)
    | list | map => cases same
  | list item ih =>
    cases second with
    | list other =>
      have inner : other.HasWords target := words'
      rw [ih words inner named.item named'.item (TypeExpr.list.inj same)]
    | primitive | generated | map => cases same
  | map key value keyIh valueIh =>
    cases second with
    | map otherKey otherValue =>
      obtain ⟨keys, values⟩ := TypeExpr.map.inj same
      rw [keyIh words.1 words'.1 named.key named'.key keys,
        valueIh words.2 words'.2 named.value named'.value values]
    | primitive | generated | list => cases same

end Erasure

/-- Type expressions are unambiguous: two supported types have one text in a target exactly if their
erasures are one, if the classes that they mention have identifiers as names and none that is the
word for a primitive type. -/
theorem HostType.typeText_eq_iff (target : Target) {first second : HostType}
    (supported : first.Supported) (supported' : second.Supported)
    (named : ∀ erasure ∈ first.erased target, erasure.WellNamed target)
    (named' : ∀ erasure ∈ second.erased target, erasure.WellNamed target) :
    ∃ (text text' : String) (erasure erasure' : Erasure),
      first.view.typeText target = .ok text ∧ second.view.typeText target = .ok text' ∧
      first.erased target = some erasure ∧ second.erased target = some erasure' ∧
      (text = text' ↔ erasure = erasure') := by
  obtain ⟨erasure, erased, words, written⟩ := supported.typeExpr_ok target
  obtain ⟨erasure', erased', words', written'⟩ := supported'.typeExpr_ok target
  refine ⟨erasure.typeExpr.text target, erasure'.typeExpr.text target, erasure, erasure', ?_, ?_,
    erased, erased',
    fun same => ?_, fun same => same ▸ rfl⟩
  · rw [View.typeText, written]
    rfl
  · rw [View.typeText, written']
    rfl
  · have plain := named erasure erased
    have plain' := named' erasure' erased'
    exact Erasure.typeExpr_inj words words' plain plain' (TypeExpr.text_inj
      (Erasure.hasWords_typeExpr words plain) (Erasure.hasWords_typeExpr words' plain') same)

/-- A record of two type parameters. -/
def pairRef : ClassRef :=
  ⟨0, "models", "Pair", "Pair", .record, ["K", "V"], .parameters⟩

/-- A map of lists of pairs, which may be absent. -/
def pairsType : HostType :=
  .applied (.map .native) [.primitive .str,
    .applied (.list .native) [.union .qualified [
      .applied (.declared pairRef) [.primitive .int, .applied (.list .native) [.primitive .bool]],
        .noneType]]]

/-- The same map, with other primitives and boxes around the parts. -/
def boxedPairsType : HostType :=
  .annotated (.applied (.map .qualified) [.applied .box [.primitive .str],
    .applied (.list .native) [
      .applied (.declared pairRef) [.primitive .i64, .applied (.list .native) [.primitive .bool]]]])
        [.none]

theorem typeText_eq_iff_pairs :
    pairsType.Supported ∧ boxedPairsType.Supported ∧
    (∀ erasure ∈ pairsType.erased .java, erasure.WellNamed .java) ∧
    (∀ erasure ∈ boxedPairsType.erased .java, erasure.WellNamed .java) ∧
    pairsType.view.typeText .java = boxedPairsType.view.typeText .java := by
  have record : pairRef.category ≠ .opaqueClass := by decide
  have supported : pairsType.Supported :=
    .map .primitive (.list (.optional (.generic record (by
      rintro arg (_ | ⟨_, _ | ⟨_, ⟨⟩⟩⟩)
      · exact .primitive
      · exact .list .primitive))))
  have boxed : boxedPairsType.Supported :=
    .annotated (.map (.box .primitive) (.list (.generic record (by
      rintro arg (_ | ⟨_, _ | ⟨_, ⟨⟩⟩⟩)
      · exact .primitive
      · exact .list .primitive))))
  have erased : pairsType.erased .java =
      some (.map (.primitive "String") (.list (.generated "PairLongListBoolean"))) := by decide
  have same : boxedPairsType.erased .java = pairsType.erased .java := by decide
  have named : ∀ erasure ∈ pairsType.erased .java, erasure.WellNamed .java := by
    rw [erased]
    rintro erasure ⟨⟩
    refine ⟨fun name member => ?_, fun name member type => ?_⟩
    · obtain rfl : name = "PairLongListBoolean" := List.mem_singleton.mp member
      exact .inl (by decide +kernel)
    · obtain rfl : name = "PairLongListBoolean" := List.mem_singleton.mp member
      cases type <;> decide
  have named' : ∀ erasure ∈ boxedPairsType.erased .java, erasure.WellNamed .java := same ▸ named
  obtain ⟨text, text', erasure, erasure', written, written', found, found', iff⟩ :=
    HostType.typeText_eq_iff .java supported boxed named named'
  rw [same, found] at found'
  refine ⟨supported, boxed, named, named', ?_⟩
  rw [written, written', iff.mpr (Option.some.inj found')]

end WireModel
