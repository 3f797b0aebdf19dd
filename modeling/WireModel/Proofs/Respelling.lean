import Mathlib.Data.Set.Operations
import WireModel.Proofs.Naming

/-!
What is left of a text that is written in another style and back. From camel or Pascal case to snake
case and back a text survives exactly if it has no underscores and its capital letters begin words;
from snake case over camel or Pascal case a name survives exactly if lower-case letters stand around
its underscores, and words of one letter only in front of the first one.
-/

namespace WireModel

namespace Text

theorem ascii_of_isUpper {c : Char} (upper : c.isUpper = true) : c.toNat < 0x80 := by
  have bounds : c.val ≥ 'A'.val ∧ c.val ≤ 'Z'.val := of_decide_eq_true upper
  exact Nat.lt_of_le_of_lt bounds.2 (by decide)

theorem ascii_of_isLower {c : Char} (lower : c.isLower = true) : c.toNat < 0x80 := by
  have bounds : decide (c.val ≥ 'a'.val) = true ∧ decide (c.val ≤ 'z'.val) = true :=
    Bool.and_eq_true_iff.mp lower
  exact Nat.lt_of_le_of_lt (of_decide_eq_true bounds.2) (by decide)

theorem toLower_of_notUpper {c : Char} (notUpper : c.isUpper = false) : c.toLower = c := by
  have outside : ¬(c.val ≥ 'A'.val ∧ c.val ≤ 'Z'.val) := of_decide_eq_false notUpper
  exact dif_neg outside

/-- The case of a letter changes to and fro. -/
@[mk_iff]
structure Letters (c : Char) : Prop where
  lower_of_upper : c.isUpper = true → c.toLower.isLower = true
  upper_of_lower : c.isLower = true → c.toUpper.isUpper = true
  back : c.isLower = true → c.toUpper.toLower = c
  forth : c.isUpper = true → c.toLower.toUpper = c

instance : DecidablePred Letters :=
  fun c => decidable_of_iff' _ (letters_iff c)

theorem letters_of_ascii {c : Char} (ascii : c.toNat < 0x80) : Letters c :=
  forall_ascii (by decide) ascii

theorem isLower_toLower {c : Char} (upper : c.isUpper = true) : c.toLower.isLower = true :=
  (letters_of_ascii (ascii_of_isUpper upper)).lower_of_upper upper

theorem notLower_of_isUpper {c : Char} (upper : c.isUpper = true) : c.isLower = false :=
  (keepsCase (ascii_of_isUpper upper)).notLower upper

theorem notUpper_of_isLower {c : Char} (lower : c.isLower = true) : c.isUpper = false := by
  by_contra upper
  rw [notLower_of_isUpper (by simpa using upper)] at lower
  cases lower

theorem toLower_eq_iff {c : Char} : c.toLower = c ↔ c.isUpper = false := by
  refine ⟨fun same => ?_, toLower_of_notUpper⟩
  by_contra upper
  have upper : c.isUpper = true := by simpa using upper
  have lower := isLower_toLower upper
  rw [same, notLower_of_isUpper upper] at lower
  cases lower

theorem notUpper_toLower {c : Char} : c.toLower.isUpper = false := by
  cases upper : c.isUpper with
  | true => exact notUpper_of_isLower (isLower_toLower upper)
  | false => rw [toLower_of_notUpper upper, upper]

theorem toLower_ne_underscore {c : Char} (other : c ≠ '_') : c.toLower ≠ '_' :=
  fun lowered => other (eq_of_toLower rfl lowered)

theorem upperChar_of_isLower {c : Char} (lower : c.isLower = true) : upperChar c = [c.toUpper] :=
  upperChar_of_ascii (ascii_of_isLower lower)

/-- A lower-case letter of ASCII stands for a capital letter in upper case, which is lowered to
it. -/
theorem raised_of_isUpper {c : Char} (upper : c.isUpper = true) : upperChar c.toLower = [c] := by
  rw [upperChar_of_isLower (isLower_toLower upper),
    (letters_of_ascii (ascii_of_isUpper upper)).forth upper]

/-- The character is a capital letter of ASCII or none of ASCII. -/
def IsRaised (c : Char) : Prop :=
  c.isUpper = true ∨ 0x80 ≤ c.toNat

/-- All numbers from the first to the last are those of capital letters of ASCII, or of characters
that are not of ASCII. -/
def RaisedRange (first last : Nat) : Prop :=
  (0x41 ≤ first ∧ last ≤ 0x5a) ∨ (0x80 ≤ first ∧ last < 0xd800) ∨ (0xdfff < first ∧ last < 0x110000)

instance (first last : Nat) : Decidable (RaisedRange first last) :=
  inferInstanceAs (Decidable (_ ∨ _))

theorem toNat_ofNat {code : Nat} (valid : code.isValidChar) : (Char.ofNat code).toNat = code := by
  have made : Char.ofNat code = Char.ofNatAux code valid := dif_pos valid
  rw [made]
  rfl

theorem RaisedRange.isValidChar {first last code : Nat} (raised : RaisedRange first last)
    (from_first : first ≤ code) (to_last : code ≤ last) : code.isValidChar := by
  rcases raised with inside | below | above
  · exact .inl (by omega)
  · exact .inl (by omega)
  · exact .inr (by omega)

theorem RaisedRange.isRaised {first last code : Nat} (raised : RaisedRange first last)
    (from_first : first ≤ code) (to_last : code ≤ last) : IsRaised (Char.ofNat code) := by
  have number := toNat_ofNat (raised.isValidChar from_first to_last)
  rcases raised with inside | below | above
  · have capital : ∀ code < 0x80, 0x41 ≤ code → code ≤ 0x5a → (Char.ofNat code).isUpper =
        true := by decide
    exact .inl (capital code (by omega) (by omega) (by omega))
  · exact .inr (by omega)
  · exact .inr (by omega)

/-- What upper case makes of a character that it changes. -/
structure Raises (c : Char) (image : List Char) : Prop where
  raised : ∀ d ∈ image, IsRaised d
  changed : image.head? ≠ some c
  some : image ≠ []

/-- The tables of upper case give images of that kind. -/
theorem upperTable_raises :
    (∀ expansion ∈ CaseData.upperExpansions, expansion.2 ≠ [] ∧
      expansion.2.head? ≠ some expansion.1 ∧
      ∀ code ∈ expansion.2, RaisedRange code code) ∧
    ∀ range ∈ CaseData.upper, (range.image ≠ range.first) ∧
      RaisedRange range.image (range.image + (range.last - range.first)) := by
  decide +kernel

/-- Upper case leaves a character as it is, or makes capital letters of it and others that are not
of ASCII, of which the first one is another. -/
theorem upperChar_or_raises (c : Char) : upperChar c = [c] ∨ Raises c (upperChar c) := by
  obtain ⟨expansions, ranges⟩ := upperTable_raises
  unfold upperChar imageOf
  split
  · next codes found =>
    obtain ⟨front, back, entries, -⟩ := List.lookup_eq_some_iff.mp found
    obtain ⟨some, changed, raised⟩ := expansions (c.toNat, codes) (by simp [entries])
    have each : ∀ code ∈ codes, RaisedRange code code := raised
    refine .inr ⟨fun d member => ?_, fun same => ?_, by simpa using some⟩
    · obtain ⟨code, inside, rfl⟩ := List.mem_map.mp member
      exact (each code inside).isRaised (Nat.le_refl _) (Nat.le_refl _)
    · obtain ⟨code, first, made⟩ := Option.map_eq_some_iff.mp (List.head?_map.symm.trans same)
      have valid :=
        (each code (List.mem_of_head? first)).isValidChar (Nat.le_refl _) (Nat.le_refl _)
      rw [← made, toNat_ofNat valid] at changed
      exact changed first
  · split
    · next code found =>
      obtain ⟨range, inside, image⟩ := List.exists_of_findSome?_eq_some found
      rw [CharRange.image?, Option.ite_none_right_eq_some] at image
      obtain ⟨within, ⟨⟩⟩ := image
      obtain ⟨differs, raised⟩ := ranges range inside
      have from_first : range.image ≤ range.image + (c.toNat - range.first) := by omega
      have to_last : range.image + (c.toNat - range.first) ≤
          range.image + (range.last - range.first) := by omega
      refine .inr ⟨?_, fun same => ?_, by simp⟩
      · rw [List.forall_mem_singleton]
        exact raised.isRaised from_first to_last
      · have made := congrArg Char.toNat (Option.some.inj same)
        rw [toNat_ofNat (raised.isValidChar from_first to_last)] at made
        omega
    · exact .inl rfl

theorem underscore_of_mem_upperChar {c : Char} (member : '_' ∈ upperChar c) : c = '_' := by
  rcases upperChar_or_raises c with same | raises
  · rw [same, List.mem_singleton] at member
    exact member.symm
  · rcases raises.raised _ member with upper | above
    · cases upper
    · exact absurd above (by decide)

theorem upperChar_underscore : upperChar '_' = ['_'] :=
  upperChar_of_ascii (by decide)

theorem count_upperChar (c : Char) : (upperChar c).count '_' = [c].count '_' := by
  by_cases underscore : c = '_'
  · rw [underscore, upperChar_underscore]
  · have absent : '_' ∉ upperChar c := fun member => underscore (underscore_of_mem_upperChar member)
    rw [List.count_eq_zero.mpr absent, List.count_singleton, if_neg (by simpa using underscore)]

/-- What upper case makes of a character is nothing but this character if it begins with it. -/
theorem upperChar_of_head {c : Char} (first : (upperChar c).head? = some c) : upperChar c = [c] :=
  (upperChar_or_raises c).resolve_right fun raises => raises.changed first

theorem exists_upperChar_cons (c : Char) : ∃ d rest, upperChar c = d :: rest := by
  rcases upperChar_or_raises c with same | raises
  · exact ⟨c, [], same⟩
  · exact List.exists_cons_of_ne_nil raises.some

/-- No character in upper case is a lower-case letter of ASCII. -/
theorem notLower_of_mem_upperChar {c d : Char} (member : d ∈ upperChar c) : d.isLower = false := by
  by_contra lower
  have lower : d.isLower = true := by simpa using lower
  rcases upperChar_or_raises c with same | raises
  · obtain rfl : d = c := by simpa [same] using member
    have upper := (letters_of_ascii (ascii_of_isLower lower)).upper_of_lower lower
    rw [upperChar_of_isLower lower, List.cons.injEq] at same
    rw [same.1, notUpper_of_isLower lower] at upper
    cases upper
  · rcases raises.raised d member with upper | above
    · rw [notLower_of_isUpper upper] at lower
      cases lower
    · have ascii := ascii_of_isLower lower
      omega

end Text

open Text

namespace Name

/-- A text in camel case that was written in snake case and back. -/
def respelled (afterLower : Bool) : List Char → List Char
  | [] => []
  | ['_'] => []
  | '_' :: c :: rest => upperChar c.toLower ++ respelled c.isLower rest
  | c :: rest =>
    if afterLower && c.isUpper then c :: respelled false rest
    else c.toLower :: respelled c.isLower rest

/-- An underscore is the last character or has one behind it. -/
theorem ne_underscore {c : Char} {rest : List Char} (alone : c = '_' → rest = [] → False)
    (followed : ∀ (d : Char) (others : List Char), c = '_' → rest = d :: others → False) :
    c ≠ '_' := by
  intro underscore
  cases rest with
  | nil => exact alone underscore rfl
  | cons d others => exact followed d others underscore rfl

theorem camelOfSnake_snakeOfCamel_eq (afterLower : Bool) (text : List Char) :
    camelOfSnake (snakeOfCamel afterLower text) = respelled afterLower text := by
  fun_induction respelled afterLower text with
  | case1 => rfl
  | case2 afterLower => simp [snakeOfCamel, camelOfSnake]
  | case3 afterLower c rest ih =>
    have plain : ('_' : Char).isLower = false := rfl
    have kept : ('_' : Char).toLower = '_' := rfl
    rw [snakeOfCamel, if_neg (by simp), snakeOfCamel, plain, kept, Bool.false_and,
      if_neg Bool.false_ne_true, camelOfSnake, ih]
  | case4 afterLower c rest _ _ begins ih =>
    have upper := (Bool.and_eq_true_iff.mp begins).2
    rw [snakeOfCamel, if_pos begins, camelOfSnake, raised_of_isUpper upper, ih,
      List.singleton_append]
  | case5 afterLower c rest alone ends other ih =>
    have noUnderscore := ne_underscore alone ends
    rw [snakeOfCamel, if_neg other, camelOfSnake_cons (toLower_ne_underscore noUnderscore), ih]

theorem respelled_cons {afterLower : Bool} {c : Char} {rest : List Char} (noUnderscore : c ≠ '_') :
    respelled afterLower (c :: rest) =
      if afterLower && c.isUpper then c :: respelled false rest
      else c.toLower :: respelled c.isLower rest := by
  rw [respelled]
  · intro same
    exact absurd same noUnderscore
  · intro d others same
    exact absurd same noUnderscore

theorem count_pair (c : Char) (rest : List Char) :
    ('_' :: c :: rest).count '_' = [c].count '_' + rest.count '_' + 1 := by
  rw [List.count_cons_self, ← List.singleton_append, List.count_append]

/-- Of two underscores at most one is left. -/
theorem count_respelled (afterLower : Bool) (text : List Char) :
    2 * (respelled afterLower text).count '_' ≤ text.count '_' := by
  fun_induction respelled afterLower text with
  | case1 => exact Nat.le_refl _
  | case2 => exact Nat.zero_le _
  | case3 afterLower c rest ih =>
    have image : (upperChar c.toLower).count '_' ≤ [c].count '_' := by
      rw [count_upperChar]
      by_cases underscore : c = '_'
      · rw [underscore]
        exact Nat.le_refl _
      · rw [List.count_singleton, if_neg (by simpa using toLower_ne_underscore underscore)]
        exact Nat.zero_le _
    have single : [c].count '_' ≤ 1 := List.count_le_length
    rw [List.count_append, count_pair]
    omega
  | case4 afterLower c rest _ _ begins ih =>
    have noUnderscore : c ≠ '_' := by
      rintro rfl
      simp at begins
    rwa [List.count_cons_of_ne noUnderscore, List.count_cons_of_ne noUnderscore]
  | case5 afterLower c rest alone ends other ih =>
    have noUnderscore := ne_underscore alone ends
    rwa [List.count_cons_of_ne (toLower_ne_underscore noUnderscore),
      List.count_cons_of_ne noUnderscore]

theorem count_raiseFirst (text : List Char) : (raiseFirst text).count '_' = text.count '_' := by
  cases text with
  | nil => rfl
  | cons c rest =>
    rw [raiseFirst, List.count_append, count_upperChar, ← List.count_append, List.singleton_append]

/-- A text that no underscore is lost of has none. -/
theorem no_underscore_of_respelled {afterLower : Bool} {text : List Char}
    (kept : text.count '_' ≤ (respelled afterLower text).count '_') : '_' ∉ text := by
  have halved := count_respelled afterLower text
  exact List.count_eq_zero.mp (by omega)

/-- A text without underscores survives if its capital letters begin words. -/
theorem respelled_eq_iff {afterLower : Bool} {text : List Char} (noUnderscore : '_' ∉ text) :
    respelled afterLower text = text ↔ isCamelCase afterLower text = true := by
  induction text generalizing afterLower with
  | nil => simp [respelled, isCamelCase]
  | cons c rest ih =>
    rw [List.mem_cons, not_or] at noUnderscore
    obtain ⟨differs, others⟩ := noUnderscore
    rw [respelled_cons (Ne.symm differs), isCamelCase]
    cases upper : c.isUpper with
    | true =>
      have notLower := notLower_of_isUpper upper
      cases afterLower with
      | true => simp [Ne.symm differs, notLower, ih others]
      | false =>
        have lowered : c.toLower ≠ c := fun same => by simp [toLower_eq_iff.mp same] at upper
        simp [lowered]
    | false => simp [Ne.symm differs, toLower_of_notUpper upper, ih others]

theorem isCamelCase_iff {afterLower : Bool} {text : List Char} :
    isCamelCase afterLower text = true ↔ '_' ∉ text ∧
      (∀ c ∈ text.head?, c.isUpper = true → afterLower = true) ∧
      text.IsChain fun c d => d.isUpper = true → c.isLower = true := by
  induction text generalizing afterLower with
  | nil => simp [isCamelCase]
  | cons c rest ih =>
    have first : (c != '_') = true ↔ '_' ≠ c := by rw [bne_iff_ne, ne_comm]
    have begins : (!c.isUpper || afterLower) = true ↔ (c.isUpper = true → afterLower = true) := by
      cases c.isUpper <;> simp
    rw [isCamelCase, Bool.and_eq_true, Bool.and_eq_true, ih, first, begins, List.mem_cons, not_or]
    cases rest with
    | nil => simp
    | cons d others =>
      simp only [List.head?_cons, Option.mem_some_iff, forall_eq', List.isChain_cons_cons]
      tauto

/-- What begins with a capital letter, or with a character without upper case, survives in Pascal
case. -/
theorem raiseFirst_respelled_eq_iff {text : List Char} (noUnderscore : '_' ∉ text) :
    raiseFirst (respelled false text) = text ↔ isCamelCase true text = true ∧
      ∀ c ∈ text.head?, c.isUpper = true ∨ upperChar c = [c] := by
  cases text with
  | nil => simp [respelled, raiseFirst, isCamelCase]
  | cons c rest =>
    rw [List.mem_cons, not_or] at noUnderscore
    obtain ⟨differs, others⟩ := noUnderscore
    have begins : isCamelCase true (c :: rest) = isCamelCase c.isLower rest := by
      simp [isCamelCase, Ne.symm differs]
    rw [respelled_cons (Ne.symm differs), Bool.false_and, if_neg Bool.false_ne_true,
      raiseFirst, begins, ← respelled_eq_iff others]
    cases upper : c.isUpper with
    | true => simp [raised_of_isUpper upper, upper]
    | false =>
      rw [toLower_of_notUpper upper]
      constructor
      · intro same
        obtain ⟨d, behind, image⟩ := exists_upperChar_cons c
        rw [image, List.cons_append, List.cons.injEq] at same
        obtain ⟨rfl, same⟩ := same
        have alone : upperChar d = [d] := upperChar_of_head (by rw [image, List.head?_cons])
        rw [alone, List.cons.injEq] at image
        rw [← image.2] at same
        exact ⟨same, by simp [alone]⟩
      · rintro ⟨same, first⟩
        have alone : upperChar c = [c] := by simpa [upper] using first c rfl
        rw [alone, same, List.singleton_append]

/-- A text survives being written in snake case and back to camel case exactly if it has no
underscore, does not begin with a capital letter of ASCII and has each other capital letter of ASCII
right behind a lower-case one; and being written in snake case and back to Pascal case exactly if it
has no underscore, begins, if at all, with a capital letter of ASCII or a character without upper
case, and has each other capital letter of ASCII right behind a lower-case one. -/
theorem camel_ofCamel_iff (text : String) :
    ((ofCamel text).camel = text ↔
      '_' ∉ text.toList ∧ (∀ c ∈ text.toList.head?, c.isUpper = false) ∧
      text.toList.IsChain fun c d => d.isUpper = true → c.isLower = true) ∧
    ((ofPascal text).pascal = text ↔ '_' ∉ text.toList ∧
      (text.toList.IsChain fun c d => d.isUpper = true → c.isLower = true) ∧
      ∀ c ∈ text.toList.head?, c.isUpper = true ∨ upper [c] = [c]) := by
  have camel : (ofCamel text).camel = text ↔ respelled false text.toList = text.toList := by
    rw [← String.toList_inj, Name.camel, String.toList_ofList, ofCamel, String.toList_ofList,
      camelOfSnake_snakeOfCamel_eq]
  have pascal : (ofPascal text).pascal = text ↔
      raiseFirst (respelled false text.toList) = text.toList := by
    rw [← String.toList_inj, Name.pascal, String.toList_ofList, snake_ofPascal,
      camelOfSnake_snakeOfCamel_eq]
  have alone (c : Char) : upper [c] = upperChar c := List.flatMap_singleton ..
  rw [camel, pascal]
  constructor
  · constructor
    · intro same
      have noUnderscore : '_' ∉ text.toList :=
        no_underscore_of_respelled (Nat.le_of_eq (congrArg _ same.symm))
      simpa using isCamelCase_iff.mp ((respelled_eq_iff noUnderscore).mp same)
    · rintro ⟨noUnderscore, first, words⟩
      have begins : ∀ c ∈ text.toList.head?, c.isUpper = true → false = true := by
        intro c inside upper
        rwa [first c inside] at upper
      exact (respelled_eq_iff noUnderscore).mpr (isCamelCase_iff.mpr ⟨noUnderscore, begins, words⟩)
  · simp only [alone]
    constructor
    · intro same
      have count := congrArg (List.count '_') same
      rw [count_raiseFirst] at count
      have noUnderscore : '_' ∉ text.toList := no_underscore_of_respelled (Nat.le_of_eq count.symm)
      obtain ⟨camelCase, first⟩ := (raiseFirst_respelled_eq_iff noUnderscore).mp same
      exact ⟨noUnderscore, (isCamelCase_iff.mp camelCase).2.2, first⟩
    · rintro ⟨noUnderscore, words, first⟩
      have camelCase := isCamelCase_iff.mpr ⟨noUnderscore, fun _ _ _ => rfl, words⟩
      exact (raiseFirst_respelled_eq_iff noUnderscore).mpr ⟨camelCase, first⟩

/-- Text without lower-case letters of ASCII is only lowered in snake case. -/
theorem snakeOfCamel_append {image rest : List Char} (raised : ∀ c ∈ image, c.isLower = false) :
    snakeOfCamel false (image ++ rest) = image.map Char.toLower ++ snakeOfCamel false rest := by
  induction image with
  | nil => rfl
  | cons c others ih =>
    obtain ⟨first, raised⟩ := List.forall_mem_cons.mp raised
    rw [List.cons_append, snakeOfCamel, Bool.false_and, if_neg Bool.false_ne_true, first, ih raised]
    rfl

/-- A text in snake case that was written in camel case and back. -/
def returned (afterLower : Bool) : List Char → List Char
  | [] => []
  | ['_'] => []
  | '_' :: c :: rest =>
    (if afterLower && (upperChar c).head?.any Char.isUpper then ['_'] else []) ++
      (upperChar c).map Char.toLower ++ returned false rest
  | c :: rest =>
    if afterLower && c.isUpper then '_' :: c.toLower :: returned false rest
    else c.toLower :: returned c.isLower rest

theorem snakeOfCamel_camelOfSnake_eq (afterLower : Bool) (text : List Char) :
    snakeOfCamel afterLower (camelOfSnake text) = returned afterLower text := by
  fun_induction returned afterLower text with
  | case1 => rfl
  | case2 => rfl
  | case3 afterLower c rest ih =>
    have raised : ∀ d ∈ upperChar c, d.isLower = false := fun d => notLower_of_mem_upperChar
    obtain ⟨d, image, known⟩ := exists_upperChar_cons c
    rw [known] at raised ⊢
    obtain ⟨first, raised⟩ := List.forall_mem_cons.mp raised
    have behind := @snakeOfCamel_append _ (camelOfSnake rest) raised
    rw [camelOfSnake, known, List.cons_append, snakeOfCamel, first, behind, ih, List.head?_cons,
      Option.any_some]
    split <;> rfl
  | case4 afterLower c rest alone ends begins ih =>
    rw [camelOfSnake_cons (ne_underscore alone ends), snakeOfCamel, if_pos begins, ih]
  | case5 afterLower c rest alone ends other ih =>
    rw [camelOfSnake_cons (ne_underscore alone ends), snakeOfCamel, if_neg other, ih]

theorem notUpper_of_mem_snakeOfCamel {afterLower : Bool} {text : List Char} {d : Char}
    (member : d ∈ snakeOfCamel afterLower text) : d.isUpper = false := by
  rcases mem_snakeOfCamel member with rfl | ⟨c, -, rfl⟩
  · rfl
  · exact notUpper_toLower

theorem count_map_toLower (text : List Char) :
    (text.map Char.toLower).count '_' = text.count '_' := by
  induction text with
  | nil => rfl
  | cons c rest ih =>
    by_cases underscore : c = '_'
    · rw [underscore, List.map_cons, List.count_cons_self, ← ih]
      exact List.count_cons_self
    · rw [List.map_cons, List.count_cons_of_ne (toLower_ne_underscore underscore),
        List.count_cons_of_ne underscore, ih]

/-- In a name without capital letters no more underscores arise than there are. -/
theorem count_returned {afterLower : Bool} {text : List Char}
    (lowered : ∀ c ∈ text, c.isUpper = false) :
    (returned afterLower text).count '_' ≤ text.count '_' := by
  fun_induction returned afterLower text with
  | case1 => exact Nat.le_refl _
  | case2 => exact Nat.zero_le _
  | case3 afterLower c rest ih =>
    have begun : List.count '_'
        (if afterLower && (upperChar c).head?.any Char.isUpper then ['_'] else []) ≤ 1 := by
      split <;> simp
    have behind :=
      ih fun d later => lowered d (List.mem_cons_of_mem _ (List.mem_cons_of_mem _ later))
    rw [List.count_append, List.count_append, count_map_toLower, count_upperChar, count_pair]
    omega
  | case4 afterLower c rest alone ends begins ih =>
    rw [lowered c (List.mem_cons_self ..), Bool.and_false] at begins
    cases begins
  | case5 afterLower c rest alone ends other ih =>
    have noUnderscore := ne_underscore alone ends
    rw [List.count_cons_of_ne (toLower_ne_underscore noUnderscore),
      List.count_cons_of_ne noUnderscore]
    exact ih fun d later => lowered d (List.mem_cons_of_mem _ later)

/-- The name survives in camel case, where it stands behind a lower-case letter or not: it has no
capital letter, and each underscore has a lower-case letter on either side, the one in front not
behind another underscore. -/
def survives (afterLower : Bool) : List Char → Bool
  | [] => true
  | ['_'] => false
  | '_' :: c :: rest => afterLower && c.isLower && survives false rest
  | c :: rest => !c.isUpper && survives c.isLower rest

theorem notUpper_of_mem_returned {afterLower : Bool} {text : List Char} {d : Char}
    (member : d ∈ returned afterLower text) : d.isUpper = false := by
  rw [← snakeOfCamel_camelOfSnake_eq] at member
  exact notUpper_of_mem_snakeOfCamel member

/-- No name gets one more underscore in front. -/
theorem returned_ne_underscore_cons (afterLower : Bool) (text : List Char) :
    returned afterLower text ≠ '_' :: text := by
  intro same
  have lowered : ∀ c ∈ text, c.isUpper = false := fun c member =>
    @notUpper_of_mem_returned afterLower text c (by rw [same]; exact List.mem_cons_of_mem _ member)
  have count := @count_returned afterLower text lowered
  rw [same, List.count_cons_self] at count
  omega

theorem returned_cons {afterLower : Bool} {c : Char} {rest : List Char} (noUnderscore : c ≠ '_') :
    returned afterLower (c :: rest) =
      if afterLower && c.isUpper then '_' :: c.toLower :: returned false rest
      else c.toLower :: returned c.isLower rest := by
  rw [returned]
  · intro same
    exact absurd same noUnderscore
  · intro d others same
    exact absurd same noUnderscore

/-- An underscore survives if it stands behind a lower-case letter and in front of one. -/
theorem returned_underscore_eq_iff {afterLower : Bool} {c : Char} {rest : List Char} :
    returned afterLower ('_' :: c :: rest) = '_' :: c :: rest ↔
      (afterLower = true ∧ c.isLower = true) ∧ returned false rest = rest := by
  rw [returned]
  constructor
  · intro same
    obtain ⟨d, image, known⟩ := exists_upperChar_cons c
    rw [known, List.head?_cons, Option.any_some] at same
    split at same
    · next begins =>
      obtain ⟨follows, upper⟩ := Bool.and_eq_true_iff.mp begins
      simp only [List.map_cons, List.cons_append, List.nil_append, List.cons.injEq,
        true_and] at same
      obtain ⟨rfl, same⟩ := same
      rw [raised_of_isUpper upper, List.cons.injEq] at known
      rw [← known.2] at same
      exact ⟨⟨follows, isLower_toLower upper⟩, same⟩
    · simp only [List.map_cons, List.cons_append, List.nil_append, List.cons.injEq] at same
      obtain ⟨lowered, same⟩ := same
      obtain rfl := eq_of_toLower rfl lowered
      obtain rfl : c = '_' :=
        underscore_of_mem_upperChar (by rw [known]; exact List.mem_cons_self ..)
      rw [upperChar_underscore, List.cons.injEq] at known
      rw [← known.2] at same
      exact absurd same (returned_ne_underscore_cons false rest)
  · rintro ⟨⟨follows, lower⟩, same⟩
    have letters := letters_of_ascii (ascii_of_isLower lower)
    simp [follows, upperChar_of_isLower lower, letters.upper_of_lower lower,
      letters.back lower, same]

theorem returned_eq_iff {afterLower : Bool} {text : List Char} :
    returned afterLower text = text ↔ survives afterLower text = true := by
  fun_induction survives afterLower text with
  | case1 => simp [returned]
  | case2 => simp [returned]
  | case3 afterLower c rest ih =>
    rw [returned_underscore_eq_iff, Bool.and_eq_true, Bool.and_eq_true, ih]
  | case4 afterLower c rest alone ends ih =>
    have noUnderscore := ne_underscore alone ends
    rw [returned_cons noUnderscore]
    cases upper : c.isUpper with
    | true =>
      have lowered : c.toLower ≠ c := fun same => by simp [toLower_eq_iff.mp same] at upper
      cases afterLower with
      | true => simp [Ne.symm noUnderscore]
      | false => simp [lowered]
    | false => simp [toLower_of_notUpper upper, ih]

/-- The underscores of a name join words: a lower-case letter stands right behind each, and right
in front of it stands one that is not right behind an underscore itself. There are no capital
letters. -/
structure JoinsWords (text : List Char) : Prop where
  lowered : ∀ c ∈ text, c.isUpper = false
  followed : ∀ i, text[i]? = some '_' → ∃ c, text[i + 1]? = some c ∧ c.isLower = true
  preceded : ∀ i, text[i]? = some '_' → ∃ j c, i = j + 1 ∧ text[j]? = some c ∧ c.isLower = true ∧
    ∀ k, j = k + 1 → text[k]? ≠ some '_'

/-- The underscores of what stands behind a lower-case letter, or does not, join words. -/
structure JoinsAfter (afterLower : Bool) (text : List Char) : Prop where
  lowered : ∀ c ∈ text, c.isUpper = false
  followed : ∀ i, text[i]? = some '_' → ∃ c, text[i + 1]? = some c ∧ c.isLower = true
  preceded : ∀ i, text[i]? = some '_' → (i = 0 ∧ afterLower = true) ∨
    ∃ j c, i = j + 1 ∧ text[j]? = some c ∧ c.isLower = true ∧ ∀ k, j = k + 1 → text[k]? ≠ some '_'

theorem joinsAfter_pair {afterLower : Bool} {c : Char} {rest : List Char} :
    JoinsAfter afterLower ('_' :: c :: rest) ↔
      (afterLower = true ∧ c.isLower = true) ∧ JoinsAfter false rest := by
  constructor
  · rintro ⟨lowered, followed, preceded⟩
    have lower : c.isLower = true := by simpa using followed 0 rfl
    have first : afterLower = true := by simpa using preceded 0 rfl
    refine ⟨⟨first, lower⟩, fun d later => lowered d (by simp [later]), fun i => followed (i + 2),
      fun i here => ?_⟩
    obtain ⟨zero, -⟩ | ⟨j, d, next, found, isLower, before⟩ := preceded (i + 2) here
    · cases zero
    · obtain rfl : j = i + 1 := by omega
      cases i with
      | zero => exact absurd rfl (before 0 rfl)
      | succ i => exact .inr ⟨i, d, rfl, found, isLower, fun k same => before (k + 2) (by omega)⟩
  · rintro ⟨⟨first, lower⟩, lowered, followed, preceded⟩
    have plain : c ≠ '_' := by
      rintro rfl
      cases lower
    refine ⟨?_, fun i here => ?_, fun i here => ?_⟩
    · simp only [List.forall_mem_cons]
      exact ⟨rfl, notUpper_of_isLower lower, lowered⟩
    · match i with
      | 0 => exact ⟨c, rfl, lower⟩
      | 1 => exact absurd (Option.some.inj here) plain
      | i + 2 => exact followed i here
    · match i with
      | 0 => exact .inl ⟨rfl, first⟩
      | 1 => exact absurd (Option.some.inj here) plain
      | i + 2 =>
        obtain ⟨-, absurd⟩ | ⟨j, d, rfl, found, isLower, before⟩ := preceded i here
        · cases absurd
        · refine .inr ⟨j + 2, d, rfl, found, isLower, fun k same => ?_⟩
          obtain rfl : k = j + 1 := by omega
          cases j with
          | zero => exact fun same => plain (Option.some.inj same)
          | succ j => exact before j rfl

theorem joinsAfter_cons {afterLower : Bool} {c : Char} {rest : List Char} (noUnderscore : c ≠ '_') :
    JoinsAfter afterLower (c :: rest) ↔ c.isUpper = false ∧ JoinsAfter c.isLower rest := by
  constructor
  · rintro ⟨lowered, followed, preceded⟩
    obtain ⟨first, lowered⟩ := List.forall_mem_cons.mp lowered
    refine ⟨first, lowered, fun i => followed (i + 1), fun i here => ?_⟩
    obtain ⟨zero, -⟩ | ⟨j, d, next, found, isLower, before⟩ := preceded (i + 1) here
    · cases zero
    · obtain rfl : j = i := by omega
      cases j with
      | zero =>
        rw [← Option.some.inj found] at isLower
        exact .inl ⟨rfl, isLower⟩
      | succ j => exact .inr ⟨j, d, rfl, found, isLower, fun k same => before (k + 1) (by omega)⟩
  · rintro ⟨first, lowered, followed, preceded⟩
    refine ⟨List.forall_mem_cons.mpr ⟨first, lowered⟩, fun i here => ?_, fun i here => ?_⟩
    · cases i with
      | zero => exact absurd (Option.some.inj here) noUnderscore
      | succ i => exact followed i here
    · cases i with
      | zero => exact absurd (Option.some.inj here) noUnderscore
      | succ i =>
        obtain ⟨rfl, isLower⟩ | ⟨j, d, rfl, found, isLower, before⟩ := preceded i here
        · exact .inr ⟨0, c, rfl, rfl, isLower, fun k same => by cases same⟩
        · refine .inr ⟨j + 1, d, rfl, found, isLower, fun k same => ?_⟩
          obtain rfl : k = j := by omega
          cases k with
          | zero => exact fun same => noUnderscore (Option.some.inj same)
          | succ k => exact before k rfl

theorem survives_iff {afterLower : Bool} {text : List Char} :
    survives afterLower text = true ↔ JoinsAfter afterLower text := by
  fun_induction survives afterLower text with
  | case1 => exact ⟨fun _ => ⟨by simp, by simp, by simp⟩, fun _ => rfl⟩
  | case2 =>
    constructor
    · intro survived
      cases survived
    · intro joins
      obtain ⟨c, found, -⟩ := joins.followed 0 rfl
      cases found
  | case3 afterLower c rest ih => rw [Bool.and_eq_true, Bool.and_eq_true, ih, joinsAfter_pair]
  | case4 afterLower c rest alone ends ih =>
    rw [Bool.and_eq_true, Bool.not_eq_true', ih, joinsAfter_cons (ne_underscore alone ends)]

theorem joinsWords_iff {text : List Char} : JoinsWords text ↔ JoinsAfter false text :=
  ⟨fun ⟨lowered, followed, preceded⟩ => ⟨lowered, followed, fun i here => .inr (preceded i here)⟩,
    fun ⟨lowered, followed, preceded⟩ =>
      ⟨lowered, followed, fun i here => by simpa using preceded i here⟩⟩

theorem survives_cons {afterLower : Bool} {c : Char} {rest : List Char} (noUnderscore : c ≠ '_') :
    survives afterLower (c :: rest) = (!c.isUpper && survives c.isLower rest) := by
  rw [survives]
  · intro same
    exact absurd same noUnderscore
  · intro d others same
    exact absurd same noUnderscore

/-- Behind a character that is no lower-case letter no underscore may come first. -/
theorem survives_false_iff {text : List Char} (afterLower : Bool) :
    survives false text = true ↔ survives afterLower text = true ∧ text.head? ≠ some '_' := by
  cases text with
  | nil => simp [survives]
  | cons c rest =>
    by_cases underscore : c = '_'
    · subst underscore
      cases rest <;> simp [survives]
    · simp [survives_cons underscore, underscore]

/-- A name in Pascal case that comes back begins with what its first character is lowered to. -/
theorem snakeOfCamel_raiseFirst_cons {c : Char} {rest : List Char} (noUnderscore : c ≠ '_') :
    snakeOfCamel false (raiseFirst (camelOfSnake (c :: rest))) =
      (upperChar c).map Char.toLower ++ returned false rest := by
  rw [camelOfSnake_cons noUnderscore, raiseFirst,
    snakeOfCamel_append fun d => notLower_of_mem_upperChar, snakeOfCamel_camelOfSnake_eq]

theorem map_toLower_upperChar_append {c : Char} {rest behind : List Char} :
    (upperChar c).map Char.toLower ++ behind = c :: rest ↔
      c.isUpper = false ∧ (c.isLower = true ∨ upperChar c = [c]) ∧ behind = rest := by
  constructor
  · intro same
    obtain ⟨d, image, known⟩ := exists_upperChar_cons c
    rw [known, List.map_cons, List.cons_append, List.cons.injEq] at same
    obtain ⟨rfl, same⟩ := same
    refine ⟨notUpper_toLower, ?_⟩
    cases upper : d.isUpper with
    | true =>
      rw [raised_of_isUpper upper, List.cons.injEq] at known
      rw [← known.2] at same
      exact ⟨.inl (isLower_toLower upper), same⟩
    | false =>
      rw [toLower_of_notUpper upper] at known ⊢
      have alone : upperChar d = [d] := upperChar_of_head (by rw [known, List.head?_cons])
      rw [alone, List.cons.injEq] at known
      rw [← known.2] at same
      exact ⟨.inr alone, same⟩
  · rintro ⟨notUpper, lower | alone, rfl⟩
    · rw [upperChar_of_isLower lower, List.map_singleton,
        (letters_of_ascii (ascii_of_isLower lower)).back lower, List.singleton_append]
    · rw [alone, List.map_singleton, toLower_of_notUpper notUpper, List.singleton_append]

/-- No name that begins with an underscore comes back from Pascal case. -/
theorem snakeOfCamel_raiseFirst_ne {rest : List Char} :
    snakeOfCamel false (raiseFirst (camelOfSnake ('_' :: rest))) ≠ '_' :: rest := by
  cases rest with
  | nil => exact fun same => by cases same
  | cons c rest =>
    intro same
    obtain ⟨d, image, known⟩ := exists_upperChar_cons c
    have raised : ∀ e ∈ upperChar d ++ image, e.isLower = false := by
      intro e member
      rcases List.mem_append.mp member with first | later
      · exact notLower_of_mem_upperChar first
      · exact notLower_of_mem_upperChar (by rw [known]; exact List.mem_cons_of_mem _ later)
    obtain ⟨e, others, image_d⟩ := exists_upperChar_cons d
    rw [camelOfSnake, known, List.cons_append, raiseFirst, ← List.append_assoc,
      snakeOfCamel_append raised, snakeOfCamel_camelOfSnake_eq, image_d] at same
    simp only [List.cons_append, List.map_cons, List.cons.injEq] at same
    obtain ⟨lowered, same⟩ := same
    obtain rfl := eq_of_toLower rfl lowered
    obtain rfl : d = '_' :=
      underscore_of_mem_upperChar (by rw [image_d]; exact List.mem_cons_self ..)
    obtain rfl : c = '_' := underscore_of_mem_upperChar (by rw [known]; exact List.mem_cons_self ..)
    rw [upperChar_underscore, List.cons.injEq] at known image_d
    rw [← known.2, ← image_d.2] at same
    exact returned_ne_underscore_cons false rest same

/-- The name begins, if at all, with a lower-case letter of ASCII or a character without upper case,
and not with a word of one character. -/
structure BeginsLower (text : List Char) : Prop where
  first : ∀ c ∈ text.head?, c.isLower = true ∨ upper [c] = [c]
  second : text[1]? ≠ some '_'

theorem snakeOfCamel_raiseFirst_eq_iff {text : List Char} :
    snakeOfCamel false (raiseFirst (camelOfSnake text)) = text ↔
      JoinsWords text ∧ BeginsLower text := by
  rw [joinsWords_iff, ← survives_iff]
  cases text with
  | nil => exact ⟨fun _ => ⟨rfl, by simp, by simp⟩, fun _ => rfl⟩
  | cons c rest =>
    by_cases underscore : c = '_'
    · subst underscore
      have lost : survives false ('_' :: rest) = false := by cases rest <;> simp [survives]
      simp [snakeOfCamel_raiseFirst_ne, lost]
    · have alone : upper [c] = upperChar c := List.flatMap_singleton ..
      have begins : BeginsLower (c :: rest) ↔
          (c.isLower = true ∨ upperChar c = [c]) ∧ rest.head? ≠ some '_' := by
        rw [← alone, List.head?_eq_getElem?]
        exact ⟨fun ⟨first, second⟩ => ⟨first c rfl, second⟩,
          fun ⟨first, second⟩ => ⟨fun d same => Option.some.inj same ▸ first, second⟩⟩
      rw [snakeOfCamel_raiseFirst_cons underscore, map_toLower_upperChar_append, returned_eq_iff,
        survives_false_iff c.isLower, survives_cons underscore, begins, Bool.and_eq_true,
          Bool.not_eq_true']
      tauto

/-- Written in camel case and back a name is the same exactly if its underscores join words and it
has no capital letter, and in Pascal case and back exactly if it also begins in lower case and not
with a word of one character. The camel or Pascal case of such names tells them apart. -/
theorem ofCamel_camel_iff :
    (∀ name : Name, (ofCamel name.camel).snake = name.snake ↔ JoinsWords name.snake.toList) ∧
    (∀ name : Name, (ofPascal name.pascal).snake = name.snake ↔
      JoinsWords name.snake.toList ∧ BeginsLower name.snake.toList) ∧
    Set.InjOn camel {name | JoinsWords name.snake.toList} ∧
    Set.InjOn pascal {name | JoinsWords name.snake.toList ∧ BeginsLower name.snake.toList} := by
  have camelBack (name : Name) :
      (ofCamel name.camel).snake = name.snake ↔ JoinsWords name.snake.toList := by
    rw [← String.toList_inj, ofCamel, String.toList_ofList, Name.camel, String.toList_ofList,
      snakeOfCamel_camelOfSnake_eq, returned_eq_iff, survives_iff, joinsWords_iff]
  have pascalBack (name : Name) : (ofPascal name.pascal).snake = name.snake ↔
      JoinsWords name.snake.toList ∧ BeginsLower name.snake.toList := by
    rw [← String.toList_inj, snake_ofPascal, Name.pascal, String.toList_ofList,
      snakeOfCamel_raiseFirst_eq_iff]
  refine ⟨camelBack, pascalBack, fun name joins other joined same => ?_,
    fun name joins other joined same => ?_⟩
  · have snakes := (camelBack name).mpr joins
    rw [same, (camelBack other).mpr joined] at snakes
    exact congrArg Name.mk snakes.symm
  · have snakes := (pascalBack name).mpr joins
    rw [same, (pascalBack other).mpr joined] at snakes
    exact congrArg Name.mk snakes.symm

end Name

end WireModel
