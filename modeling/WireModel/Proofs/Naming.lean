import Mathlib.Data.List.Basic
import Mathlib.Tactic.MkIffOfInductiveProp
import WireModel.Render.PythonName
import WireModel.Text.Normalization

/-!
Names in their four styles. Converting a name changes only its case and its underscores, and so
names stay apart that differ in anything else; names in the style that is expected of them come back
as they were.
-/

namespace WireModel

namespace Text

/-- A character whatever its case; an underscore is none. -/
def caselessChar (c : Char) : List Char :=
  if c = '_' then [] else [c.toLower]

/-- What changing its case makes of a character: it stays in ASCII, no underscore comes or goes, and
a letter has one form in either case. -/
@[mk_iff]
structure KeepsCase (c : Char) : Prop where
  upper_image : imageOf [] (CaseData.upper.take 1) c = [c.toUpper]
  lower_image : imageOf [] (CaseData.lower.take 1) c = [c.toLower]
  upper_ascii : c.toUpper.toNat < 0x80
  lower_ascii : c.toLower.toNat < 0x80
  upper_underscore : c ≠ '_' → c.toUpper ≠ '_'
  lower_underscore : c ≠ '_' → c.toLower ≠ '_'
  upper_caseless : caselessChar c.toUpper = caselessChar c
  lower_caseless : caselessChar c.toLower = caselessChar c
  upper_notLower : c.toUpper.isLower = false
  lower_lower : c.toLower.toLower = c.toLower
  upper_lower : c.toUpper.toLower = c.toLower
  lower_upper : c.isLower = false → c.toLower.toUpper = c
  notLower : c.isUpper = true → c.isLower = false
  kept : ¬ c.isUpper = true → c.toLower = c
  tabled : c.isLower = true → inRanges CaseData.isLower c = true

instance : DecidablePred KeepsCase :=
  fun c => decidable_of_iff' _ (keepsCase_iff c)

/-- What holds of the first code points holds of all characters of ASCII. -/
theorem forall_ascii {motive : Char → Prop}
    (each : ∀ code < 0x80, motive (Char.ofNat code)) {c : Char}
    (ascii : c.toNat < 0x80) : motive c := by
  rw [← Char.ofNat_toNat c]
  exact each c.toNat ascii

theorem keepsCase {c : Char} (ascii : c.toNat < 0x80) : KeepsCase c :=
  forall_ascii (by decide +kernel) ascii

/-- Only a letter becomes one in lower case. -/
theorem eq_of_toLower {c d : Char} (noLetter : d.isLower = false)
    (lowered : c.toLower = d) : c = d := by
  subst lowered
  by_cases capital : c.val ≥ 'A'.val ∧ c.val ≤ 'Z'.val
  · have ascii : c.toNat < 0x80 := Nat.lt_of_le_of_lt capital.2 (by decide)
    exact forall_ascii (motive := fun c => c.toLower.isLower = false → c = c.toLower)
      (by decide) ascii noLetter
  · show c = dite (c.val ≥ 'A'.val ∧ c.val ≤ 'Z'.val) _ fun _ => c
    rw [dif_neg capital]

def isAscii (text : List Char) : Bool :=
  text.all fun c => c.toNat < 0x80

theorem isAscii_cons {c : Char} {rest : List Char} :
    isAscii (c :: rest) = true ↔ c.toNat < 0x80 ∧ isAscii rest = true := by
  simp [isAscii]

theorem ascii_of_mem {c : Char} {text : List Char} (ascii : isAscii text = true)
    (member : c ∈ text) :
    c.toNat < 0x80 :=
  of_decide_eq_true (List.all_eq_true.mp ascii c member)

theorem isAscii_append {text other : List Char} :
    isAscii (text ++ other) = true ↔ isAscii text = true ∧ isAscii other = true := by
  simp [isAscii]

theorem isAscii_map {change : Char → Char}
    (kept : ∀ {c : Char}, c.toNat < 0x80 → (change c).toNat < 0x80) {text : List Char}
    (ascii : isAscii text = true) : isAscii (text.map change) = true := by
  induction text with
  | nil => rfl
  | cons c rest ih =>
    obtain ⟨first, others⟩ := isAscii_cons.mp ascii
    exact isAscii_cons.mpr ⟨kept first, ih others⟩

/-- The text begins otherwise than with an underscore. -/
def beginsPlain (text : List Char) : Bool :=
  text.head? != some '_'

theorem beginsPlain_map {change : Char → Char}
    (kept : ∀ {c : Char}, c.toNat < 0x80 → c ≠ '_' → change c ≠ '_') {text : List Char}
    (ascii : isAscii text = true) (plain : beginsPlain text = true) :
    beginsPlain (text.map change) = true := by
  cases text with
  | nil => rfl
  | cons c rest =>
    have differs : c ≠ '_' := by simpa [beginsPlain] using plain
    simpa [beginsPlain] using kept (isAscii_cons.mp ascii).1 differs

theorem normalized_of_isAscii {text : String} (ascii : isAscii text.toList = true) :
    normalized text = text :=
  if_pos ascii

/-- What a table says of ASCII stands in its first range. -/
structure TellsAsciiFirst (expansions : List (Nat × List Nat))
    (ranges : List CharRange) : Prop where
  expansions : ∀ expansion ∈ expansions, 0x80 ≤ expansion.1
  ranges : ∀ range ∈ ranges.drop 1, 0x80 ≤ range.first

/-- Such a table gives the same image of a character of ASCII as its first range alone. -/
theorem imageOf_ascii {expansions : List (Nat × List Nat)} {ranges : List CharRange}
    (tells : TellsAsciiFirst expansions ranges) {c : Char} (ascii : c.toNat < 0x80) :
    imageOf expansions ranges c = imageOf [] (ranges.take 1) c := by
  have unexpanded : expansions.lookup c.toNat = none := by
    rw [List.lookup_eq_none_iff]
    intro expansion member
    have above := tells.expansions expansion member
    have differ : c.toNat ≠ expansion.1 := by omega
    simpa using differ
  have unmoved : (ranges.drop 1).findSome? (·.image? c.toNat) = none := by
    rw [List.findSome?_eq_none_iff]
    intro range member
    have above := tells.ranges range member
    rw [CharRange.image?, if_neg (by omega)]
  have first : ranges.findSome? (·.image? c.toNat) =
      (ranges.take 1).findSome? (·.image? c.toNat) := by
    conv => lhs; rw [← List.take_append_drop 1 ranges, List.findSome?_append, unmoved]
    exact Option.or_none
  rw [imageOf, imageOf, unexpanded, first]
  rfl

theorem caseTables_tellAsciiFirst : TellsAsciiFirst CaseData.upperExpansions CaseData.upper ∧
    TellsAsciiFirst CaseData.lowerExpansions CaseData.lower := by
  have expansions : ∀ expansion ∈ CaseData.upperExpansions ++ CaseData.lowerExpansions,
      0x80 ≤ expansion.1 := by decide +kernel
  have ranges : ∀ range ∈ CaseData.upper.drop 1 ++ CaseData.lower.drop 1, 0x80 ≤ range.first := by
    decide +kernel
  rw [List.forall_mem_append] at expansions ranges
  exact ⟨⟨expansions.1, ranges.1⟩, ⟨expansions.2, ranges.2⟩⟩

theorem upperChar_of_ascii {c : Char} (ascii : c.toNat < 0x80) : upperChar c = [c.toUpper] :=
  (imageOf_ascii caseTables_tellAsciiFirst.1 ascii).trans (keepsCase ascii).upper_image

theorem lowerChar_of_ascii {c : Char} (ascii : c.toNat < 0x80) : lowerChar c = [c.toLower] :=
  (imageOf_ascii caseTables_tellAsciiFirst.2 ascii).trans (keepsCase ascii).lower_image

/-- A text in upper case has no lower-case letter of ASCII. -/
theorem isLower_of_isUpperText {text : List Char} (ascii : isAscii text = true)
    (isUpper : isUpperText text = true) {c : Char} (member : c ∈ text) : c.isLower = false := by
  by_contra lowered
  rw [Bool.not_eq_false] at lowered
  rw [isUpperText, Bool.and_eq_true, Bool.not_eq_true', List.any_eq_false] at isUpper
  have absent := isUpper.2 c member
  rw [(keepsCase (ascii_of_mem ascii member)).tabled lowered] at absent
  exact absent rfl

theorem upper_of_isAscii {text : List Char} (ascii : isAscii text = true) :
    upper text = text.map Char.toUpper := by
  induction text with
  | nil => rfl
  | cons c rest ih =>
    obtain ⟨first, others⟩ := isAscii_cons.mp ascii
    rw [upper, List.flatMap_cons, upperChar_of_ascii first, List.map_cons, ← ih others]
    rfl

theorem lower_of_isAscii {text : List Char} (ascii : isAscii text = true) :
    lower text = text.map Char.toLower := by
  have after (afterCased : Bool) : lowerAfter afterCased text = text.map Char.toLower := by
    induction text generalizing afterCased with
    | nil => rfl
    | cons c rest ih =>
      obtain ⟨first, others⟩ := isAscii_cons.mp ascii
      have differs : c ≠ 'Σ' := by
        rintro rfl
        exact absurd first (by decide)
      rw [lowerAfter, lowerBetween, if_neg differs, lowerChar_of_ascii first, ih others,
        List.map_cons]
      rfl
  exact after false

/-- A character that may neither begin an identifier nor go on with one is in none. -/
theorem not_mem_identifier {c : Char} (starts : isIdentifierStart c = false)
    (continues : isIdentifierContinuation c = false) {text : String}
    (identifier : isIdentifier text = true) : c ∉ text.toList := by
  unfold isIdentifier at identifier
  split at identifier
  · cases identifier
  rename_i first rest same
  rw [same, List.mem_cons]
  rw [Bool.and_eq_true, List.all_eq_true] at identifier
  rintro (rfl | member)
  · rw [starts] at identifier
    cases identifier.1
  · have found := identifier.2 _ member
    rw [continues] at found
    cases found

/-- The letters and digits of a text, whatever their case and the underscores between them. -/
def caseless (text : List Char) : List Char :=
  text.flatMap caselessChar

theorem caseless_cons {c : Char} {rest : List Char} :
    caseless (c :: rest) = caselessChar c ++ caseless rest :=
  List.flatMap_cons

/-- Changing the case of characters changes no letters. -/
theorem caseless_map {change : Char → Char}
    (kept : ∀ {c : Char}, c.toNat < 0x80 → caselessChar (change c) = caselessChar c)
    {text : List Char}
    (ascii : isAscii text = true) : caseless (text.map change) = caseless text := by
  induction text with
  | nil => rfl
  | cons c rest ih =>
    obtain ⟨first, others⟩ := isAscii_cons.mp ascii
    rw [List.map_cons, caseless_cons, caseless_cons, kept first, ih others]

end Text

open Text

namespace Name

theorem snakeOfCamel_ascii {afterLower : Bool} {text : List Char} (ascii : isAscii text = true) :
    isAscii (snakeOfCamel afterLower text) = true := by
  induction text generalizing afterLower with
  | nil => rfl
  | cons c rest ih =>
    obtain ⟨first, others⟩ := isAscii_cons.mp ascii
    rw [snakeOfCamel]
    split
    · exact isAscii_cons.mpr
        ⟨by decide, isAscii_cons.mpr ⟨(keepsCase first).lower_ascii, ih others⟩⟩
    · exact isAscii_cons.mpr ⟨(keepsCase first).lower_ascii, ih others⟩

/-- Snake case has the characters of camel case, in lower case, and underscores. -/
theorem mem_snakeOfCamel {afterLower : Bool} {text : List Char} {d : Char}
    (member : d ∈ snakeOfCamel afterLower text) : d = '_' ∨ ∃ c ∈ text, c.toLower = d := by
  induction text generalizing afterLower with
  | nil => cases member
  | cons c rest ih =>
    have later (inside : d ∈ snakeOfCamel false rest ∨ d ∈ snakeOfCamel c.isLower rest) :
        d = '_' ∨ ∃ c' ∈ c :: rest, c'.toLower = d := by
      rcases inside.elim ih ih with underscore | ⟨e, inside, lowered⟩
      · exact .inl underscore
      · exact .inr ⟨e, List.mem_cons_of_mem _ inside, lowered⟩
    rw [snakeOfCamel] at member
    split at member
    · rcases List.mem_cons.mp member with underscore | behind
      · exact .inl underscore
      rcases List.mem_cons.mp behind with rfl | inside
      · exact .inr ⟨c, List.mem_cons_self .., rfl⟩
      · exact later (.inl inside)
    · rcases List.mem_cons.mp member with rfl | inside
      · exact .inr ⟨c, List.mem_cons_self .., rfl⟩
      · exact later (.inr inside)

theorem not_mem_snakeOfCamel {afterLower : Bool} {text : List Char} {d : Char}
    (noLetter : d.isLower = false)
    (noUnderscore : d ≠ '_') (absent : d ∉ text) : d ∉ snakeOfCamel afterLower text := by
  intro member
  rcases mem_snakeOfCamel member with underscore | ⟨c, inside, lowered⟩
  · exact noUnderscore underscore
  · exact absent (Text.eq_of_toLower noLetter lowered ▸ inside)

theorem camelOfSnake_ascii {text : List Char} (ascii : isAscii text = true) :
    isAscii (camelOfSnake text) = true := by
  fun_induction camelOfSnake text with
  | case1 => rfl
  | case2 => rfl
  | case3 c rest ih =>
    obtain ⟨first, others⟩ := isAscii_cons.mp (isAscii_cons.mp ascii).2
    rw [upperChar_of_ascii first]
    exact isAscii_cons.mpr ⟨(keepsCase first).upper_ascii, ih others⟩
  | case4 c rest _ _ ih =>
    obtain ⟨first, others⟩ := isAscii_cons.mp ascii
    exact isAscii_cons.mpr ⟨first, ih others⟩

theorem raiseFirst_ascii {text : List Char} (ascii : isAscii text = true) :
    isAscii (raiseFirst text) = true := by
  cases text with
  | nil => rfl
  | cons c rest =>
    obtain ⟨first, others⟩ := isAscii_cons.mp ascii
    rw [raiseFirst, upperChar_of_ascii first]
    exact isAscii_cons.mpr ⟨(keepsCase first).upper_ascii, others⟩

/-- No letter in snake case from camel case is in upper case. -/
theorem snakeOfCamel_lowered {afterLower : Bool} {text : List Char} (ascii : isAscii text = true) :
    (snakeOfCamel afterLower text).map Char.toLower = snakeOfCamel afterLower text := by
  induction text generalizing afterLower with
  | nil => rfl
  | cons c rest ih =>
    obtain ⟨first, others⟩ := isAscii_cons.mp ascii
    have lowered := (keepsCase first).lower_lower
    have underscore : ('_' : Char).toLower = '_' := rfl
    rw [snakeOfCamel]
    split
    · rw [List.map_cons, List.map_cons, lowered, ih others, underscore]
    · rw [List.map_cons, lowered, ih others]

theorem caseless_snakeOfCamel {afterLower : Bool} {text : List Char} (ascii : isAscii text = true) :
    caseless (snakeOfCamel afterLower text) = caseless text := by
  induction text generalizing afterLower with
  | nil => rfl
  | cons c rest ih =>
    obtain ⟨first, others⟩ := isAscii_cons.mp ascii
    rw [snakeOfCamel, caseless_cons]
    split
    · rw [caseless_cons, caseless_cons, (keepsCase first).lower_caseless, ih others]
      rfl
    · rw [caseless_cons, (keepsCase first).lower_caseless, ih others]

theorem caseless_camelOfSnake {text : List Char} (ascii : isAscii text = true) :
    caseless (camelOfSnake text) = caseless text := by
  fun_induction camelOfSnake text with
  | case1 => rfl
  | case2 => rfl
  | case3 c rest ih =>
    obtain ⟨first, others⟩ := isAscii_cons.mp (isAscii_cons.mp ascii).2
    have dropped : caselessChar '_' = [] := rfl
    rw [upperChar_of_ascii first, List.singleton_append, caseless_cons, caseless_cons,
      caseless_cons, (keepsCase first).upper_caseless, ih others, dropped, List.nil_append]
  | case4 c rest _ _ ih =>
    rw [caseless_cons, caseless_cons, ih (isAscii_cons.mp ascii).2]

theorem caseless_raiseFirst {text : List Char} (ascii : isAscii text = true) :
    caseless (raiseFirst text) = caseless text := by
  cases text with
  | nil => rfl
  | cons c rest =>
    have first := (isAscii_cons.mp ascii).1
    rw [raiseFirst, upperChar_of_ascii first, List.singleton_append, caseless_cons, caseless_cons,
      (keepsCase first).upper_caseless]

variable {name : Name} {text other : String}

theorem toList_upperSnake (ascii : isAscii name.snake.toList = true) :
    name.upperSnake.toList = name.snake.toList.map Char.toUpper := by
  rw [upperSnake, String.toList_ofList, upper_of_isAscii ascii]

theorem isAscii_upperSnake (ascii : isAscii name.snake.toList = true) :
    isAscii name.upperSnake.toList = true := by
  rw [toList_upperSnake ascii]
  exact isAscii_map (fun ascii => (keepsCase ascii).upper_ascii) ascii

/-- A name in upper snake case has the letters of the name. -/
theorem caseless_upperSnake (ascii : isAscii name.snake.toList = true) :
    caseless name.upperSnake.toList = caseless name.snake.toList := by
  rw [toList_upperSnake ascii, caseless_map (fun ascii => (keepsCase ascii).upper_caseless) ascii]

theorem upperSnake_beginsPlain (ascii : isAscii name.snake.toList = true)
    (plain : beginsPlain name.snake.toList = true) : beginsPlain name.upperSnake.toList = true := by
  rw [toList_upperSnake ascii]
  exact beginsPlain_map (fun ascii => (keepsCase ascii).upper_underscore) ascii plain

/-- A name in upper snake case has no lower-case letter. -/
theorem upperSnake_isLower (ascii : isAscii name.snake.toList = true) {c : Char}
    (member : c ∈ name.upperSnake.toList) : c.isLower = false := by
  rw [toList_upperSnake ascii] at member
  obtain ⟨d, inside, rfl⟩ := List.mem_map.mp member
  exact (keepsCase (ascii_of_mem ascii inside)).upper_notLower

theorem snake_ofUpperSnake (ascii : isAscii text.toList = true) :
    (ofUpperSnake text).snake.toList = text.toList.map Char.toLower := by
  rw [ofUpperSnake, String.toList_ofList, lower_of_isAscii ascii]

theorem isAscii_ofUpperSnake (ascii : isAscii text.toList = true) :
    isAscii (ofUpperSnake text).snake.toList = true := by
  rw [snake_ofUpperSnake ascii]
  exact isAscii_map (fun ascii => (keepsCase ascii).lower_ascii) ascii

theorem snake_ofUpperSnake_beginsPlain (ascii : isAscii text.toList = true)
    (plain : beginsPlain text.toList = true) :
    beginsPlain (ofUpperSnake text).snake.toList = true := by
  rw [snake_ofUpperSnake ascii]
  exact beginsPlain_map (fun ascii => (keepsCase ascii).lower_underscore) ascii plain

/-- A name in upper snake case comes back as it was. -/
theorem upperSnake_ofUpperSnake (ascii : isAscii text.toList = true)
    (isUpper : ∀ c ∈ text.toList, c.isLower = false) : (ofUpperSnake text).upperSnake = text := by
  have each : ∀ c ∈ text.toList, c.toLower.toUpper = c := fun c member =>
    (keepsCase (ascii_of_mem ascii member)).lower_upper (isUpper c member)
  rw [← String.toList_inj, toList_upperSnake (isAscii_ofUpperSnake ascii), snake_ofUpperSnake ascii,
    List.map_map]
  exact (List.map_congr_left each).trans (List.map_id _)

theorem snake_ofPascal : (ofPascal text).snake.toList = snakeOfCamel false text.toList := by
  rw [ofPascal, ofCamel, String.toList_ofList]

theorem isAscii_snake (ascii : isAscii text.toList = true) :
    isAscii (ofPascal text).snake.toList = true := by
  rw [snake_ofPascal]
  exact snakeOfCamel_ascii ascii

theorem isAscii_pascal (ascii : isAscii text.toList = true) :
    isAscii (ofPascal text).pascal.toList = true := by
  rw [pascal, String.toList_ofList]
  exact raiseFirst_ascii (camelOfSnake_ascii (isAscii_snake ascii))

/-- A name in Pascal case has the letters of the text that it was read from. -/
theorem caseless_pascal (ascii : isAscii text.toList = true) :
    caseless (ofPascal text).pascal.toList = caseless text.toList := by
  have snake := isAscii_snake ascii
  rw [pascal, String.toList_ofList, caseless_raiseFirst (camelOfSnake_ascii snake),
    caseless_camelOfSnake snake, snake_ofPascal, caseless_snakeOfCamel ascii]

/-- A name in upper snake case tells the name. -/
theorem eq_of_upperSnake (ascii : isAscii text.toList = true)
    (otherAscii : isAscii other.toList = true)
    (same : (ofPascal text).upperSnake = (ofPascal other).upperSnake) :
    ofPascal text = ofPascal other := by
  have lowered {text : String} (ascii : isAscii text.toList = true) :
      (ofPascal text).upperSnake.toList.map Char.toLower = (ofPascal text).snake.toList := by
    have each : ∀ c ∈ (ofPascal text).snake.toList, c.toUpper.toLower = c.toLower :=
      fun c member => (keepsCase (ascii_of_mem (isAscii_snake ascii) member)).upper_lower
    rw [toList_upperSnake (isAscii_snake ascii), List.map_map]
    refine (List.map_congr_left each).trans ?_
    rw [snake_ofPascal, snakeOfCamel_lowered ascii]
  have snakes := lowered otherAscii
  rw [← same, lowered ascii] at snakes
  exact congrArg Name.mk (String.toList_inj.mp snakes)

theorem snake_beginsPlain (ascii : isAscii text.toList = true)
    (plain : beginsPlain text.toList = true) : beginsPlain (ofPascal text).snake.toList = true := by
  rw [snake_ofPascal]
  cases spelled : text.toList with
  | nil => rfl
  | cons c rest =>
    rw [spelled] at ascii plain
    have differs : c ≠ '_' := by simpa [beginsPlain] using plain
    simpa [snakeOfCamel, beginsPlain] using
      (keepsCase (isAscii_cons.mp ascii).1).lower_underscore differs

/-- A name in Pascal case does not begin with a lower-case letter. -/
theorem pascal_head (ascii : isAscii text.toList = true) {c : Char}
    (first : (ofPascal text).pascal.toList.head? = some c) : c.isLower = false := by
  have camelAscii := camelOfSnake_ascii (isAscii_snake ascii)
  rw [pascal, String.toList_ofList] at first
  cases spelled : camelOfSnake (ofPascal text).snake.toList with
  | nil =>
    rw [spelled] at first
    cases first
  | cons d rest =>
    rw [spelled] at first camelAscii
    have initial := (isAscii_cons.mp camelAscii).1
    rw [raiseFirst, upperChar_of_ascii initial] at first
    cases first
    exact (keepsCase initial).upper_notLower

/-- Upper-case letters begin words: they stand right behind lower-case ones. -/
def isCamelCase (afterLower : Bool) : List Char → Bool
  | [] => true
  | c :: rest => c != '_' && (!c.isUpper || afterLower) && isCamelCase c.isLower rest

/-- The text is in Pascal case: it begins with an upper-case letter and goes on in camel case. -/
def isPascalCase (text : List Char) : Bool :=
  match text with
  | [] => false
  | c :: rest => c.isUpper && isCamelCase false rest

theorem camelOfSnake_cons {c : Char} {rest : List Char} (noUnderscore : c ≠ '_') :
    camelOfSnake (c :: rest) = c :: camelOfSnake rest := by
  rw [camelOfSnake]
  · intro same
    exact absurd same noUnderscore
  · intro d others same
    exact absurd same noUnderscore

theorem camelOfSnake_snakeOfCamel {afterLower : Bool} {text : List Char}
    (ascii : isAscii text = true) (camel : isCamelCase afterLower text = true) :
    camelOfSnake (snakeOfCamel afterLower text) = text := by
  induction text generalizing afterLower with
  | nil => rfl
  | cons c rest ih =>
    obtain ⟨first, others⟩ := isAscii_cons.mp ascii
    simp only [isCamelCase, Bool.and_eq_true, Bool.or_eq_true, bne_iff_ne,
      Bool.not_eq_true'] at camel
    obtain ⟨⟨noUnderscore, begins⟩, camel⟩ := camel
    have ih := ih others camel
    rw [snakeOfCamel]
    by_cases raised : c.isUpper = true
    · have follows : afterLower = true := begins.resolve_left (by simp [raised])
      have notLower := (keepsCase first).notLower raised
      have back := (keepsCase first).lower_upper notLower
      rw [notLower] at ih
      rw [if_pos (by simp [raised, follows]), camelOfSnake,
        upperChar_of_ascii (keepsCase first).lower_ascii, back, ih, List.singleton_append]
    · have kept := (keepsCase first).kept raised
      rw [if_neg (by simp [raised]), kept, camelOfSnake_cons noUnderscore, ih]

/-- A name in Pascal case comes back as it was. -/
theorem pascal_of_isPascalCase (ascii : isAscii text.toList = true)
    (pascalCase : isPascalCase text.toList = true) : (ofPascal text).pascal = text := by
  rw [← String.toList_inj, pascal, String.toList_ofList, snake_ofPascal]
  cases spelled : text.toList with
  | nil => rfl
  | cons c rest =>
    rw [spelled] at ascii pascalCase
    obtain ⟨first, others⟩ := isAscii_cons.mp ascii
    obtain ⟨raised, camel⟩ := Bool.and_eq_true_iff.mp pascalCase
    have notLower := (keepsCase first).notLower raised
    have back := (keepsCase first).lower_upper notLower
    have noUnderscore : c.toLower ≠ '_' := by
      refine (keepsCase first).lower_underscore ?_
      rintro rfl
      cases raised
    rw [snakeOfCamel, Bool.false_and, if_neg Bool.false_ne_true, camelOfSnake_cons noUnderscore,
      raiseFirst, upperChar_of_ascii (keepsCase first).lower_ascii, back, notLower,
      camelOfSnake_snakeOfCamel others camel, List.singleton_append]

end Name

end WireModel
