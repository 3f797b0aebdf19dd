import Mathlib.Algebra.Group.Nat.Defs
import WireModel.Proofs.Codec.RoundTrip

/-!
Keys of maps. The text of a key is read back as the key. Where keys are texts or constants nothing
else is read, and so a decoded map has an entry for each entry of the object; truth values and
integers are read from more texts than those that keys are written as.
-/

namespace WireModel

namespace Text

/-- The character stands in the spelling of an integer. -/
def isInteger (c : Char) : Bool :=
  c.isDigit || c == '-'

private theorem ascii_of_isInteger {c : Char} (inside : isInteger c = true) : c.toNat < 0x80 := by
  rw [isInteger, Bool.or_eq_true, beq_iff_eq] at inside
  rcases inside with digit | rfl
  · simp only [Char.isDigit, Bool.and_eq_true, decide_eq_true_eq] at digit
    exact Nat.lt_of_le_of_lt digit.2 (by decide)
  · decide

private theorem spelled {c : Char} (inside : isInteger c = true) :
    isBlank c = false ∧ plainDigit c = c ∧ c ≠ '_' :=
  forall_ascii (motive := fun c => isInteger c = true →
    isBlank c = false ∧ plainDigit c = c ∧ c ≠ '_') (by decide)
    (ascii_of_isInteger inside) inside

private theorem dropWhile_isBlank {text : List Char} (inside : ∀ c ∈ text, isInteger c = true) :
    text.dropWhile isBlank = text := by
  cases text with
  | nil => rfl
  | cons c rest =>
    rw [List.dropWhile_cons, (spelled (inside c (List.mem_cons_self ..))).1]
    rfl

private theorem dropUnderscores?_of_none {text : List Char} (absent : '_' ∉ text)
    (afterDigit : Bool) : dropUnderscores? afterDigit text = some text := by
  induction text generalizing afterDigit with
  | nil => rfl
  | cons c rest ih =>
    obtain ⟨differs, others⟩ := not_or.mp (List.mem_cons.not.mp absent)
    rw [dropUnderscores?.eq_4 _ _ _ (fun _ _ same _ => differs same.symm)
      (fun same _ => differs same.symm), ih others]
    rfl

theorem plainNumber?_of_spelling {text : List Char} (inside : ∀ c ∈ text, isInteger c = true) :
    plainNumber? text = some text := by
  have trimmed : trimBlanks text = text := by
    rw [trimBlanks, dropWhile_isBlank inside, dropWhile_isBlank, List.reverse_reverse]
    exact fun c member => inside c (List.mem_reverse.mp member)
  have plain : text.map plainDigit = text := by
    conv_rhs => rw [← List.map_id text]
    exact List.map_congr_left fun c member => (spelled (inside c member)).2.1
  rw [plainNumber?, trimmed, plain]
  exact dropUnderscores?_of_none (fun member => (spelled (inside _ member)).2.2 rfl) _

theorem natOfDigits_toDigits (value : Nat) : natOfDigits (Nat.toDigits 10 value) = value := by
  have step : (fun (value : Nat) (c : Char) => value * 10 + (c.toNat - 48)) =
      fun value c => 10 * value + (c.toNat - '0'.toNat) := by
    funext value c
    rw [Nat.mul_comm]
    rfl
  rw [natOfDigits, step, ← Nat.ofDigitChars_eq_foldl]
  exact Nat.ofDigitChars_toDigits (by decide) (by decide)

private theorem digits_of_toDigits {value : Nat} {c : Char} (member : c ∈ Nat.toDigits 10 value) :
    isInteger c = true ∧ isPlainDigit c = true ∧ c ≠ '-' ∧ c ≠ '+' := by
  have digit : c.isDigit = true := Nat.isDigit_of_mem_toDigits (by decide) (by decide) member
  refine ⟨by rw [isInteger, digit]; rfl, ?_, ?_, ?_⟩
  · simp only [Char.isDigit, Bool.and_eq_true, decide_eq_true_eq] at digit
    simp only [isPlainDigit, Bool.and_eq_true, decide_eq_true_eq]
    exact digit
  · rintro rfl
    cases digit
  · rintro rfl
    cases digit

private theorem readInteger?_of_digits {text : String} {negative : Bool} {value : Nat}
    (inside : ∀ c ∈ text.toList, isInteger c = true)
    (splits : splitSign text.toList = (negative, Nat.toDigits 10 value))
    (short : value < 10 ^ maxIntegerDigits) :
    readInteger? text = some (if negative then -(value : Int) else value) := by
  have plain : (Nat.toDigits 10 value).all isPlainDigit = true :=
    List.all_eq_true.mpr fun c member => (digits_of_toDigits member).2.1
  have length : (Nat.toDigits 10 value).length ≤ maxIntegerDigits :=
    (Nat.length_toDigits_le_iff (by decide) (by decide)).mpr short
  have some : (Nat.toDigits 10 value).isEmpty = false :=
    List.isEmpty_eq_false_iff.mpr Nat.toDigits_ne_nil
  rw [readInteger?, plainNumber?_of_spelling inside, Option.bind_eq_bind, Option.bind_some, splits]
  simp only [some, plain, natOfDigits_toDigits, Nat.not_lt.mpr length, decide_false, Bool.not_true,
    Bool.or_self, Bool.false_eq_true, if_false]

/-- An integer is read from its own spelling, if that has no more digits than are read. -/
theorem readInteger?_toString {value : Int} (short : value.natAbs < 10 ^ maxIntegerDigits) :
    readInteger? (toString value) = some value := by
  cases value with
  | ofNat number =>
    have text : (toString (Int.ofNat number)).toList = Nat.toDigits 10 number := by
      rw [show toString (Int.ofNat number) = toString number from rfl,
        Nat.toString_eq_ofList_toDigits, String.toList_ofList]
    refine @readInteger?_of_digits _ false _ ?_ ?_ short
    · rw [text]
      exact fun c member => (digits_of_toDigits member).1
    · rw [text]
      cases spelled : Nat.toDigits 10 number with
      | nil => rfl
      | cons c rest =>
        have first : c ∈ Nat.toDigits 10 number := by
          rw [spelled]
          exact List.mem_cons_self ..
        obtain ⟨-, -, noMinus, noPlus⟩ := digits_of_toDigits first
        rw [splitSign.eq_3 _ (fun _ same => noMinus (List.cons.inj same).1)
          (fun _ same => noPlus (List.cons.inj same).1)]
  | negSucc number =>
    have text : (toString (Int.negSucc number)).toList = '-' :: Nat.toDigits 10 (number + 1) := by
      rw [show toString (Int.negSucc number) = "-" ++ toString (number + 1) from rfl,
        String.toList_append, Nat.toString_eq_ofList_toDigits]
      exact congrArg _ String.toList_ofList
    have read := @readInteger?_of_digits (toString (Int.negSucc number)) true (number + 1) ?_
      (by rw [text]; rfl) short
    · rw [read]
      rfl
    · rw [text]
      intro c member
      rcases List.mem_cons.mp member with rfl | later
      · rfl
      · exact (digits_of_toDigits later).1

end Text

namespace Enumeration.Body

open Text

/-- A name that declares a member when it is set, unless it is a setting. -/
def declares (className name : String) : Bool :=
  !isPrivateOf className name && !isDunder name

theorem declare_ok {body next : Body} {name : String} {value : Json} (unset : body.ignored = [])
    (set : body.declare name value = .ok next) :
    name ∉ body.members.map Member.name ∧ next.ignored = [] ∧
      next.members.map Member.name = body.members.map Member.name ++ [name] := by
  unfold declare at set
  split at set
  · cases set
  rename_i fresh
  rw [unset, List.contains_nil] at set
  simp only [Bool.false_eq_true, if_false] at set
  split at set
  · cases set
  cases set
  refine ⟨fun inside => fresh ?_, rfl, List.map_append⟩
  obtain ⟨member, known, same⟩ := List.mem_map.mp inside
  exact List.any_eq_true.mpr ⟨member, known, beq_iff_eq.mpr same⟩

/-- A name that is no setting is new where it declares a member, and else declares none. -/
theorem set_ok {className name : String} {body next : Body} {value : Json}
    (unset : body.ignored = []) (plain : name ∉ settings)
    (set : body.set className name value = .ok next) :
    next.ignored = [] ∧
      if declares className name then
        name ∉ body.members.map Member.name ∧
          next.members.map Member.name = body.members.map Member.name ++ [name]
      else next.members = body.members := by
  unfold Body.set at set
  split at set
  · next isPrivate =>
    cases set
    simp [declares, isPrivate, unset]
  split at set
  · next ordering =>
    simp only [Bool.or_eq_true, decide_eq_true_eq] at ordering
    rcases ordering with rfl | rfl
    · exact absurd (by decide) plain
    · cases set
      exact ⟨unset, by simp [declares, show isDunder "__order__" = true by decide]⟩
  split at set
  · split at set
    · next ignoring =>
      exact absurd (by rw [ignoring]; decide) plain
    · cases set
  split at set
  · next special =>
    cases set
    simp [declares, special, unset]
  next noPrivate _ _ noDunder =>
    obtain ⟨fresh, still, names⟩ := declare_ok unset set
    have declaring : declares className name = true := by
      simp [declares, noPrivate, noDunder]
    rw [if_pos declaring]
    exact ⟨still, fresh, names⟩

/-- No name declares two members. -/
theorem names_nodup {className : String} {entries : List (String × Json)} {body result : Body}
    (unset : body.ignored = []) (plain : ∀ entry ∈ entries, entry.1 ∉ settings)
    (filled : entries.foldlM (fun body entry => body.set className entry.1 entry.2) body =
      .ok result) :
    ((entries.map Prod.fst).filter (declares className)).Nodup ∧
      ∀ name ∈ (entries.map Prod.fst).filter (declares className),
        name ∉ body.members.map Member.name := by
  induction entries generalizing body with
  | nil => simp
  | cons entry rest ih =>
    rw [List.foldlM_cons] at filled
    obtain ⟨next, set, filled⟩ := Outcome.bind_ok.mp filled
    obtain ⟨still, declared⟩ := set_ok unset (plain entry (List.mem_cons_self ..)) set
    obtain ⟨distinct, fresh⟩ :=
      ih still (fun other member => plain other (List.mem_cons_of_mem _ member)) filled
    rw [List.map_cons, List.filter_cons]
    split at declared
    · next declaring =>
      obtain ⟨new, names⟩ := declared
      rw [if_pos declaring]
      rw [names] at fresh
      have absent : entry.1 ∉ (rest.map Prod.fst).filter (declares className) := fun later =>
        fresh _ later (List.mem_append_right _ (List.mem_singleton_self _))
      refine ⟨List.nodup_cons.mpr ⟨absent, distinct⟩, fun name member => ?_⟩
      rcases List.mem_cons.mp member with rfl | later
      · exact new
      · exact fun known => fresh name later (List.mem_append_left _ known)
    · next declaring =>
      rw [if_neg declaring]
      rw [declared] at fresh
      exact ⟨distinct, fresh⟩

end Enumeration.Body

theorem Outcome.forM_ok {ε α : Type} {step : α → Except ε Unit} {items : List α} :
    items.forM step = .ok () ↔ ∀ item ∈ items, step item = .ok () := by
  induction items with
  | nil => exact ⟨by simp, fun _ => rfl⟩
  | cons item rest ih =>
    rw [List.forM, Outcome.bind_ok, List.forall_mem_cons, ← ih]
    constructor
    · rintro ⟨⟨⟩, first, others⟩
      exact ⟨first, others⟩
    · rintro ⟨first, others⟩
      exact ⟨⟨⟩, first, others⟩

namespace Codec

open Schema Text
open Outcome (forM_ok)

/-- The names of constants are set once, if none of them is a setting. -/
theorem Constants.nodup_of_check {constants : Constants} (checked : constants.check = .ok ())
    (plain : ∀ entry ∈ constants.entries, entry.1 ∉ Enumeration.settings) :
    ((constants.entries.map Prod.fst).filter constants.isConstant).Nodup := by
  obtain ⟨body, filled, -⟩ := Outcome.bind_ok.mp checked
  obtain ⟨body, filled, -⟩ := Outcome.bind_ok.mp filled
  have unset : ∀ entry ∈ constants.entries.map fun entry => (entry.1, Json.string entry.2),
      entry.1 ∉ Enumeration.settings := by
    intro entry member
    obtain ⟨origin, inside, rfl⟩ := List.mem_map.mp member
    exact plain origin inside
  have distinct := (Enumeration.Body.names_nodup rfl unset filled).1
  rw [List.map_map] at distinct
  exact distinct

theorem Constants.mem_of_ofTag? {constants : Constants} {tag : String} {value : Value}
    (found : constants.ofTag? tag = some value) : ∃ name, (name, tag) ∈ constants.entries ∧
      constants.isConstant name = true ∧ value = .constant constants.owner name tag := by
  obtain ⟨entry, there, rfl⟩ := Option.map_eq_some_iff.mp found
  have holds := List.find?_some
    (p := fun entry : String × String => constants.isConstant entry.1 && entry.2 == tag) there
  simp only [Bool.and_eq_true, beq_iff_eq] at holds
  obtain ⟨isConstant, rfl⟩ := holds
  exact ⟨entry.1, List.mem_of_find?_eq_some there, isConstant, rfl⟩

private theorem isYes_ite {test : Bool} :
    Value.isYes (if test then .ok true else .ok false) = test := by
  cases test <;> rfl

/-- Constants with names of their own are one key only if they are the same. -/
theorem Constants.eq_of_sameKey {constants : Constants}
    (distinct : ((constants.entries.map Prod.fst).filter constants.isConstant).Nodup)
    {tag other : String} {value another : Value} (found : constants.ofTag? tag = some value)
    (again : constants.ofTag? other = some another) (same : value.sameKey another = true) :
    value = another := by
  obtain ⟨name, inside, isConstant, rfl⟩ := mem_of_ofTag? found
  obtain ⟨name', inside', isConstant', rfl⟩ := mem_of_ofTag? again
  have named : ((constants.owner, name) == (constants.owner, name') ||
      Value.isYes (if constants.owner == constants.owner && name == name' then .ok true
        else .ok false)) = true := same
  rw [isYes_ite] at named
  obtain rfl : name = name' := by simpa using named
  rw [List.filter_map] at distinct
  cases Search.eq_of_key distinct (List.mem_filter.mpr ⟨inside, isConstant⟩)
    (List.mem_filter.mpr ⟨inside', isConstant'⟩) rfl
  rfl

/-- What the keys of a map are: texts, truth values, integers, or the constants of an
enumeration. -/
inductive KeyType where
  | text
  | bool
  | integer
  | constant (entity : Schema.Enumeration)

namespace KeyType

def hostType (library : Library) : KeyType → HostType
  | text => .primitive .str
  | bool => .primitive .bool
  | integer => .primitive .int
  | constant entity => library.typeOf (.enumeration (.ofEnumeration entity))

/-- The keys, except for integers with too many digits to be written. -/
inductive Has : KeyType → Value → Prop
  | text (value : String) : Has .text (.text value)
  | bool (value : Bool) : Has .bool (.bool value)
  | integer {value : Int} : value.natAbs < 10 ^ maxIntegerDigits → Has .integer (.int value)
  | constant {entity : Schema.Enumeration} {tag : String} {value : Value} :
      (Constants.ofEnumeration entity).ofTag? tag = some value → Has (.constant entity) value

/-- The key that a text is read as: all but one text is false. -/
def read? : KeyType → String → Option Value
  | text, key => some (.text key)
  | bool, key => some (.bool (key == "true"))
  | integer, key => (readInteger? key).map .int
  | constant entity, key => (Constants.ofEnumeration entity).ofTag? key

/-- No key is read from a text that none is written as. -/
def IsStrict : KeyType → Prop
  | text | constant _ => True
  | bool | integer => False

/-- What is told of a text that is read as no key. -/
def refusal (owner key : String) : KeyType → Mismatch
  | constant entity => .unknownValue entity.className (quoted key)
  | _ => .invalidKey (quoted key) owner

/-- The package has the keys; no constant is named like a setting of enumerations. -/
inductive Known (library : Library) : KeyType → Prop
  | text : Known library .text
  | bool : Known library .bool
  | integer : Known library .integer
  | constant {entity : Schema.Enumeration} :
      .enumeration (.ofEnumeration entity) ∈ library.classes →
      (∀ entry ∈ (Constants.ofEnumeration entity).entries, entry.1 ∉ Enumeration.settings) →
      Known library (.constant entity)

end KeyType

namespace Library

variable {library : Library} {keys : KeyType}

def keyOf (library : Library) (keys : KeyType) (owner key : String) : Except CodecError Value :=
  library.decodeKey (some owner) (keys.hostType library) (.text key)
    (library.decoder (.ofJson (.string key)))

/-- A text becomes the key that it is read as, or is refused. -/
theorem Loaded.keyOf_eq (loaded : library.Loaded) (known : keys.Known library)
    (owner key : String) : library.keyOf keys owner key =
      (keys.read? key).elim (.error (.mismatch (keys.refusal owner key))) .ok := by
  cases known with
  | text => rfl
  | bool =>
    have read : (Value.text key).sameKey (.text "true") = (key == "true") := by
      have unfolded : (Value.text key).sameKey (.text "true") =
        (key == "true" || Value.isYes (if key == "true" then .ok true else .ok false)) := rfl
      rw [unfolded, isYes_ite, Bool.or_self]
    exact congrArg (fun value => Except.ok (Value.bool value)) read
  | integer =>
    simp only [keyOf, KeyType.hostType, decodeKey, keyAsInteger?, KeyType.read?]
    cases readInteger? key <;> rfl
  | @constant entity member plain =>
    have found := loaded.at?_top member rfl
    have decoded := loaded.decoder_of_at? found (.string key) (by simp) (some owner)
    refine decoded.trans ?_
    have whole :
        library.decodeAsClass (.enumeration (.ofEnumeration entity)) (.ofJson (.string key))
        (library.entryDecodersOf (.string key)) =
      library.decodeInstance (.enumeration (.ofEnumeration entity)) (.text key) := rfl
    have looked : (Constants.ofEnumeration entity).ofValue? (Value.text key).content =
      (Constants.ofEnumeration entity).ofTag? key := rfl
    rw [whole, decodeInstance, looked, loaded.nameOf, KeyType.read?]
    cases (Constants.ofEnumeration entity).ofTag? key <;> rfl

/-- A package was loaded only if the constants of all enumerations can be set. -/
theorem check_constants (checked : library.check = .ok ()) {constants : Constants}
    (member : .enumeration constants ∈ library.classes) : constants.check = .ok () := by
  obtain ⟨entity, inside, -, made⟩ := mem_classes.mp member
  obtain ⟨⟨⟩, -, each⟩ := Outcome.bind_ok.mp (forM_ok.mp checked entity inside)
  exact forM_ok.mp each _ made

/-- Keys are one key only if they are the same. -/
theorem eq_of_sameKey (known : keys.Known library) (checked : library.check = .ok ())
    {text other : String} {key another : Value} (found : keys.read? text = some key)
    (again : keys.read? other = some another) (same : key.sameKey another = true) :
    key = another := by
  cases known with
  | text =>
    cases found
    cases again
    have texts : (text == other ||
      Value.isYes (if text == other then .ok true else .ok false)) = true := same
    rw [isYes_ite, Bool.or_self, beq_iff_eq] at texts
    rw [texts]
  | bool =>
    cases found
    cases again
    have values : Value.isYes (if (text == "true") == (other == "true") then .ok true
      else .ok false) = true := same
    rw [isYes_ite, beq_iff_eq] at values
    rw [values]
  | integer =>
    obtain ⟨number, -, rfl⟩ := Option.map_eq_some_iff.mp found
    obtain ⟨number', -, rfl⟩ := Option.map_eq_some_iff.mp again
    have numbers : Value.isYes (if number == number' then .ok true else .ok false) = true := same
    rw [isYes_ite, beq_iff_eq] at numbers
    rw [numbers]
  | constant member plain =>
    exact Constants.eq_of_sameKey (Constants.nodup_of_check (check_constants checked member) plain)
      found again same

/-- What is read as a key can be one, and is the same key as itself. -/
theorem isKey_of_read? {text : String} {key : Value} (found : keys.read? text = some key) :
    key.isNotANumber = false ∧ key.isHashable = true ∧ key.sameKey key = true := by
  cases keys with
  | text =>
    cases found
    exact ⟨rfl, rfl, by simp [Value.sameKey, Value.isIdentical]⟩
  | bool =>
    cases found
    cases text == "true" <;> exact ⟨rfl, rfl, rfl⟩
  | integer =>
    obtain ⟨number, -, rfl⟩ := Option.map_eq_some_iff.mp found
    have same : (Value.int number).sameKey (.int number) =
      Value.isYes (if number == number then .ok true else .ok false) := rfl
    exact ⟨rfl, rfl, by rw [same, isYes_ite, beq_self_eq_true]⟩
  | constant entity =>
    obtain ⟨name, rfl⟩ := Constants.eq_of_ofTag? found
    exact ⟨rfl, rfl, by simp [Value.sameKey, Value.isIdentical, Value.constant?]⟩

theorem read?_keyText {key : Value} {text : String} (has : keys.Has key)
    (written : library.keyText key = .ok text) : keys.read? text = some key := by
  cases has with
  | text value =>
    cases written
    rfl
  | bool value =>
    cases written
    cases value <;> rfl
  | integer short =>
    cases written
    exact congrArg (Option.map Value.int) (readInteger?_toString short)
  | constant tagged =>
    obtain ⟨name, rfl⟩ := Constants.eq_of_ofTag? tagged
    cases written
    exact tagged

theorem keyText_of_read? {key : Value} {text : String} (strict : keys.IsStrict)
    (read : keys.read? text = some key) : library.keyText key = .ok text := by
  cases keys with
  | text =>
    cases read
    rfl
  | bool => cases strict
  | integer => cases strict
  | constant entity =>
    obtain ⟨name, rfl⟩ := Constants.eq_of_ofTag? read
    rfl

variable {spelling : Spelling} {valueType : HostType} {owner : String}

/-- An object is decoded as a map entry by entry. -/
theorem decode_map {keyType : HostType} (parts : List (String × Json)) :
    library.decode (.object parts) (.applied (.map spelling) [keyType, valueType]) (some owner) =
      library.decodeMap (some owner) keyType valueType
        (library.entryDecodersOf (.object parts)) := by
  rw [decode, decodeData, decoder_ofJson]
  rfl

/-- An entry is bound under the key that its text is read as. -/
theorem Loaded.decodeEntry_ok (loaded : library.Loaded) (known : keys.Known library)
    {text : String} {json : Json} {entries next : List (Value × Value)} :
    library.decodeEntry (some owner) (keys.hostType library) valueType entries
      (.text text, library.decoder (.ofJson (.string text)), library.decoder (.ofJson json)) =
        .ok next ↔ ∃ key value, keys.read? text = some key ∧
          library.decode json valueType (some owner) = .ok value ∧
          next = Value.bindKey entries key value := by
  have first : library.decodeKey (some owner) (keys.hostType library) (.text text)
      (library.decoder (.ofJson (.string text))) =
        (keys.read? text).elim (.error (.mismatch (keys.refusal owner text))) .ok :=
    loaded.keyOf_eq known owner text
  have bound {key value : Value} (read : keys.read? text = some key) :
      bindDecoded entries key value = .ok (Value.bindKey entries key value) := by
    obtain ⟨isNumber, hashable, -⟩ := isKey_of_read? read
    simp only [bindDecoded, isNumber, hashable, Bool.false_eq_true, if_false, if_true]
  simp only [decodeEntry, first]
  cases read : keys.read? text with
  | none => simp [Outcome.bind_ok]
  | some key =>
    simp only [Option.elim_some, Outcome.ok_bind, Outcome.bind_ok, bound read, Option.some.injEq]
    constructor
    · rintro ⟨value, decoded, made⟩
      exact ⟨key, value, rfl, decoded, (Except.ok.inj made).symm⟩
    · rintro ⟨_, value, rfl, decoded, rfl⟩
      exact ⟨value, decoded, rfl⟩

/-- All keys of the entries were read from texts. -/
def KeysRead (keys : KeyType) (entries : List (Value × Value)) : Prop :=
  ∀ entry ∈ entries, ∃ text, keys.read? text = some entry.1

theorem any_sameKey (known : keys.Known library) (checked : library.check = .ok ())
    {entries : List (Value × Value)} (read : KeysRead keys entries) {text : String} {key : Value}
    (found : keys.read? text = some key) :
    entries.any (fun entry => entry.1.sameKey key) = true ↔ key ∈ entries.map Prod.fst := by
  rw [List.any_eq_true, List.mem_map]
  constructor
  · rintro ⟨entry, member, same⟩
    obtain ⟨other, there⟩ := read entry member
    exact ⟨entry, member, eq_of_sameKey known checked there found same⟩
  · rintro ⟨entry, member, rfl⟩
    exact ⟨entry, member, (isKey_of_read? found).2.2⟩

/-- A key that is bound already keeps its place, and another one is put behind all others. -/
theorem keys_bindKey (known : keys.Known library) (checked : library.check = .ok ())
    {entries : List (Value × Value)} (read : KeysRead keys entries) {text : String}
    {key : Value} (found : keys.read? text = some key) (value : Value) :
    key ∈ entries.map Prod.fst ∧
        (Value.bindKey entries key value).map Prod.fst = entries.map Prod.fst ∨
      key ∉ entries.map Prod.fst ∧
        Value.bindKey entries key value = entries ++ [(key, value)] := by
  have isBound := any_sameKey known checked read found
  rw [Value.bindKey]
  by_cases inside : key ∈ entries.map Prod.fst
  · rw [if_pos (isBound.mpr inside), List.map_map]
    refine .inl ⟨inside, List.map_congr_left fun entry _ => ?_⟩
    rw [Function.comp_apply]
    split <;> rfl
  · rw [if_neg (isBound.not.mpr inside)]
    exact .inr ⟨inside, rfl⟩

/-- The entries are bound under the keys that their texts are read as, each of them once. -/
theorem Loaded.keys_of_decodeEntries (loaded : library.Loaded) (known : keys.Known library)
    (checked : library.check = .ok ()) {parts : List (String × Json)}
    {entries result : List (Value × Value)} (read : KeysRead keys entries)
    (distinct : (entries.map Prod.fst).Nodup)
    (decoded : (library.entryDecodersOf (.object parts)).foldlM
      (library.decodeEntry (some owner) (keys.hostType library) valueType) entries = .ok result) :
    (result.map Prod.fst).Nodup ∧ ∀ key, key ∈ result.map Prod.fst ↔
      key ∈ entries.map Prod.fst ∨ ∃ part ∈ parts, keys.read? part.1 = some key := by
  induction parts generalizing entries with
  | nil =>
    obtain rfl := Outcome.pure_ok.mp decoded
    exact ⟨distinct, by simp⟩
  | cons part rest ih =>
    obtain ⟨next, bound, decoded⟩ := Outcome.bind_ok.mp decoded
    obtain ⟨key, value, found, -, rfl⟩ := (loaded.decodeEntry_ok known).mp bound
    have names : ((Value.bindKey entries key value).map Prod.fst).Nodup ∧ ∀ other,
        other ∈ (Value.bindKey entries key value).map Prod.fst ↔
          other ∈ entries.map Prod.fst ∨ other = key := by
      rcases keys_bindKey known checked read found value with ⟨old, same⟩ | ⟨new, same⟩
      · rw [same]
        exact ⟨distinct, fun other => ⟨.inl, fun either => either.elim id fun same => same ▸ old⟩⟩
      · rw [same, List.map_append]
        refine ⟨distinct.append (List.nodup_singleton _) ?_, fun other => by simp⟩
        intro other inside last
        rw [List.mem_singleton.mp last] at inside
        exact new inside
    obtain ⟨distinctNext, member⟩ := names
    have readNext : KeysRead keys (Value.bindKey entries key value) := by
      intro entry inside
      rcases (member entry.1).mp (List.mem_map_of_mem inside) with old | same
      · obtain ⟨other, there, same⟩ := List.mem_map.mp old
        exact same ▸ read other there
      · exact ⟨part.1, same ▸ found⟩
    obtain ⟨nodup, exact⟩ := ih readNext distinctNext decoded
    refine ⟨nodup, fun other => ?_⟩
    rw [exact, member, List.exists_mem_cons_iff, found, Option.some.injEq, or_assoc, eq_comm]

/-- Where no two texts are read as one key, each entry is bound behind all others. -/
theorem Loaded.entries_of_decodeEntries (loaded : library.Loaded) (known : keys.Known library)
    (checked : library.check = .ok ()) {parts : List (String × Json)}
    {entries result : List (Value × Value)} (read : KeysRead keys entries)
    (apart : parts.Pairwise fun part other =>
      ∀ key, keys.read? part.1 = some key → keys.read? other.1 ≠ some key)
    (fresh : ∀ part ∈ parts, ∀ key, keys.read? part.1 = some key → key ∉ entries.map Prod.fst)
    (decoded : (library.entryDecodersOf (.object parts)).foldlM
      (library.decodeEntry (some owner) (keys.hostType library) valueType) entries = .ok result) :
    ∃ added, result = entries ++ added ∧ List.Forall₂ (fun part entry =>
      keys.read? part.1 = some entry.1 ∧
        library.decode part.2 valueType (some owner) = .ok entry.2) parts added := by
  induction parts generalizing entries with
  | nil =>
    obtain rfl := Outcome.pure_ok.mp decoded
    exact ⟨[], (List.append_nil _).symm, .nil⟩
  | cons part rest ih =>
    obtain ⟨next, bound, decoded⟩ := Outcome.bind_ok.mp decoded
    obtain ⟨key, value, found, valued, rfl⟩ := (loaded.decodeEntry_ok known).mp bound
    obtain ⟨differ, apart⟩ := List.pairwise_cons.mp apart
    have new := fresh part (List.mem_cons_self ..) key found
    have appended : Value.bindKey entries key value = entries ++ [(key, value)] := by
      rcases keys_bindKey known checked read found value with ⟨old, -⟩ | ⟨-, same⟩
      · exact absurd old new
      · exact same
    rw [appended] at decoded
    have readNext : KeysRead keys (entries ++ [(key, value)]) := by
      intro entry inside
      rcases List.mem_append.mp inside with old | last
      · exact read entry old
      · rw [List.mem_singleton.mp last]
        exact ⟨part.1, found⟩
    have freshNext : ∀ other ∈ rest, ∀ another, keys.read? other.1 = some another →
        another ∉ (entries ++ [(key, value)]).map Prod.fst := by
      intro other member another there inside
      rw [List.map_append, List.mem_append] at inside
      rcases inside with old | last
      · exact fresh other (List.mem_cons_of_mem _ member) another there old
      · rw [List.mem_singleton.mp last] at there
        exact differ other member key found there
    obtain ⟨added, rfl, related⟩ := ih readNext apart freshNext decoded
    exact ⟨(key, value) :: added, by simp, .cons ⟨found, valued⟩ related⟩

/-- The text of a key. -/
def IsWritten (library : Library) (keys : KeyType) (text : String) : Prop :=
  ∃ key, keys.Has key ∧ library.keyText key = .ok text

/-- How keys of one type are decoded, and the objects that have them. -/
structure DecodesKeys (library : Library) (keys : KeyType) : Prop where
  /-- A text becomes the key that it is read as, or is refused. -/
  decodes (owner text : String) : library.keyOf keys owner text =
    (keys.read? text).elim (.error (.mismatch (keys.refusal owner text))) .ok
  /-- Every key is read back from its text. -/
  accepts {key : Value} {text : String} :
    keys.Has key → library.keyText key = .ok text → keys.read? text = some key
  /-- Texts and constants are read from nothing else. -/
  exact {key : Value} {text : String} :
    keys.IsStrict → keys.read? text = some key → library.keyText key = .ok text
  /-- The keys of a decoded map are those that the keys of the object are read as, each of them
  once. -/
  merges {spelling : Spelling} {valueType : HostType} {owner : String}
    {parts : List (String × Json)} {value : Value} :
    library.decode (.object parts) (.applied (.map spelling) [keys.hostType library, valueType])
      (some owner) = .ok value →
    ∃ entries, value = .map entries ∧ (entries.map Prod.fst).Nodup ∧
      ∀ key, key ∈ entries.map Prod.fst ↔ ∃ part ∈ parts, keys.read? part.1 = some key
  /-- No entry is lost if nothing but texts of keys can be read, or if nothing else is there. -/
  keeps {spelling : Spelling} {valueType : HostType} {owner : String}
    {parts : List (String × Json)} {value : Value} :
    library.decode (.object parts) (.applied (.map spelling) [keys.hostType library, valueType])
      (some owner) = .ok value →
    (parts.map Prod.fst).Nodup →
    (keys.IsStrict ∨ ∀ part ∈ parts, library.IsWritten keys part.1) →
    ∃ entries, value = .map entries ∧ List.Forall₂ (fun part entry =>
      library.keyText entry.1 = .ok part.1 ∧
        library.decode part.2 valueType (some owner) = .ok entry.2) parts entries

/-- A text that is read as a key is the text of it, if it is the text of any key. -/
theorem keyText_of_written {text : String} {key : Value} (read : keys.read? text = some key)
    (faithful : keys.IsStrict ∨ library.IsWritten keys text) : library.keyText key = .ok text := by
  rcases faithful with strict | ⟨other, has, written⟩
  · exact keyText_of_read? strict read
  · rw [read?_keyText has written] at read
    cases read
    exact written

theorem Loaded.decodesKeys (loaded : library.Loaded) (checked : library.check = .ok ())
    (known : keys.Known library) : library.DecodesKeys keys where
  decodes := loaded.keyOf_eq known
  accepts := read?_keyText
  exact := keyText_of_read?
  merges := by
    intro spelling valueType owner parts value decoded
    rw [decode_map] at decoded
    obtain ⟨entries, filled, made⟩ := Outcome.bind_ok.mp decoded
    obtain rfl := Outcome.pure_ok.mp made
    have found := loaded.keys_of_decodeEntries known checked (by simp [KeysRead]) (by simp) filled
    exact ⟨entries, rfl, by simpa using found⟩
  keeps := by
    intro spelling valueType owner parts value decoded distinct faithful
    rw [decode_map] at decoded
    obtain ⟨entries, filled, made⟩ := Outcome.bind_ok.mp decoded
    obtain rfl := Outcome.pure_ok.mp made
    have text {part : String × Json} (member : part ∈ parts) {key : Value}
        (read : keys.read? part.1 = some key) : library.keyText key = .ok part.1 :=
      keyText_of_written read (faithful.imp_right fun written => written part member)
    have apart : parts.Pairwise fun part other =>
        ∀ key, keys.read? part.1 = some key → keys.read? other.1 ≠ some key := by
      refine (List.pairwise_map.mp distinct).imp_of_mem fun member otherMember differ key
        read again => ?_
      exact differ (Except.ok.inj ((text member read).symm.trans (text otherMember again)))
    obtain ⟨added, same, related⟩ := loaded.entries_of_decodeEntries known checked
      (by simp [KeysRead]) apart (by simp) filled
    rw [List.nil_append] at same
    subst same
    have inside := (List.forall₂_and_left (p := (· ∈ parts)) _ _).mpr ⟨fun _ => id, related⟩
    exact ⟨entries, rfl, inside.imp fun _ _ ⟨member, read, decoded⟩ => ⟨text member read, decoded⟩⟩

/-- A package that was made of some types could be loaded. -/
theorem ofTypes_checked {package : String} {model : Model} {types : List HostType}
    {before after : Memory}
    (succeeds : (Library.ofTypes package model types).run.run before = (.ok library, after)) :
    library.check = .ok () := by
  obtain ⟨schema, between, -, rest⟩ := Resolving.bind_ok.mp succeeds
  obtain ⟨generated, _, -, rest⟩ := Resolving.bind_ok.mp rest
  split at rest
  · cases rest
  obtain ⟨⟨⟩, _, checked, rest⟩ := Resolving.bind_ok.mp rest
  cases rest
  rcases outcome : ({ package, entities := schema.entities } : Library).check with fault | ⟨⟩
  · rw [outcome] at checked
    cases checked
  · rfl

theorem drawingLibrary_colors : (KeyType.constant colorEnum).Known drawingLibrary := by
  refine .constant ?_ (by decide +kernel)
  simp [drawingLibrary_classes]

/-- Two keys that are both read as false become one. -/
example : drawingLibrary.decode (.object [("no", .int 1), ("off", .int 2)])
    (.applied (.map .native) [.primitive .bool, .primitive .int]) (some "Drawing") =
    .ok (.map [(.bool false, .int 2)]) :=
  rfl

end Library

end Codec

end WireModel
