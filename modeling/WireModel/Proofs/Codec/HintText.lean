import WireModel.Host.Expression.Parser
import WireModel.Proofs.Codec.Lookup
import WireModel.TypeExpr

/-!
Type expressions as texts. What is written for a type reads back as the expression that names its
parts, as long as the names are names of the language and no more brackets stand inside each other
than can be read.
-/

namespace WireModel

open Text

namespace Text

/-- Words take all characters of a range, and none of them stands for half of a pair. -/
def WordRange (range : Nat × Nat) : Prop :=
  (0x30 ≤ range.1 ∧ range.2 ≤ 0x39 ∨ 0x41 ≤ range.1 ∧ range.2 ≤ 0x5a ∨
    0x5f ≤ range.1 ∧ range.2 ≤ 0x5f ∨ 0x61 ≤ range.1 ∧ range.2 ≤ 0x7a ∨ 0x80 ≤ range.1) ∧
  range.2 < 0xed800

instance : DecidablePred WordRange :=
  fun range => inferInstanceAs (Decidable (_ ∧ range.2 < 0xed800))

/-- A character of a word, below those that stand for halves of pairs. -/
structure IsWordPart (c : Char) : Prop where
  inWord : Expression.isWordCharacter c = true
  below : c.toNat < 0xed800

theorem WordRange.isWordPart {range : Nat × Nat} (word : WordRange range) {c : Char}
    (from_first : range.1 ≤ c.toNat) (to_last : c.toNat ≤ range.2) : IsWordPart c := by
  obtain ⟨kinds, below⟩ := word
  refine ⟨?_, by omega⟩
  have underscore (code : c.toNat = 0x5f) : c = '_' := Char.toNat_inj.mp code
  have letters : c.isAlphanum = (decide (65 ≤ c.val ∧ c.val ≤ 90) ||
      decide (97 ≤ c.val) && decide (c.val ≤ 122) || decide (48 ≤ c.val) &&
        decide (c.val ≤ 57)) := rfl
  simp only [Expression.isWordCharacter, letters, Bool.or_eq_true, Bool.and_eq_true,
    decide_eq_true_eq, beq_iff_eq, UInt32.le_iff_toNat_le]
  change (((65 ≤ c.toNat ∧ c.toNat ≤ 90 ∨ 97 ≤ c.toNat ∧ c.toNat ≤ 122) ∨
    48 ≤ c.toNat ∧ c.toNat ≤ 57) ∨ c = '_') ∨ 128 ≤ c.toNat
  rcases kinds with digit | upper | only | lower | beyond
  · omega
  · omega
  · exact .inl (.inr (underscore (by omega)))
  · omega
  · omega

theorem isWordPart_of_inRanges {table : List (Nat × Nat)} (words : ∀ range ∈ table, WordRange range)
    {c : Char} (inside : inRanges table c = true) : IsWordPart c := by
  obtain ⟨range, member, within⟩ := List.any_eq_true.mp inside
  simp only [Bool.and_eq_true, decide_eq_true_eq] at within
  exact (words range member).isWordPart within.1 within.2

theorem isWordPart_of_start {c : Char} (start : isIdentifierStart c = true) : IsWordPart c :=
  isWordPart_of_inRanges (by decide +kernel) start

theorem isWordPart_of_continuation {c : Char} (continuation : isIdentifierContinuation c = true) :
    IsWordPart c :=
  isWordPart_of_inRanges (by decide +kernel) continuation

/-- No name begins with a digit. -/
theorem not_isPlainDigit_of_start {c : Char} (start : isIdentifierStart c = true) :
    isPlainDigit c = false := by
  have letters : ∀ range ∈ IdentifierData.start, 0x39 < range.1 := by decide +kernel
  obtain ⟨range, member, within⟩ := List.any_eq_true.mp start
  simp only [Bool.and_eq_true, decide_eq_true_eq] at within
  have above := letters range member
  simp only [isPlainDigit, Char.le_def, UInt32.le_iff_toNat_le, Bool.and_eq_false_iff,
    decide_eq_false_iff_not]
  change ¬ 48 ≤ c.toNat ∨ ¬ c.toNat ≤ 57
  omega

/-- Below the characters that stand for halves of pairs, a text is the row of its characters. -/
theorem points_of_below {chars : List Char} (below : ∀ c ∈ chars, c.toNat < 0xed800) :
    points chars = chars.map ([·]) := by
  induction chars with
  | nil => rfl
  | cons c rest ih =>
    obtain ⟨first, others⟩ := List.forall_mem_cons.mp below
    cases rest with
    | nil => rfl
    | cons d rest =>
      have plain : c ≠ literalMark := by
        rintro rfl
        exact absurd first (by decide)
      rw [points, if_neg plain, ih others]
      rfl

theorem not_hasSurrogate {text : String} (below : ∀ c ∈ text.toList, c.toNat < 0xed800) :
    hasSurrogate text = false := by
  rw [hasSurrogate, codes, points_of_below below, List.map_map, List.any_eq_false]
  intro code member
  obtain ⟨c, inside, rfl⟩ := List.mem_map.mp member
  have low := below c inside
  have small : ∀ code, code < 0xd800 → isSurrogate code = false := by
    intro code bound
    rw [isSurrogate, decide_eq_false (Nat.not_le.mpr bound), Bool.false_and]
  have itself : surrogate? c = none := by
    have shifted : c.toNat - surrogateShift < 0xd800 := by
      rw [surrogateShift]
      omega
    rw [surrogate?, small _ shifted]
    rfl
  have point : codeOf [c] = c.toNat := by
    rw [codeOf, itself]
    rfl
  rw [Function.comp_apply, point, Bool.not_eq_true]
  rcases c.valid with bound | ⟨above, -⟩
  · exact small _ bound
  · have beyond : 0xdfff < c.toNat := above
    rw [isSurrogate, decide_eq_false (Nat.not_le.mpr beyond), Bool.and_false]

/-- A name as an expression holds it: an identifier that is no reserved word, in its normal form. -/
structure IsPlainName (name : String) : Prop where
  identifier : isIdentifier name = true
  free : reservedWords.contains name = false
  normal : normalized name = name

theorem isIdentifier_cons {name : String} (identifier : isIdentifier name = true) :
    ∃ c rest, name.toList = c :: rest ∧ isIdentifierStart c = true ∧ ∀ c ∈ name.toList,
      IsWordPart c := by
  unfold isIdentifier at identifier
  split at identifier
  · cases identifier
  next c rest same =>
    rw [Bool.and_eq_true, List.all_eq_true] at identifier
    refine ⟨c, rest, same, identifier.1, fun d member => ?_⟩
    rw [same] at member
    rcases List.mem_cons.mp member with rfl | later
    · exact isWordPart_of_start identifier.1
    · exact isWordPart_of_continuation (identifier.2 d later)

end Text

namespace Expression

/-- A word ends before the text: there is none, or it begins with a bracket or a comma. -/
def EndsWord (text : List Char) : Prop :=
  ∀ c, text.head? = some c → c ∈ ['[', ']', ',']

theorem endsWord_cons {c : Char} {rest : List Char} (mark : c ∈ ['[', ']', ',']) :
    EndsWord (c :: rest) := by
  rintro _ ⟨⟩
  exact mark

theorem ne_of_isWordCharacter {c d : Char} (word : isWordCharacter c = true)
    (outside : isWordCharacter d = false) : c ≠ d := by
  rintro rfl
  rw [word] at outside
  cases outside

/-- A name is one token. -/
theorem tokens?_word {name : String} (plain : IsPlainName name) {fuel : Nat}
    {expected rest : List Char}
    (ends : EndsWord rest) : tokens? (fuel + 1) expected (name.toList ++ rest) =
      (tokens? fuel expected rest).map (.word name :: ·) := by
  obtain ⟨c, others, same, start, parts⟩ := isIdentifier_cons plain.identifier
  have inWord : ∀ c ∈ name.toList, isWordCharacter c = true :=
    fun c member => (parts c member).inWord
  have first : isWordCharacter c = true := inWord c (by simp [same])
  have stops : ∀ d, rest.head? = some d → isWordCharacter d = false ∧ d ≠ '\'' ∧ d ≠ '"' := by
    intro d found
    have member := ends d found
    simp only [List.mem_cons, List.not_mem_nil, or_false] at member
    rcases member with rfl | rfl | rfl <;> decide
  have taken : (name.toList ++ rest).takeWhile isWordCharacter = name.toList := by
    rw [List.takeWhile_append_of_pos inWord]
    cases rest with
    | nil => simp
    | cons d rest => simp [(stops d rfl).1]
  have unquoted : openingQuotes? rest = none := by
    cases rest with
    | nil => rfl
    | cons d rest =>
      obtain ⟨-, single, double⟩ := stops d rfl
      unfold openingQuotes?
      split <;> simp_all
  have apart {d : Char} (outside : isWordCharacter d = false) : (c == d) = false :=
    beq_eq_false_iff_ne.mpr (ne_of_isWordCharacter first outside)
  have behind : (c :: (others ++ rest)).drop (c :: others).length = rest := by
    rw [← List.cons_append, List.drop_left]
  have whole : String.ofList (c :: others) = name := by rw [← same, String.ofList_toList]
  rw [same, List.cons_append] at taken ⊢
  conv_lhs => unfold tokens?
  simp only [isInlineBlank, apart (show isWordCharacter ' ' = false by decide),
    apart (show isWordCharacter '\t' = false by decide),
    apart (show isWordCharacter '\x0c' = false by decide),
    apart (show isWordCharacter '#' = false by decide),
    apart (show isWordCharacter '\n' = false by decide),
    apart (show isWordCharacter '\\' = false by decide),
    apart (show isWordCharacter '.' = false by decide), not_isPlainDigit_of_start start,
      Bool.or_false,
    Bool.false_and, Bool.false_eq_true, if_false, taken, behind, unquoted, whole, plain.identifier,
    plain.free, plain.normal]
  rfl

theorem tokens?_blank {fuel : Nat} {expected rest : List Char} :
    tokens? (fuel + 1) expected (' ' :: rest) = tokens? fuel expected rest :=
  rfl

theorem tokens?_open {fuel : Nat} {expected rest : List Char}
    (shallow : expected.length < maxNesting) :
    tokens? (fuel + 1) expected ('[' :: rest) =
      (tokens? fuel (']' :: expected) rest).map (.symbol "[" :: ·) := by
  have step : tokens? (fuel + 1) expected ('[' :: rest) =
      if expected.length < maxNesting then
        (tokens? fuel (']' :: expected) rest).bind fun tokens => some (.symbol "[" :: tokens)
      else none := rfl
  rw [step, if_pos shallow, Option.map_eq_bind]
  rfl

theorem tokens?_comma {fuel : Nat} {bracket : Char} {outer rest : List Char} :
    tokens? (fuel + 1) (bracket :: outer) (',' :: rest) =
      (tokens? fuel (bracket :: outer) rest).map (.symbol "," :: ·) := by
  rw [Option.map_eq_bind]
  rfl

theorem tokens?_close {fuel : Nat} {outer rest : List Char} :
    tokens? (fuel + 1) (']' :: outer) (']' :: rest) =
      (tokens? fuel outer rest).map (.symbol "]" :: ·) := by
  rw [Option.map_eq_bind]
  rfl

/-- A name with brackets behind it falls into its tokens if what stands in the brackets does. -/
theorem tokens?_bracketed {word : String} (plain : IsPlainName word) {fuel more : Nat}
    {expected inside rest : List Char} {inner : List Token} (shallow : expected.length < maxNesting)
    (found : tokens? (more + (fuel + 1)) (']' :: expected) (inside ++ ']' :: rest) =
      (tokens? (fuel + 1) (']' :: expected) (']' :: rest)).map (inner ++ ·)) :
    tokens? (more + (fuel + 1) + 1 + 1) expected (word.toList ++ '[' :: (inside ++ ']' :: rest)) =
      (tokens? fuel expected rest).map
        ((.word word :: .symbol "[" :: (inner ++ [.symbol "]"])) ++ ·) := by
  have opens : EndsWord ('[' :: (inside ++ ']' :: rest)) := endsWord_cons (by decide)
  rw [tokens?_word plain opens, tokens?_open shallow, found, tokens?_close]
  simp only [Option.map_map]
  congr 1
  funext later
  simp

end Expression

namespace TypeExpr

open Expression (Token EndsWord endsWord_cons maxNesting tokens? tokens?_word tokens?_blank
  tokens?_comma tokens?_bracketed)

/-- The names of a type expression are such as expressions hold. -/
def HasPlainNames : TypeExpr → Prop
  | .named name => IsPlainName name
  | .list item => item.HasPlainNames
  | .map key value => key.HasPlainNames ∧ value.HasPlainNames

def expression : TypeExpr → Expression
  | .named name => .name name
  | .list item => .subscript (.name "list") item.expression
  | .map key value => .subscript (.name "dict") (.display .tuple [key.expression, value.expression])

def tokens : TypeExpr → List Token
  | .named name => [.word name]
  | .list item => .word "list" :: .symbol "[" :: (item.tokens ++ [.symbol "]"])
  | .map key value =>
    .word "dict" :: .symbol "[" :: (key.tokens ++ .symbol "," :: (value.tokens ++ [.symbol "]"]))

/-- How many tokens and blanks the text of a type expression has. -/
def pieces : TypeExpr → Nat
  | .named _ => 1
  | .list item => item.pieces + 3
  | .map key value => key.pieces + value.pieces + 5

theorem text_list (item : TypeExpr) : (text .python (.list item)).toList =
    "list".toList ++ '[' :: ((item.text .python).toList ++ [']']) := by
  have written : text .python (.list item) = "list[" ++ item.text .python ++ "]" := rfl
  simp [written, String.toList_append]

theorem text_map (key value : TypeExpr) : (text .python (.map key value)).toList =
    "dict".toList ++ '[' :: ((key.text .python).toList ++ ',' :: ' ' ::
      ((value.text .python).toList ++ [']'])) := by
  have written : text .python (.map key value) =
      "dict[" ++ key.text .python ++ ", " ++ value.text .python ++ "]" := rfl
  simp [written, String.toList_append]

theorem isPlainName_list : IsPlainName "list" :=
  ⟨by decide, by decide, by decide⟩

theorem isPlainName_dict : IsPlainName "dict" :=
  ⟨by decide, by decide, by decide⟩

/-- The text of a type expression falls into its tokens, whatever follows that ends a word. -/
theorem tokens?_text {hint : TypeExpr} (plain : hint.HasPlainNames) {fuel : Nat}
    {expected rest : List Char} (shallow : expected.length + hint.nesting ≤ maxNesting)
    (ends : EndsWord rest) :
    tokens? (hint.pieces + fuel) expected ((hint.text .python).toList ++ rest) =
      (tokens? fuel expected rest).map (hint.tokens ++ ·) := by
  induction hint generalizing fuel expected rest with
  | named name =>
    rw [pieces, Nat.add_comm]
    exact tokens?_word plain ends
  | list item ih =>
    rw [nesting] at shallow
    have inner : tokens? (item.pieces + (fuel + 1)) (']' :: expected)
        ((item.text .python).toList ++ ']' :: rest) =
          (tokens? (fuel + 1) (']' :: expected) (']' :: rest)).map (item.tokens ++ ·) :=
      ih plain (by rw [List.length_cons]; omega) (endsWord_cons (by decide))
    have more : pieces (.list item) + fuel = item.pieces + (fuel + 1) + 1 + 1 := by
      rw [pieces]
      omega
    rw [text_list, List.append_assoc, List.cons_append, List.append_assoc,
      List.singleton_append, more]
    exact tokens?_bracketed isPlainName_list (by omega) inner
  | map key value keyIh valueIh =>
    obtain ⟨plainKey, plainValue⟩ := plain
    have below : max key.nesting value.nesting + 1 ≤ maxNesting - expected.length := by
      rw [nesting] at shallow
      omega
    have second : tokens? (value.pieces + (fuel + 1)) (']' :: expected)
        ((value.text .python).toList ++ ']' :: rest) =
          (tokens? (fuel + 1) (']' :: expected) (']' :: rest)).map (value.tokens ++ ·) :=
      valueIh plainValue (by rw [List.length_cons]; omega) (endsWord_cons (by decide))
    have first : tokens? (key.pieces + (value.pieces + (fuel + 1) + 1 + 1)) (']' :: expected)
        ((key.text .python).toList ++ ',' :: ' ' :: ((value.text .python).toList ++ ']' :: rest)) =
          (tokens? (value.pieces + (fuel + 1) + 1 + 1) (']' :: expected)
            (',' :: ' ' :: ((value.text .python).toList ++ ']' :: rest))).map (key.tokens ++ ·) :=
      keyIh plainKey (by rw [List.length_cons]; omega) (endsWord_cons (by decide))
    have inner : tokens? (key.pieces + value.pieces + 2 + (fuel + 1)) (']' :: expected)
        ((key.text .python).toList ++ ',' :: ' ' :: (value.text .python).toList ++ ']' :: rest) =
          (tokens? (fuel + 1) (']' :: expected) (']' :: rest)).map
            (key.tokens ++ .symbol "," :: value.tokens ++ ·) := by
      have more : key.pieces + value.pieces + 2 + (fuel + 1) =
          key.pieces + (value.pieces + (fuel + 1) + 1 + 1) := by omega
      rw [List.append_assoc, List.cons_append, List.cons_append, more, first, tokens?_comma,
        tokens?_blank, second]
      simp only [Option.map_map]
      congr 1
      funext later
      simp
    have more :
        pieces (.map key value) + fuel = key.pieces + value.pieces + 2 + (fuel + 1) + 1 + 1 := by
      rw [pieces]
      omega
    have whole :=
      tokens?_bracketed isPlainName_dict (show expected.length < maxNesting by omega) inner
    rw [text_map, more]
    simpa [tokens] using whole

end TypeExpr

namespace Expression

/-- What follows no longer belongs to an operand: nothing, or the end of brackets or of an item in
them. -/
inductive EndsOperand : List Token → Prop
  | nothing : EndsOperand []
  | bracket (rest : List Token) : EndsOperand (.symbol "]" :: rest)
  | comma (rest : List Token) : EndsOperand (.symbol "," :: rest)

/-- A name stands in front that nothing is bound to. -/
inductive BeginsWithName : List Token → Prop
  | alone (name : String) : BeginsWithName [.word name]
  | before (name symbol : String) (rest : List Token) : symbol ≠ ":=" →
      BeginsWithName (.word name :: .symbol symbol :: rest)

variable {fuel : Nat} {tokens rest : List Token} {expression : Expression}

section Levels

variable (factor : parseFactor fuel tokens = some (expression, rest)) (ends : EndsOperand rest)

include ends in
theorem parseOperands_ends {level : List (String × BinaryOperator)}
    {tighter : List (List (String × BinaryOperator))}
    (bracket : level.lookup "]" = none) (comma : level.lookup "," = none) :
    parseOperands (fuel + 1) level tighter expression rest = some (expression, rest) := by
  unfold parseOperands
  cases ends with
  | nothing => rfl
  | bracket rest => simp only [bracket]
  | comma rest => simp only [comma]

include factor ends

theorem parseBinary_ends (levels : List (List (String × BinaryOperator)))
    (known : ∀ level ∈ levels, level.lookup "]" = none ∧ level.lookup "," = none) :
    parseBinary (fuel + 1 + levels.length) levels tokens = some (expression, rest) := by
  induction levels with
  | nil => exact factor
  | cons level tighter ih =>
    obtain ⟨⟨bracket, comma⟩, others⟩ := List.forall_mem_cons.mp known
    have positive : fuel + 1 + tighter.length = fuel + tighter.length + 1 := by omega
    rw [List.length_cons, ← Nat.add_assoc, parseBinary, ih others, positive]
    exact parseOperands_ends ends bracket comma

variable (begins : BeginsWithName tokens)

include begins

theorem parseNegation_ends : parseNegation (fuel + 8) tokens = some (expression, rest) := by
  have binary : parseBinary (fuel + 7) binaryLevels tokens = some (expression, rest) :=
    parseBinary_ends factor ends binaryLevels (by decide)
  have none : comparison? rest = none := by
    cases ends <;> rfl
  have comparisons : parseComparisons (fuel + 7) rest = some ([], rest) := by
    rw [parseComparisons, none]
  unfold parseNegation
  cases begins
  all_goals
    simp only [binary]
    exact congrArg (Option.bind · _) comparisons

/-- An operand that nothing follows is an expression. -/
theorem parseExpression_ends : parseExpression (fuel + 11) tokens = some (expression, rest) := by
  have conjunction : parseConjunction (fuel + 9) tokens = some (expression, rest) := by
    rw [parseConjunction, parseNegation_ends factor ends begins]
    cases ends <;> rfl
  have disjunction : parseDisjunction (fuel + 10) tokens = some (expression, rest) := by
    rw [parseDisjunction, conjunction]
    cases ends <;> rfl
  unfold parseExpression
  cases begins
  all_goals
    simp only [disjunction]
    cases ends <;> rfl

theorem parsePlace_ends : parsePlace (fuel + 13) tokens = some (expression, rest) := by
  have whole := parseExpression_ends factor ends begins
  have named : parseNamed (fuel + 12) tokens = some (expression, rest) := by
    unfold parseNamed
    split
    next same => cases same
    next fuel identifier others _ bound =>
      -- A name that is bound is no name in front of this kind.
      cases begins with
      | before _ _ _ differs =>
        cases bound
        exact absurd rfl differs
    next enough _ =>
      cases enough
      exact whole
  unfold parsePlace
  cases begins
  all_goals
    simp only [named]
    cases ends <;> rfl

end Levels

theorem parseTrailers_ends (ends : EndsOperand rest) :
    parseTrailers (fuel + 1) expression rest = some (expression, rest) := by
  unfold parseTrailers
  cases ends <;> rfl

/-- A name alone is an operand. -/
theorem parseFactor_name (name : String) (ends : EndsOperand rest) :
    parseFactor (fuel + 2) (.word name :: rest) = some (.name name, rest) := by
  have trailers : parseTrailers (fuel + 1) (.name name) rest = some (.name name, rest) :=
    parseTrailers_ends ends
  have atom : parseAtom (fuel + 1) (.word name :: rest) = some (.name name, rest) := rfl
  unfold parseFactor
  simp only [atom]
  exact (congrArg (Option.bind · _) trailers).trans (by cases ends <;> rfl)

/-- A name with an index behind it is an operand. -/
theorem parseFactor_subscript (name : String) {index : Expression} {inside : List Token}
    (indexed : parseIndex fuel inside = some (index, rest)) (ends : EndsOperand rest)
    (positive : 0 < fuel) :
    parseFactor (fuel + 2) (.word name :: .symbol "[" :: inside) =
      some (.subscript (.name name) index, rest) := by
  have trailers : parseTrailers fuel (.subscript (.name name) index) rest =
      some (.subscript (.name name) index, rest) := by
    obtain ⟨less, rfl⟩ := Nat.exists_eq_add_of_lt positive
    rw [Nat.zero_add]
    exact parseTrailers_ends ends
  have opened : parseTrailers (fuel + 1) (.name name) (.symbol "[" :: inside) =
      some (.subscript (.name name) index, rest) := by
    unfold parseTrailers
    simp only [indexed]
    exact trailers
  have atom : parseAtom (fuel + 1) (.word name :: .symbol "[" :: inside) =
      some (.name name, .symbol "[" :: inside) := rfl
  unfold parseFactor
  simp only [atom]
  exact (congrArg (Option.bind · _) opened).trans (by cases ends <;> rfl)

end Expression

namespace TypeExpr

open Expression (Token EndsOperand BeginsWithName parsePlace parsePlaces parseIndex parseFactor)

variable {fuel : Nat} {tokens rest : List Token}

theorem parseIndex_item {hint : TypeExpr}
    (item : parsePlace fuel tokens = some (hint.expression, .symbol "]" :: rest)) :
    parseIndex (fuel + 1) tokens = some (hint.expression, rest) := by
  unfold parseIndex
  simp only [item]
  cases hint <;> rfl

theorem parseIndex_pair {key value : TypeExpr} {more : List Token} (begins : BeginsWithName more)
    (first : parsePlace (fuel + 1) tokens = some (key.expression, .symbol "," :: more))
    (second : parsePlace fuel more = some (value.expression, .symbol "]" :: rest)) :
    parseIndex (fuel + 2) tokens =
      some (.display .tuple [key.expression, value.expression], rest) := by
  have places : parsePlaces (fuel + 1) more = some ([value.expression], rest) := by
    unfold parsePlaces
    cases begins
    all_goals
      simp only [second]
      rfl
  unfold parseIndex
  simp only [first]
  have paired := congrArg (Option.bind · fun places : List Expression × List Token =>
    some (Expression.display .tuple (key.expression :: places.1), places.2)) places
  cases key <;> exact paired

theorem beginsWithName_tokens (hint : TypeExpr) (ends : EndsOperand rest) :
    BeginsWithName (hint.tokens ++ rest) := by
  cases hint with
  | named name =>
    cases ends with
    | nothing => exact .alone name
    | bracket rest => exact .before name "]" rest (by decide)
    | comma rest => exact .before name "," rest (by decide)
  | list item => exact .before "list" "[" _ (by decide)
  | map key value => exact .before "dict" "[" _ (by decide)

/-- The tokens of a type expression are read as its expression. Each bracket takes a step down
through the levels of operators, which fuel is left for. -/
theorem parseFactor_tokens (hint : TypeExpr) (enough : 17 * hint.nesting + 2 ≤ fuel)
    (ends : EndsOperand rest) :
    parseFactor fuel (hint.tokens ++ rest) = some (hint.expression, rest) := by
  induction hint generalizing fuel rest with
  | named name =>
    obtain ⟨left, rfl⟩ := Nat.exists_eq_add_of_le' enough
    exact Expression.parseFactor_name name ends
  | list item ih =>
    rw [nesting] at enough
    obtain ⟨left, rfl⟩ : ∃ left, fuel = left + 16 := Nat.exists_eq_add_of_le' (by omega)
    have place : parsePlace (left + 13) (item.tokens ++ .symbol "]" :: rest) =
        some (item.expression, .symbol "]" :: rest) :=
      Expression.parsePlace_ends (ih (by omega) (.bracket rest)) (.bracket rest)
        (item.beginsWithName_tokens (.bracket rest))
    rw [TypeExpr.tokens, List.cons_append, List.cons_append, List.append_assoc]
    exact Expression.parseFactor_subscript "list" (parseIndex_item place) ends (by omega)
  | map key value keyIh valueIh =>
    rw [nesting] at enough
    obtain ⟨left, rfl⟩ : ∃ left, fuel = left + 17 := Nat.exists_eq_add_of_le' (by omega)
    have second : parsePlace (left + 13) (value.tokens ++ .symbol "]" :: rest) =
        some (value.expression, .symbol "]" :: rest) :=
      Expression.parsePlace_ends (valueIh (by omega) (.bracket rest)) (.bracket rest)
        (value.beginsWithName_tokens (.bracket rest))
    have first :
        parsePlace (left + 14)
        (key.tokens ++ .symbol "," :: (value.tokens ++ .symbol "]" :: rest)) =
        some (key.expression, .symbol "," :: (value.tokens ++ .symbol "]" :: rest)) :=
      Expression.parsePlace_ends (keyIh (by omega) (.comma _)) (.comma _)
        (key.beginsWithName_tokens (.comma _))
    rw [TypeExpr.tokens, List.cons_append, List.cons_append, List.append_assoc, List.cons_append,
      List.append_assoc]
    exact Expression.parseFactor_subscript "dict"
      (parseIndex_pair (value.beginsWithName_tokens (.bracket rest)) first second) ends (by omega)

end TypeExpr

theorem Text.unifyLineEnds_plain {text : List Char} (plain : '\r' ∉ text) :
    unifyLineEnds text = text := by
  induction text with
  | nil => rfl
  | cons c rest ih =>
    obtain ⟨first, others⟩ := not_or.mp (List.mem_cons.not.mp plain)
    rw [unifyLineEnds, ih others]
    · rintro _ rfl _
      exact first rfl
    · rintro rfl
      exact first rfl

/-- No line before a name is blank. -/
theorem Expression.dropBlankLines_start {lines : Nat} {c : Char} {rest : List Char}
    (word : isWordCharacter c = true) : dropBlankLines (lines + 1) (c :: rest) = c :: rest := by
  have apart {d : Char} : isWordCharacter d = false → c ≠ d := ne_of_isWordCharacter word
  have solid : isInlineBlank c = false := by
    simp only [isInlineBlank, Bool.or_eq_false_iff, beq_eq_false_iff_ne]
    exact ⟨⟨apart (by decide), apart (by decide)⟩, apart (by decide)⟩
  have line : c ≠ '\n' := apart (by decide)
  have comment : c ≠ '#' := apart (by decide)
  have joined : c ≠ '\\' := apart (by decide)
  unfold dropBlankLines
  split
  next => rfl
  next same => exact absurd (List.cons.inj same).1 joined
  next same _ =>
    cases same
    simp only [List.dropWhile_cons, solid, Bool.false_eq_true, if_false, List.head?_cons,
      Option.some.injEq, comment]
    split
    next same => exact absurd (List.cons.inj same).1 line
    next => rfl

namespace TypeExpr

open Expression (EndsWord EndsOperand maxNesting tokens?)

variable {hint : TypeExpr}

theorem text_start (plain : hint.HasPlainNames) :
    ∃ c rest, (hint.text .python).toList = c :: rest ∧ isIdentifierStart c = true := by
  cases hint with
  | named name =>
    obtain ⟨c, rest, same, start, -⟩ := isIdentifier_cons plain.identifier
    exact ⟨c, rest, same, start⟩
  | list item => exact ⟨'l', _, text_list item, by decide⟩
  | map key value => exact ⟨'d', _, text_map key value, by decide⟩

theorem text_characters (plain : hint.HasPlainNames) :
    ∀ c ∈ (hint.text .python).toList, IsWordPart c ∨ c ∈ ['[', ']', ',', ' '] := by
  have word {name : String} (plain : IsPlainName name) {c : Char} (member : c ∈ name.toList) :
      IsWordPart c := by
    obtain ⟨_, _, -, -, parts⟩ := isIdentifier_cons plain.identifier
    exact parts c member
  induction hint with
  | named name => exact fun c member => .inl (word plain member)
  | list item ih =>
    intro c member
    rw [text_list, List.mem_append, List.mem_cons, List.mem_append, List.mem_singleton] at member
    rcases member with inside | rfl | inside | rfl
    · exact .inl (word isPlainName_list inside)
    · exact .inr (by decide)
    · exact ih plain c inside
    · exact .inr (by decide)
  | map key value keyIh valueIh =>
    intro c member
    rw [text_map, List.mem_append, List.mem_cons, List.mem_append, List.mem_cons, List.mem_cons,
      List.mem_append, List.mem_singleton] at member
    rcases member with inside | rfl | inside | rfl | rfl | inside | rfl
    · exact .inl (word isPlainName_dict inside)
    · exact .inr (by decide)
    · exact keyIh plain.1 c inside
    · exact .inr (by decide)
    · exact .inr (by decide)
    · exact valueIh plain.2 c inside
    · exact .inr (by decide)

theorem lengths (plain : hint.HasPlainNames) : hint.pieces ≤ (hint.text .python).toList.length ∧
    hint.nesting ≤ (hint.text .python).toList.length := by
  induction hint with
  | named name =>
    obtain ⟨c, rest, same, -⟩ := isIdentifier_cons plain.identifier
    rw [show text .python (.named name) = name from rfl, same]
    exact ⟨Nat.succ_le_succ (Nat.zero_le _), Nat.zero_le _⟩
  | list item ih =>
    obtain ⟨pieced, nested⟩ := ih plain
    have word : "list".toList.length = 4 := rfl
    rw [text_list, pieces, nesting]
    simp only [List.length_append, List.length_cons, List.length_nil]
    omega
  | map key value keyIh valueIh =>
    obtain ⟨pieced, nested⟩ := keyIh plain.1
    obtain ⟨piecedValue, nestedValue⟩ := valueIh plain.2
    have word : "dict".toList.length = 4 := rfl
    rw [text_map, pieces, nesting]
    simp only [List.length_append, List.length_cons, List.length_nil]
    omega

theorem hasFreeAssignments_expression (hint : TypeExpr) (place : Expression.Nesting) :
    Expression.hasFreeAssignments place hint.expression = true := by
  induction hint with
  | named name => rfl
  | list item ih => exact ih
  | map key value keyIh valueIh =>
    simp [expression, Expression.hasFreeAssignments, Expression.haveFreeAssignments, keyIh, valueIh]

/-- A text by itself falls into its tokens, with fuel for each of its characters. -/
theorem tokens?_whole (plain : hint.HasPlainNames) (shallow : hint.nesting ≤ maxNesting) :
    tokens? ((hint.text .python).toList.length + 1) [] (hint.text .python).toList =
      some hint.tokens := by
  obtain ⟨left, more⟩ := Nat.exists_eq_add_of_le (lengths plain).1
  have ends : EndsWord [] := by
    rintro _ ⟨⟩
  have fallen : tokens? (hint.pieces + (left + 1)) [] ((hint.text .python).toList ++ []) =
      (tokens? (left + 1) [] []).map (hint.tokens ++ ·) :=
    tokens?_text plain (by simpa using shallow) ends
  rw [List.append_nil, ← Nat.add_assoc, ← more] at fallen
  rw [fallen]
  exact congrArg some (List.append_nil _)

/-- The fuel that a text gives for its tokens is enough for the levels of operators in each
bracket. -/
theorem ofTokens?_tokens {size : Nat} (nested : hint.nesting ≤ size) :
    Expression.ofTokens? (size + 1) hint.tokens = some hint.expression := by
  obtain ⟨left, more⟩ : ∃ left, 24 * (size + 1) + 24 = left + 11 :=
    Nat.exists_eq_add_of_le' (by omega)
  have enough : 17 * hint.nesting + 2 ≤ left := by omega
  have taken := Expression.parseExpression_ends (hint.parseFactor_tokens enough .nothing) .nothing
    (hint.beginsWithName_tokens .nothing)
  rw [List.append_nil] at taken
  rw [Expression.ofTokens?, more, taken]
  rfl

/-- The text of a type expression is read as its expression. -/
theorem parse?_text (plain : hint.HasPlainNames) (shallow : hint.nesting ≤ maxNesting) :
    Expression.parse? (hint.text .python) = some hint.expression := by
  obtain ⟨c, rest, same, start⟩ := text_start plain
  have unified : unifyLineEnds (hint.text .python).toList = (hint.text .python).toList := by
    refine unifyLineEnds_plain fun member => ?_
    rcases text_characters plain _ member with word | other
    · exact absurd word.inWord (by decide)
    · exact absurd other (by decide)
  have tokened := tokens?_whole plain shallow
  have whole := ofTokens?_tokens (lengths plain).2
  have word : Expression.isWordCharacter c = true := (isWordPart_of_start start).inWord
  have solid : (c == ' ' || c == '\t') = false := by
    simp only [Bool.or_eq_false_iff, beq_eq_false_iff_ne]
    constructor
    · exact Expression.ne_of_isWordCharacter word (by decide)
    · exact Expression.ne_of_isWordCharacter word (by decide)
  rw [same] at unified tokened whole
  unfold Expression.parse?
  simp only [same, unified, Expression.dropBlankLines_start word, tokened, solid,
    Bool.false_eq_true, if_false]
  rw [Option.bind_eq_bind, Option.bind_some, whole, Option.filter_some,
    hasFreeAssignments_expression]
  rfl

/-- The text of a type expression holds its expression, and nothing that cannot be read. -/
theorem ofText_text (plain : hint.HasPlainNames) (shallow : hint.nesting ≤ maxNesting) :
    Expression.ofText (hint.text .python) = .ok hint.expression := by
  obtain ⟨c, rest, same, start⟩ := text_start plain
  have characters := text_characters plain
  have below : ∀ c ∈ (hint.text .python).toList, c.toNat < 0xed800 := by
    intro c member
    rcases characters c member with word | other
    · exact word.below
    · simp only [List.mem_cons, List.not_mem_nil, or_false] at other
      rcases other with rfl | rfl | rfl | rfl <;> decide
  have terminated : (hint.text .python).toList.contains '\x00' = false := by
    rw [List.contains_eq_mem, decide_eq_false_iff_not]
    intro member
    rcases characters _ member with word | other
    · exact absurd word.inWord (by decide)
    · exact absurd other (by decide)
  have plainStart : c ≠ '*' := by
    rintro rfl
    exact absurd start (by decide +kernel)
  rw [same] at terminated
  unfold Expression.ofText
  simp only [same, if_neg plainStart, not_hasSurrogate below, terminated, parse?_text plain shallow,
    Bool.false_eq_true, if_false]

end TypeExpr

end WireModel
