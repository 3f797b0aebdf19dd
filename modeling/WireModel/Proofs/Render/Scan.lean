import WireModel.Name
import WireModel.Render.JavaLiteral
import WireModel.Render.Lines

/-!
What a scan of brackets makes of a text, stated so that the parts of a text can be scanned by
themselves: a part of source text leads from the brackets that are open in front of it to those that
are open behind it.
-/

namespace WireModel.Render

/-- Where a scan stands, and the brackets that are open there. -/
abbrev ScanState :=
  ScanMode × List Char

/-- A scan of one character; it stops at a bracket that closes no open one. -/
def scanChar : ScanState → Char → Option ScanState
  | (.escaped, stack), _ => some (.literal, stack)
  | (.literal, stack), c =>
    if c = '\\' then some (.escaped, stack)
    else if c = '"' then some (.code, stack)
    else some (.literal, stack)
  | (.code, stack), c =>
    if c = '"' then some (.literal, stack)
    else if c = '{' || c = '(' then some (.code, c :: stack)
    else
      match openerOf? c with
      | none => some (.code, stack)
      | some opener =>
        match stack with
        | top :: stack => if top = opener then some (.code, stack) else none
        | [] => none

def scan (state : ScanState) (text : List Char) : Option ScanState :=
  text.foldlM scanChar state

theorem scan_cons {state : ScanState} {c : Char} {rest : List Char} :
    scan state (c :: rest) = (scanChar state c).bind (scan · rest) :=
  rfl

theorem scan_append {state : ScanState} {text other : List Char} :
    scan state (text ++ other) = (scan state text).bind (scan · other) :=
  List.foldlM_append

theorem scan_chars {state after : ScanState} {text : List Char}
    (scanned : scan state text = some after) :
    scan state (String.ofList text).toList = some after := by
  rw [String.toList_ofList, scanned]

/-- A text is balanced if a scan of it ends in code, with no bracket open. -/
theorem balancedFrom_iff {mode : ScanMode} {stack text : List Char} :
    balancedFrom mode stack text = true ↔ scan (mode, stack) text = some (.code, []) := by
  induction text generalizing mode stack with
  | nil => cases mode <;> cases stack <;> simp [balancedFrom, scan]
  | cons c rest ih =>
    rw [scan_cons]
    cases mode with
    | escaped => rw [balancedFrom, scanChar, ih]; rfl
    | literal =>
      rw [balancedFrom, scanChar]
      split
      · exact ih
      · split <;> exact ih
    | code =>
      rw [balancedFrom, scanChar]
      split
      · exact ih
      · split
        · exact ih
        · cases openerOf? c with
          | none => exact ih
          | some opener =>
            cases stack with
            | nil => simp
            | cons top stack =>
              by_cases opens : top = opener
              · simpa [opens] using ih
              · simp [opens]

/-- What is open below the brackets that a scan needs stays open. -/
theorem scanChar_below {mode after : ScanMode} {stack left below : List Char} {c : Char}
    (scanned : scanChar (mode, stack) c = some (after, left)) :
    scanChar (mode, stack ++ below) c = some (after, left ++ below) := by
  revert scanned
  cases mode with
  | escaped => rintro ⟨⟩; rfl
  | literal =>
    rw [scanChar, scanChar]
    split
    · rintro ⟨⟩; rfl
    · split <;> (rintro ⟨⟩; rfl)
  | code =>
    rw [scanChar, scanChar]
    split
    · rintro ⟨⟩; rfl
    · split
      · rintro ⟨⟩; rfl
      · cases openerOf? c with
        | none => rintro ⟨⟩; rfl
        | some opener =>
          cases stack with
          | nil => rintro ⟨⟩
          | cons top stack =>
            by_cases opens : top = opener
            · simp [opens]
            · simp [opens]

theorem scan_below {mode after : ScanMode} {stack left below text : List Char}
    (scanned : scan (mode, stack) text = some (after, left)) :
    scan (mode, stack ++ below) text = some (after, left ++ below) := by
  induction text generalizing mode stack with
  | nil =>
    cases scanned
    rfl
  | cons c rest ih =>
    obtain ⟨⟨middle, open_⟩, first, others⟩ := Option.bind_eq_some_iff.mp scanned
    rw [scan_cons, scanChar_below first]
    exact ih others

/-- A scan of the text that begins in code ends in code, and leads from the one stack of open
brackets to the other. -/
def Leads (before : List Char) (text : String) (after : List Char) : Prop :=
  scan (.code, before) text.toList = some (.code, after)

/-- A scan of the text begins and ends in code and changes nothing. -/
def Neutral (text : String) : Prop :=
  Leads [] text []

namespace Leads

variable {before middle after : List Char} {text other : String}

/-- The scan of a given text is computed. -/
theorem chars {text : List Char} (scanned : scan (.code, before) text = some (.code, after)) :
    Leads before (String.ofList text) after :=
  scan_chars scanned

theorem append (first : Leads before text middle) (last : Leads middle other after) :
    Leads before (text ++ other) after := by
  rw [Leads, String.toList_append, scan_append, first]
  exact last

theorem inside {stack : List Char} (leads : Leads before text after) :
    Leads (before ++ stack) text (after ++ stack) :=
  scan_below leads

end Leads

namespace Neutral

variable {text other : String}

/-- A neutral text changes nothing, whatever is open around it. -/
theorem leads (neutral : Neutral text) (stack : List Char) : Leads stack text stack :=
  Leads.inside neutral

theorem empty : Neutral "" :=
  rfl

theorem append (neutral : Neutral text) (other_neutral : Neutral other) : Neutral (text ++ other) :=
  Leads.append neutral other_neutral

theorem intercalate {texts : List String} (neutral : Neutral text)
    (each : ∀ item ∈ texts, Neutral item) :
    Neutral (text.intercalate texts) := by
  induction texts with
  | nil => exact empty
  | cons item rest ih =>
    obtain ⟨first, others⟩ := List.forall_mem_cons.mp each
    cases rest with
    | nil => rwa [String.intercalate_singleton]
    | cons next rest =>
      rw [String.intercalate_cons_cons]
      exact (first.append neutral).append (ih others)

/-- What the text in front opens may be closed behind. -/
theorem between {front back : String} {opened : List Char} (opens : Leads [] front opened)
    (neutral : Neutral text) (closes : Leads opened back []) : Neutral (front ++ text ++ back) :=
  Leads.append (opens.append (neutral.leads opened)) closes

theorem braced (neutral : Neutral text) : Neutral (braced text) :=
  .between (.chars rfl) neutral (.chars rfl)

end Neutral

/-- The characters that a scan of code does not pass over: quotes and brackets. -/
def isDelimiter (c : Char) : Bool :=
  c ∈ ['"', '(', ')', '{', '}']

/-- The text has no quote and no bracket. -/
def Plain (text : List Char) : Prop :=
  ∀ c ∈ text, isDelimiter c = false

instance : DecidablePred Plain :=
  List.decidableBAll fun c => isDelimiter c = false

theorem plain_cons {c : Char} {rest : List Char} :
    Plain (c :: rest) ↔ isDelimiter c = false ∧ Plain rest :=
  List.forall_mem_cons

theorem scanChar_code {c : Char} {stack : List Char} (plain : isDelimiter c = false) :
    scanChar (.code, stack) c = some (.code, stack) := by
  simp only [isDelimiter, decide_eq_false_iff_not, List.mem_cons, List.not_mem_nil, or_false,
    not_or] at plain
  obtain ⟨quote, opening, _, openingBrace, _⟩ := plain
  simp [scanChar, openerOf?, quote, opening, openingBrace]

theorem Plain.scan {text stack : List Char} (plain : Plain text) :
    scan (.code, stack) text = some (.code, stack) := by
  induction text with
  | nil => rfl
  | cons c rest ih =>
    obtain ⟨first, others⟩ := plain_cons.mp plain
    rw [scan_cons, scanChar_code first]
    exact ih others

theorem Plain.neutral {text : String} (plain : Plain text.toList) : Neutral text :=
  plain.scan

/-- Inside a literal a text without quotes changes nothing, but may end with a backslash. -/
theorem Plain.scan_literal {text : List Char} (plain : Plain text) {mode : ScanMode}
    (inside : mode ≠ .code)
    (stack : List Char) :
    ∃ after ≠ ScanMode.code, Render.scan (mode, stack) text = some (after, stack) := by
  induction text generalizing mode with
  | nil => exact ⟨mode, inside, rfl⟩
  | cons c rest ih =>
    obtain ⟨first, others⟩ := plain_cons.mp plain
    have noQuote : c ≠ '"' := by
      rintro rfl
      cases first
    rw [scan_cons]
    cases mode with
    | code => exact absurd rfl inside
    | escaped => exact ih others (by decide)
    | literal =>
      rw [scanChar, if_neg noQuote]
      split
      · exact ih others (by decide)
      · exact ih others (by decide)

theorem scan_javaEscaped {c : Char} {stack : List Char} :
    scan (.literal, stack) (javaEscaped c) = some (.literal, stack) := by
  rw [javaEscaped]
  split
  · rfl
  · split
    · rfl
    · split
      · rfl
      · next notBackslash notQuote _ => simp [scan, scanChar, notBackslash, notQuote]

/-- Whatever a text holds, its literal is neutral: the scan leaves it at the quote that ends it. -/
theorem neutral_javaString (text : String) : Neutral (javaString text) := by
  have inside (chars : List Char) :
      scan (.literal, []) (chars.flatMap javaEscaped) = some (.literal, []) := by
    induction chars with
    | nil => rfl
    | cons c rest ih => rw [List.flatMap_cons, scan_append, scan_javaEscaped, Option.bind_some, ih]
  rw [Neutral, Leads, javaString, String.toList_ofList, List.cons_append, scan_cons]
  exact scan_append.trans (by rw [inside]; rfl)

/-- No code point from the first to the last is that of a delimiter. -/
def PlainRange (first last : Nat) : Prop :=
  0x29 < first ∧ (last < 0x7b ∨ 0x7d < first)

instance (first last : Nat) : Decidable (PlainRange first last) :=
  inferInstanceAs (Decidable (_ ∧ _))

theorem PlainRange.isDelimiter {first last code : Nat} (plain : PlainRange first last)
    (from_first : first ≤ code) (to_last : code ≤ last) :
    isDelimiter (Char.ofNat code) = false := by
  have told : (Char.ofNat code).toNat = if code.isValidChar then code else 0 := by
    by_cases valid : code.isValidChar
    · have made : Char.ofNat code = Char.ofNatAux code valid := dif_pos valid
      rw [if_pos valid, made]
      rfl
    · have made : Char.ofNat code = '\x00' := dif_neg valid
      rw [if_neg valid, made]
      rfl
  obtain ⟨above, apart⟩ := plain
  rw [Render.isDelimiter, decide_eq_false_iff_not]
  intro member
  have met : (Char.ofNat code).toNat ∈ [0x22, 0x28, 0x29, 0x7b, 0x7d] :=
    List.mem_map_of_mem (f := Char.toNat) member
  simp only [told, List.mem_cons, List.not_mem_nil, or_false] at met
  split at met <;> omega

/-- No delimiter is the upper case of another character. -/
theorem plain_upperChar {c : Char} (plain : isDelimiter c = false) : Plain (Text.upperChar c) := by
  have expanded : ∀ expansion ∈ Text.CaseData.upperExpansions, ∀ code ∈ expansion.2,
      PlainRange code code := by decide +kernel
  have moved : ∀ range ∈ Text.CaseData.upper,
      PlainRange range.image (range.image + (range.last - range.first)) := by decide +kernel
  rw [Text.upperChar, Text.imageOf]
  split
  · next codes found =>
    obtain ⟨front, back, entries, -⟩ := List.lookup_eq_some_iff.mp found
    intro d member
    obtain ⟨code, inside, rfl⟩ := List.mem_map.mp member
    exact (expanded (c.toNat, codes) (by simp [entries]) code inside).isDelimiter (Nat.le_refl _)
      (Nat.le_refl _)
  · split
    · next code found =>
      obtain ⟨range, inside, image⟩ := List.exists_of_findSome?_eq_some found
      rw [Text.CharRange.image?, Option.ite_none_right_eq_some] at image
      obtain ⟨within, ⟨⟩⟩ := image
      refine plain_cons.mpr ⟨(moved range inside).isDelimiter ?_ ?_, by simp [Plain]⟩ <;> omega
    · exact plain_cons.mpr ⟨plain, by simp [Plain]⟩

theorem plain_append {text other : List Char} :
    Plain (text ++ other) ↔ Plain text ∧ Plain other :=
  List.forall_mem_append

theorem plain_camelOfSnake {text : List Char} (plain : Plain text) :
    Plain (Name.camelOfSnake text) := by
  fun_induction Name.camelOfSnake text with
  | case1 => exact plain
  | case2 => simp [Plain]
  | case3 c rest ih =>
    obtain ⟨_, plain⟩ := plain_cons.mp plain
    obtain ⟨first, others⟩ := plain_cons.mp plain
    exact plain_append.mpr ⟨plain_upperChar first, ih others⟩
  | case4 c rest _ _ ih =>
    obtain ⟨first, others⟩ := plain_cons.mp plain
    exact plain_cons.mpr ⟨first, ih others⟩

theorem plain_raiseFirst {text : List Char} (plain : Plain text) :
    Plain (Name.raiseFirst text) := by
  cases text with
  | nil => exact plain
  | cons c rest =>
    obtain ⟨first, others⟩ := plain_cons.mp plain
    exact plain_append.mpr ⟨plain_upperChar first, others⟩

theorem neutral_toString (n : Nat) : Neutral (toString n) := by
  refine Plain.neutral fun c member => ?_
  rw [Nat.toString_eq_repr, Nat.repr, String.toList_ofList] at member
  have digit : c.isDigit = true := Nat.isDigit_of_mem_toDigits (by decide) (by decide) member
  rw [isDelimiter, decide_eq_false_iff_not]
  intro delimiter
  have noDigit : ∀ d ∈ ['"', '(', ')', '{', '}'], d.isDigit = false := by simp
  rw [noDigit c delimiter] at digit
  cases digit

variable {name : Name}

theorem neutral_camel (plain : Plain name.snake.toList) : Neutral name.camel := by
  refine Plain.neutral ?_
  rw [Name.camel, String.toList_ofList]
  exact plain_camelOfSnake plain

theorem neutral_pascal (plain : Plain name.snake.toList) : Neutral name.pascal := by
  refine Plain.neutral ?_
  rw [Name.pascal, String.toList_ofList]
  exact plain_raiseFirst (plain_camelOfSnake plain)

theorem neutral_upperSnake (plain : Plain name.snake.toList) : Neutral name.upperSnake := by
  refine Plain.neutral ?_
  rw [Name.upperSnake, String.toList_ofList]
  intro c member
  obtain ⟨d, inside, image⟩ := List.mem_flatMap.mp member
  exact plain_upperChar (plain d inside) c image

/-- A scan of the lines one behind the other leads from the one stack of open brackets to the
other. -/
inductive LinesLead : List Char → List String → List Char → Prop where
  | nil {stack : List Char} : LinesLead stack [] stack
  | cons {before middle after : List Char} {line : String} {rest : List String}
      (first : Leads before line middle) (others : LinesLead middle rest after) :
      LinesLead before (line :: rest) after

/-- A scan of the lines begins and ends in code and changes nothing. -/
def NeutralLines (lines : List String) : Prop :=
  LinesLead [] lines []

namespace LinesLead

variable {before middle after : List Char} {lines others : List String}

theorem append (first : LinesLead before lines middle) (last : LinesLead middle others after) :
    LinesLead before (lines ++ others) after := by
  induction first with
  | nil => exact last
  | cons line _ ih => exact .cons line (ih last)

theorem inside {stack : List Char} (leads : LinesLead before lines after) :
    LinesLead (before ++ stack) lines (after ++ stack) := by
  induction leads with
  | nil => exact .nil
  | cons line _ ih => exact .cons line.inside ih

/-- Blanks in front of the lines change nothing. -/
theorem indent (leads : LinesLead before lines after) (level : Nat) :
    LinesLead before (indent level lines) after := by
  have blanks : Neutral (padding level) := by
    refine Plain.neutral ?_
    rw [padding, String.toList_ofList]
    intro c member
    rw [List.eq_of_mem_replicate member]
    rfl
  induction leads with
  | nil => exact .nil
  | cons line _ ih =>
    refine .cons ?_ ih
    dsimp only
    split
    · exact line
    · exact .append (blanks.leads _) line

/-- The ends of the lines change nothing either. -/
theorem joinLines (leads : LinesLead before lines after) :
    Leads before (joinLines lines) after := by
  have lineEnd : Neutral "\n" := rfl
  induction leads with
  | nil => exact lineEnd.leads _
  | @cons _ middle _ line rest first others ih =>
    cases rest with
    | nil =>
      cases others
      rw [Render.joinLines, String.intercalate_singleton]
      exact first.append (lineEnd.leads _)
    | cons next rest =>
      rw [Render.joinLines, String.intercalate_cons_cons, String.append_assoc, String.append_assoc]
      exact first.append ((lineEnd.leads _).append ih)

end LinesLead

namespace NeutralLines

variable {lines others body : List String}

theorem leads (neutral : NeutralLines lines) (stack : List Char) : LinesLead stack lines stack :=
  LinesLead.inside neutral

theorem append (neutral : NeutralLines lines) (others_neutral : NeutralLines others) :
    NeutralLines (lines ++ others) :=
  LinesLead.append neutral others_neutral

theorem cons {line : String} (first : Neutral line) (neutral : NeutralLines lines) :
    NeutralLines (line :: lines) :=
  LinesLead.cons first neutral

theorem nil : NeutralLines [] :=
  LinesLead.nil

theorem blank : NeutralLines [""] :=
  cons .empty nil

theorem indent (neutral : NeutralLines lines) (level : Nat) : NeutralLines (indent level lines) :=
  LinesLead.indent neutral level

theorem flatMap {α : Type} {items : List α} {linesOf : α → List String}
    (each : ∀ item ∈ items, NeutralLines (linesOf item)) :
    NeutralLines (items.flatMap linesOf) := by
  induction items with
  | nil => exact nil
  | cons item rest ih =>
    obtain ⟨first, others⟩ := List.forall_mem_cons.mp each
    exact first.append (ih others)

theorem map {α : Type} {items : List α} {lineOf : α → String}
    (each : ∀ item ∈ items, Neutral (lineOf item)) : NeutralLines (items.map lineOf) := by
  induction items with
  | nil => exact nil
  | cons item rest ih =>
    obtain ⟨first, others⟩ := List.forall_mem_cons.mp each
    exact cons first (ih others)

/-- A block is neutral if its head and its body are. -/
theorem block {head : String} (head_neutral : Neutral head) (neutral : NeutralLines body) :
    NeutralLines (block head body) :=
  LinesLead.cons (Leads.append head_neutral (.chars rfl))
    ((neutral.leads _).append (LinesLead.cons (.chars rfl) .nil))

/-- Neutral lines are a balanced text. -/
theorem isBalanced (neutral : NeutralLines lines) : isBalanced (joinLines lines) = true :=
  balancedFrom_iff.mpr neutral.joinLines

end NeutralLines

end WireModel.Render
