import WireModel.Proofs.Render.Scan

/-!
What the check of brackets decides. A text passes if it is made of complete literals and of
characters other than quotes, and if its brackets outside of the literals are well bracketed. The
literal of a text is one such literal, whatever the text holds, and so it can stand for any other
one.
-/

namespace WireModel.Render

/-- The inside of a literal: no quote stands in it but behind a backslash, and a backslash takes the
one character that follows it. -/
inductive LiteralInside : List Char → Prop where
  | nil : LiteralInside []
  | plain {c : Char} {rest : List Char} (noQuote : c ≠ '"') (noBackslash : c ≠ '\\')
      (inside : LiteralInside rest) : LiteralInside (c :: rest)
  | escape {c : Char} {rest : List Char} (inside : LiteralInside rest) :
    LiteralInside ('\\' :: c :: rest)

/-- The text is made of complete literals and of characters other than quotes; these are what is
left of it without the literals. -/
inductive WithoutLiterals : List Char → List Char → Prop where
  | nil : WithoutLiterals [] []
  | code {c : Char} {text outside : List Char} (noQuote : c ≠ '"')
    (rest : WithoutLiterals text outside) :
      WithoutLiterals (c :: text) (c :: outside)
  | literal {inside text outside : List Char} (complete : LiteralInside inside)
      (rest : WithoutLiterals text outside) : WithoutLiterals ('"' :: inside ++ '"' :: text) outside

/-- A literal ends at the first quote that no backslash takes. -/
theorem LiteralInside.eq_of_append {inside other text behind : List Char}
    (complete : LiteralInside inside)
    (otherComplete : LiteralInside other) (same : inside ++ '"' :: text = other ++ '"' :: behind) :
    inside = other ∧ text = behind := by
  induction complete generalizing other with
  | nil =>
    cases otherComplete with
    | nil => exact ⟨rfl, (List.cons.inj same).2⟩
    | plain noQuote => exact absurd (List.cons.inj same).1.symm noQuote
    | escape => cases (List.cons.inj same).1
  | plain noQuote noBackslash _ ih =>
    cases otherComplete with
    | nil => exact absurd (List.cons.inj same).1 noQuote
    | plain _ _ others =>
      obtain ⟨rfl, tails⟩ := List.cons.inj same
      obtain ⟨rfl, rfl⟩ := ih others tails
      exact ⟨rfl, rfl⟩
    | escape => exact absurd (List.cons.inj same).1 noBackslash
  | escape _ ih =>
    cases otherComplete with
    | nil => cases (List.cons.inj same).1
    | plain _ noBackslash => exact absurd (List.cons.inj same).1.symm noBackslash
    | escape others =>
      obtain ⟨rfl, tails⟩ := List.cons.inj (List.cons.inj same).2
      obtain ⟨rfl, rfl⟩ := ih others tails
      exact ⟨rfl, rfl⟩

/-- What is left of a text without its literals is determined by the text. -/
theorem WithoutLiterals.unique {text outside other : List Char}
    (left : WithoutLiterals text outside)
    (otherLeft : WithoutLiterals text other) : outside = other := by
  induction left generalizing other with
  | nil =>
    cases otherLeft
    rfl
  | code noQuote _ ih =>
    cases otherLeft with
    | code _ rest => rw [ih rest]
    | literal => exact absurd rfl noQuote
  | @literal inside text outside complete _ ih =>
    generalize spelled : '"' :: inside ++ '"' :: text = whole at otherLeft
    cases otherLeft with
    | nil => cases spelled
    | code noQuote => exact absurd (List.cons.inj spelled).1.symm noQuote
    | literal otherComplete rest =>
      obtain ⟨rfl, rfl⟩ := complete.eq_of_append otherComplete (List.cons.inj spelled).2
      exact ih rest

def bracketPairs : List (Char × Char) :=
  [('(', ')'), ('{', '}')]

/-- The character is a bracket of one of the pairs. -/
def isBracket (c : Char) : Bool :=
  c ∈ ['(', ')', '{', '}']

/-- Each bracket of the word is closed or opened by one of its pair, and pairs are nested. -/
inductive WellBracketed : List Char → Prop where
  | nil : WellBracketed []
  | block {opener closer : Char} {inside behind : List Char}
    (pair : (opener, closer) ∈ bracketPairs)
      (inner : WellBracketed inside) (rest : WellBracketed behind) :
      WellBracketed (opener :: inside ++ closer :: behind)

/-- The word closes the open brackets in their order, and what stands between is well bracketed. -/
inductive Closes : List Char → List Char → Prop where
  | nil {word : List Char} (bracketed : WellBracketed word) : Closes [] word
  | cons {opener closer : Char} {stack word behind : List Char}
    (pair : (opener, closer) ∈ bracketPairs)
      (bracketed : WellBracketed word) (others : Closes stack behind) :
      Closes (opener :: stack) (word ++ closer :: behind)

/-- A block in front of a word leaves open what was open. -/
theorem Closes.block {opener closer : Char} {stack inside behind : List Char}
    (pair : (opener, closer) ∈ bracketPairs) (inner : WellBracketed inside)
    (closes : Closes stack behind) :
    Closes stack (opener :: inside ++ closer :: behind) := by
  cases closes with
  | nil bracketed => exact .nil (.block pair inner bracketed)
  | cons outerPair bracketed others =>
    have closed := Closes.cons outerPair (.block pair inner bracketed) others
    rwa [List.append_assoc, List.cons_append] at closed

/-- A bracket opens a block or closes one. -/
theorem bracket_cases {c : Char} (bracket : isBracket c = true) :
    (∃ closer, (c, closer) ∈ bracketPairs) ∨ ∃ opener, (opener, c) ∈ bracketPairs := by
  simp only [isBracket, decide_eq_true_eq, List.mem_cons, List.not_mem_nil, or_false] at bracket
  rcases bracket with rfl | rfl | rfl | rfl
  · exact .inl ⟨')', by decide⟩
  · exact .inr ⟨'(', by decide⟩
  · exact .inl ⟨'}', by decide⟩
  · exact .inr ⟨'{', by decide⟩

theorem isDelimiter_of_not_bracket {c : Char} (noQuote : c ≠ '"')
    (noBracket : isBracket c = false) :
    isDelimiter c = false := by
  rw [isBracket, decide_eq_false_iff_not] at noBracket
  rw [isDelimiter, decide_eq_false_iff_not, List.mem_cons, not_or]
  exact ⟨noQuote, noBracket⟩

theorem scanChar_opener {opener closer : Char} {stack : List Char}
    (pair : (opener, closer) ∈ bracketPairs) :
    scanChar (.code, stack) opener = some (.code, opener :: stack) := by
  simp only [bracketPairs, List.mem_cons, Prod.mk.injEq, List.not_mem_nil, or_false] at pair
  obtain ⟨rfl, rfl⟩ | ⟨rfl, rfl⟩ := pair <;> rfl

theorem scanChar_closer {opener closer : Char} {stack : List Char}
    (pair : (opener, closer) ∈ bracketPairs) {after : ScanState} :
    scanChar (.code, stack) closer = some after ↔
      ∃ others, stack = opener :: others ∧ after = (.code, others) := by
  have step : scanChar (.code, []) closer = none ∧ ∀ top others,
      scanChar (.code, top :: others) closer =
        if top = opener then some (.code, others) else none := by
    simp only [bracketPairs, List.mem_cons, Prod.mk.injEq, List.not_mem_nil, or_false] at pair
    obtain ⟨rfl, rfl⟩ | ⟨rfl, rfl⟩ := pair <;> exact ⟨rfl, fun _ _ => rfl⟩
  cases stack with
  | nil => simp [step.1]
  | cons top others =>
    rw [step.2]
    by_cases opens : top = opener
    · simp [opens, eq_comm]
    · simp [opens]

/-- In code only a quote leads into a literal. -/
theorem scanChar_inCode {c : Char} {stack : List Char} {after : ScanState} (noQuote : c ≠ '"')
    (step : scanChar (.code, stack) c = some after) : after.1 = .code := by
  cases bracket : isBracket c with
  | false =>
    rw [scanChar_code (isDelimiter_of_not_bracket noQuote bracket)] at step
    cases step
    rfl
  | true =>
    rcases bracket_cases bracket with ⟨closer, pair⟩ | ⟨opener, pair⟩
    · rw [scanChar_opener pair] at step
      cases step
      rfl
    · obtain ⟨_, _, rfl⟩ := (scanChar_closer pair).mp step
      rfl

/-- A scan passes over a well-bracketed word and changes nothing. -/
theorem WellBracketed.scan {word : List Char} (bracketed : WellBracketed word) (stack : List Char) :
    Render.scan (.code, stack) word = some (.code, stack) := by
  induction bracketed generalizing stack with
  | nil => rfl
  | @block opener closer inside behind pair _ _ innerScan restScan =>
    have closed : scanChar (.code, opener :: stack) closer = some (.code, stack) :=
      (scanChar_closer pair).mpr ⟨stack, rfl, rfl⟩
    rw [List.cons_append, scan_cons, scanChar_opener pair, Option.bind_some, scan_append, innerScan,
      Option.bind_some, scan_cons, closed, Option.bind_some, restScan]

/-- A word of brackets that a scan reads to the end closes what was open. -/
theorem closes_of_scan {stack word : List Char} (brackets : ∀ c ∈ word, isBracket c = true)
    (scanned : scan (.code, stack) word = some (.code, [])) : Closes stack word := by
  induction word generalizing stack with
  | nil =>
    cases scanned
    exact .nil .nil
  | cons c rest ih =>
    obtain ⟨first, others⟩ := List.forall_mem_cons.mp brackets
    obtain ⟨middle, step, scanned⟩ := Option.bind_eq_some_iff.mp scanned
    rcases bracket_cases first with ⟨closer, pair⟩ | ⟨opener, pair⟩
    · rw [scanChar_opener pair] at step
      cases step
      -- What closes this bracket splits the rest into the inside of a block and what stands behind
      -- it.
      cases ih others scanned with
      | cons found bracketed closes =>
        exact .block found bracketed closes
    · obtain ⟨below, rfl, rfl⟩ := (scanChar_closer pair).mp step
      exact .cons pair .nil (ih others scanned)

theorem wellBracketed_iff_scan {word : List Char} (brackets : ∀ c ∈ word, isBracket c = true) :
    WellBracketed word ↔ scan (.code, []) word = some (.code, []) := by
  refine ⟨fun bracketed => bracketed.scan [], fun scanned => ?_⟩
  cases closes_of_scan brackets scanned with
  | nil bracketed => exact bracketed

/-- Within a literal a scan stays inside and changes no bracket, wherever it stops. -/
theorem LiteralInside.scan_front {inside front back : List Char} (complete : LiteralInside inside)
    (parts : inside = front ++ back) (stack : List Char) :
    ∃ mode ≠ ScanMode.code, scan (.literal, stack) front = some (mode, stack) := by
  induction complete generalizing front with
  | nil =>
    obtain ⟨rfl, rfl⟩ := List.append_eq_nil_iff.mp parts.symm
    exact ⟨.literal, by decide, rfl⟩
  | plain noQuote noBackslash _ ih =>
    rcases front with _ | ⟨c, front⟩
    · exact ⟨.literal, by decide, rfl⟩
    · obtain ⟨rfl, tails⟩ := List.cons.inj parts
      rw [scan_cons, scanChar, if_neg noBackslash, if_neg noQuote]
      exact ih tails
  | escape _ ih =>
    rcases front with _ | ⟨c, _ | ⟨d, front⟩⟩
    · exact ⟨.literal, by decide, rfl⟩
    · obtain ⟨rfl, -⟩ := List.cons.inj parts
      exact ⟨.escaped, by decide, rfl⟩
    · obtain ⟨rfl, others⟩ := List.cons.inj parts
      obtain ⟨rfl, tails⟩ := List.cons.inj others
      obtain ⟨mode, stays, scanned⟩ := ih tails
      exact ⟨mode, stays, scanned⟩

theorem LiteralInside.scan {inside : List Char} (complete : LiteralInside inside)
    (stack : List Char) :
    Render.scan (.literal, stack) inside = some (.literal, stack) := by
  induction complete with
  | nil => rfl
  | plain noQuote noBackslash _ ih =>
    rw [scan_cons, scanChar, if_neg noBackslash, if_neg noQuote]
    exact ih
  | escape _ ih => exact ih

/-- A scan of a text is one of the brackets that are left of it. -/
theorem WithoutLiterals.scan {text outside : List Char} (left : WithoutLiterals text outside)
    (stack : List Char) :
    Render.scan (.code, stack) text = Render.scan (.code, stack) (outside.filter isBracket) := by
  induction left generalizing stack with
  | nil => rfl
  | @code c text outside noQuote _ ih =>
    cases bracket : isBracket c with
    | false =>
      rw [List.filter_cons_of_neg (by simp [bracket]), scan_cons,
        scanChar_code (isDelimiter_of_not_bracket noQuote bracket)]
      exact ih stack
    | true =>
      rw [List.filter_cons_of_pos bracket, scan_cons, scan_cons]
      rcases step : scanChar (.code, stack) c with _ | ⟨mode, below⟩
      · rfl
      · obtain rfl : mode = .code := scanChar_inCode noQuote step
        exact ih below
  | literal complete _ ih =>
    have opens : scanChar (.code, stack) '"' = some (.literal, stack) := rfl
    have ends : scanChar (.literal, stack) '"' = some (.code, stack) := rfl
    rw [List.cons_append, scan_cons, opens, Option.bind_some, scan_append, complete.scan,
      Option.bind_some, scan_cons, ends, Option.bind_some, ih]

/-- What stands behind an open literal: the rest of its inside, the quote that ends it, and a text
of literals and other characters. -/
def EndsLiteral (text : List Char) : Prop :=
  ∃ inside behind, text = inside ++ '"' :: behind ∧ LiteralInside inside ∧ ∃ outside,
    WithoutLiterals behind outside

/-- What is read to its end in code, in a literal or behind a backslash in one. -/
def Completes : ScanMode → List Char → Prop
  | .code, text => ∃ outside, WithoutLiterals text outside
  | .literal, text => EndsLiteral text
  | .escaped, text => ∃ c rest, text = c :: rest ∧ EndsLiteral rest

/-- One more character in front of a text that completes. -/
theorem Completes.cons {mode after : ScanMode} {stack below : List Char} {c : Char}
    {rest : List Char}
    (step : scanChar (mode, stack) c = some (after, below)) (completes : Completes after rest) :
    Completes mode (c :: rest) := by
  cases mode with
  | escaped =>
    cases step
    exact ⟨c, rest, rfl, completes⟩
  | literal =>
    rw [scanChar] at step
    by_cases backslash : c = '\\'
    · rw [if_pos backslash] at step
      cases step
      subst backslash
      obtain ⟨d, _, rfl, inside, behind, rfl, complete, left⟩ := completes
      exact ⟨'\\' :: d :: inside, behind, rfl, .escape complete, left⟩
    rw [if_neg backslash] at step
    by_cases quote : c = '"'
    · rw [if_pos quote] at step
      cases step
      subst quote
      exact ⟨[], rest, rfl, .nil, completes⟩
    · rw [if_neg quote] at step
      cases step
      obtain ⟨inside, behind, rfl, complete, left⟩ := completes
      exact ⟨c :: inside, behind, rfl, .plain quote backslash complete, left⟩
  | code =>
    by_cases quote : c = '"'
    · subst quote
      cases step
      obtain ⟨inside, behind, rfl, complete, outside, left⟩ := completes
      exact ⟨outside, .literal complete left⟩
    · obtain rfl : after = .code := scanChar_inCode quote step
      obtain ⟨outside, left⟩ := completes
      exact ⟨c :: outside, .code quote left⟩

theorem completes_of_scan {mode : ScanMode} {stack below text : List Char}
    (scanned : scan (mode, stack) text = some (.code, below)) : Completes mode text := by
  induction text generalizing mode stack with
  | nil =>
    cases scanned
    exact ⟨[], .nil⟩
  | cons c rest ih =>
    obtain ⟨⟨after, middle⟩, step, scanned⟩ := Option.bind_eq_some_iff.mp scanned
    exact .cons step (ih scanned)

/-- The check of brackets passes exactly the texts that are made of complete literals and of
characters other than quotes, and whose brackets outside of the literals are well bracketed. -/
theorem isBalanced_iff_wellBracketed (code : String) :
    isBalanced code = true ↔
      ∃ outside, WithoutLiterals code.toList outside ∧
        WellBracketed (outside.filter isBracket) := by
  have brackets (outside : List Char) : ∀ c ∈ outside.filter isBracket, isBracket c = true :=
    fun c member => (List.mem_filter.mp member).2
  rw [isBalanced, balancedFrom_iff]
  constructor
  · intro scanned
    obtain ⟨outside, left⟩ := completes_of_scan scanned
    rw [left.scan] at scanned
    exact ⟨outside, left, (wellBracketed_iff_scan (brackets outside)).mpr scanned⟩
  · rintro ⟨outside, left, bracketed⟩
    rw [left.scan]
    exact (wellBracketed_iff_scan (brackets outside)).mp bracketed

/-- An escaped quote and brackets in a literal do not count, and a backslash in code takes
nothing. -/
example : isBalanced "a(\"\\\"\x7d(\")\\\x7b\x7d" = true ∧ isBalanced "(\"\\\")" = false ∧
    isBalanced "(\x7b)\x7d" = false := by
  decide

theorem literalInside_append {inside other : List Char} (complete : LiteralInside inside)
    (otherComplete : LiteralInside other) : LiteralInside (inside ++ other) := by
  induction complete with
  | nil => exact otherComplete
  | plain noQuote noBackslash _ ih => exact .plain noQuote noBackslash ih
  | escape _ ih => exact .escape ih

/-- Whatever a text holds, it is escaped to the inside of one literal. -/
theorem literalInside_javaEscaped (text : List Char) :
    LiteralInside (text.flatMap javaEscaped) := by
  induction text with
  | nil => exact .nil
  | cons c rest ih =>
    have escaped : LiteralInside (javaEscaped c) := by
      rw [javaEscaped]
      split
      · exact .escape .nil
      · split
        · exact .escape .nil
        · split
          · exact .escape .nil
          · next noBackslash noQuote _ => exact .plain noQuote noBackslash .nil
    rw [List.flatMap_cons]
    exact literalInside_append escaped ih

/-- The check goes on behind a text where a scan of that text has ended. -/
theorem balancedFrom_append {mode : ScanMode} {stack text rest : List Char} :
    balancedFrom mode stack (text ++ rest) =
      (scan (mode, stack) text).elim false fun after => balancedFrom after.1 after.2 rest := by
  rw [Bool.eq_iff_iff, balancedFrom_iff, scan_append]
  cases scan (mode, stack) text with
  | none => simp
  | some after => exact balancedFrom_iff.symm

/-- Behind code a literal is passed over. -/
theorem isBalanced_around (front text back : String)
    (outside : ∀ after, scan (.code, []) front.toList = some after → after.1 = .code) :
    isBalanced (front ++ javaString text ++ back) =
      (scan (.code, []) front.toList).elim false fun after =>
        balancedFrom .code after.2 back.toList := by
  rw [isBalanced, String.toList_append, String.toList_append, List.append_assoc,
    balancedFrom_append]
  rcases scanned : scan (.code, []) front.toList with _ | ⟨mode, stack⟩
  · rw [Option.elim_none, Option.elim_none]
  · obtain rfl : mode = .code := outside _ scanned
    have passed : scan (.code, stack) (javaString text).toList = some (.code, stack) :=
      (neutral_javaString text).leads stack
    rw [Option.elim_some, balancedFrom_append, passed, Option.elim_some, Option.elim_some]

/-- Where a text of source is scanned to its end in code, or not to its end, any literal behind it
is as good as the empty one: the scan is inside the literal from its first quote to its last, and no
bracket changes. -/
theorem isBalanced_javaString (front text back : String)
    (outside : ∀ after, scan (.code, []) front.toList = some after → after.1 = .code) :
    isBalanced (front ++ javaString text ++ back) = isBalanced (front ++ "\"\"" ++ back) ∧
      ∀ stack, scan (.code, stack) (javaString text).toList = some (.code, stack) ∧
        ∀ first last, (javaString text).toList = first ++ last → first ≠ [] → last ≠ [] →
          ∃ mode ≠ ScanMode.code, scan (.code, stack) first = some (mode, stack) := by
  have empty : "\"\"" = javaString "" := by decide
  refine ⟨?_, fun stack => ⟨(neutral_javaString text).leads stack, ?_⟩⟩
  · rw [empty, isBalanced_around front text back outside, isBalanced_around front "" back outside]
  · intro first last parts begun unfinished
    rw [javaString, String.toList_ofList, List.cons_append] at parts
    obtain ⟨c, front, rfl⟩ := List.exists_cons_of_ne_nil begun
    obtain ⟨rfl, tails⟩ := List.cons.inj parts
    -- The last quote stands in the rest, so that what was read lies within the inside.
    have ends := List.dropLast_concat_getLast unfinished
    rw [← ends, List.append_eq, ← List.append_assoc] at tails
    exact (literalInside_javaEscaped text.toList).scan_front (List.append_inj_left' tails rfl) stack

/-- A text with a quote, a bracket, a backslash and a line end, as an argument of a call. -/
theorem isBalanced_javaString_argument :
    (∀ after, scan (.code, []) "f(".toList = some after → after.1 = .code) ∧
      isBalanced ("f(" ++ javaString "\"\x7d\\\n" ++ ")") = isBalanced ("f(" ++ "\"\"" ++ ")") ∧
      isBalanced ("f(" ++ javaString "\"\x7d\\\n" ++ ")") = true := by
  have outside : ∀ after, scan (.code, []) "f(".toList = some after → after.1 = .code := by
    rintro after ⟨⟩
    rfl
  exact ⟨outside, (isBalanced_javaString "f(" "\"\x7d\\\n" ")" outside).1, by decide⟩

end WireModel.Render
