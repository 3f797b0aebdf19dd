import WireModel.Text.CaseData

/-!
Upper and lower case of text. A character may become several (`ß` becomes `SS`), and a capital
sigma becomes a final sigma at the end of a word.
-/

namespace WireModel.Text

def upperChar (c : Char) : List Char :=
  imageOf CaseData.upperExpansions CaseData.upper c

/-- The lower case of one character outside any word. -/
def lowerChar (c : Char) : List Char :=
  imageOf CaseData.lowerExpansions CaseData.lower c

/-- The upper case of a text, character by character. -/
def upper (text : List Char) : List Char :=
  text.flatMap upperChar

/-- A cased character follows, perhaps after ignorable ones. -/
def casedAhead : List Char → Bool
  | [] => false
  | c :: rest =>
    if inRanges CaseData.isIgnorable c then casedAhead rest else inRanges CaseData.isCased c

/-- The character leaves the rule of the final sigma as it is, or decides it anew. -/
def staysCased (afterCased : Bool) (c : Char) : Bool :=
  if inRanges CaseData.isIgnorable c then afterCased else inRanges CaseData.isCased c

/-- The lower case of a character behind a cased one, or not, and in front of others. -/
def lowerBetween (afterCased : Bool) (c : Char) (rest : List Char) : List Char :=
  if c = 'Σ' then [if afterCased && !casedAhead rest then 'ς' else 'σ'] else lowerChar c

/-- The lower case of a text that follows a cased character, or does not. -/
def lowerAfter (afterCased : Bool) : List Char → List Char
  | [] => []
  | c :: rest => lowerBetween afterCased c rest ++ lowerAfter (staysCased afterCased c) rest

def lower (text : List Char) : List Char :=
  lowerAfter false text

/-- The title case of one character: its upper case, where no table says otherwise. -/
def titleChar (c : Char) : List Char :=
  match CaseData.titleExpansions.lookup c.toNat, CaseData.title.findSome? (·.image? c.toNat) with
  | some codes, _ => codes.map Char.ofNat
  | none, some code => [Char.ofNat code]
  | none, none => upperChar c

def isCasedChar (c : Char) : Bool :=
  inRanges CaseData.isUpper c || inRanges CaseData.isLower c || inRanges CaseData.isTitle c

/-- A text whose words begin in title case and go on in lower case, behind a cased character or
not. -/
def titledAfter (afterCased follows : Bool) : List Char → List Char
  | [] => []
  | c :: rest =>
    (if follows then lowerBetween afterCased c rest else titleChar c) ++
      titledAfter (staysCased afterCased c) (isCasedChar c) rest

def titled (text : List Char) : List Char :=
  titledAfter false false text

/-- A text that begins in title case and goes on in lower case. -/
def capitalized : List Char → List Char
  | [] => []
  | c :: rest => titleChar c ++ lowerAfter (staysCased false c) rest

/-- A text whose upper and lower case are exchanged, behind a cased character or not. -/
def swappedAfter (afterCased : Bool) : List Char → List Char
  | [] => []
  | c :: rest =>
    (if inRanges CaseData.isUpper c then lowerBetween afterCased c rest
    else if inRanges CaseData.isLower c then upperChar c
    else [c]) ++ swappedAfter (staysCased afterCased c) rest

/-- A text whose upper and lower case are exchanged. -/
def swapped (text : List Char) : List Char :=
  swappedAfter false text

/-- The characters of the script in which texts fold to upper case. -/
def isCherokee (c : Char) : Bool :=
  inRanges [(0x13a0, 0x13fd), (0xab70, 0xabbf)] c

/-- The form of a character in which its cases are one. -/
def foldedChar (c : Char) : List Char :=
  if isCherokee c then upperChar c
  else if c = 'ẞ' then ['s', 's']
  else (upperChar c).flatMap lowerChar

def folded (text : List Char) : List Char :=
  text.flatMap foldedChar

def isUpperText (text : List Char) : Bool :=
  text.any (inRanges CaseData.isUpper) &&
    !text.any fun c => inRanges CaseData.isLower c || inRanges CaseData.isTitle c

def isLowerText (text : List Char) : Bool :=
  text.any (inRanges CaseData.isLower) &&
    !text.any fun c => inRanges CaseData.isUpper c || inRanges CaseData.isTitle c

/-- Upper-case and title-case characters begin words, and lower-case ones only follow in them. -/
def isTitledAfter (follows : Bool) : List Char → Bool
  | [] => true
  | c :: rest =>
    (if inRanges CaseData.isUpper c || inRanges CaseData.isTitle c then !follows
    else if inRanges CaseData.isLower c then follows
    else true) && isTitledAfter (isCasedChar c) rest

/-- The text has a cased character, and its words begin in title case and go on in lower case. -/
def isTitledText (text : List Char) : Bool :=
  text.any isCasedChar && isTitledAfter false text

end WireModel.Text
