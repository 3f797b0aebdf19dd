import WireModel.Host.Method.Basic

/-!
Texts with fields in braces that are filled with values: each field names a value by its place or
its name, perhaps with an attribute or an item of it, and says how to write it.
-/

namespace WireModel

namespace Template

/-- How the fields are numbered. -/
inductive Numbering where
  | undecided
  /-- By themselves; the number of the next one. -/
  | automatic (next : Nat)
  | manual
  deriving Inhabited

/-- Where the values come from. -/
structure Source where
  model : Model
  /-- The values by place, if there may be some. -/
  places : Option (List HostType)
  /-- The value of a name. -/
  named : String → Building HostType

/-- A field: its name, its conversion and its specification. -/
structure Field where
  name : List Char
  conversion : Option Char
  spec : List Char

def refused {α : Type} (text : String) : Except Fault α :=
  .error (.operation .wrongValue text)

/-- The text in front of a brace, that brace, and what is behind it. -/
def takeLiteral : List Char → List Char × Option Char × List Char
  | [] => ([], none, [])
  | c :: rest =>
    if c = '\x7b' || c = '\x7d' then ([], some c, rest)
    else
      let (text, brace, rest) := takeLiteral rest
      (c :: text, brace, rest)

/-- The name of a field, what ends it, and what is behind it. What stands in square brackets belongs
to the name. -/
def takeName (inBrackets : Bool) : List Char → Except Fault (List Char × Option Char × List Char)
  | [] => .ok ([], none, [])
  | c :: rest =>
    let goOn (inBrackets : Bool) : Except Fault (List Char × Option Char × List Char) := do
      let (name, mark, rest) ← takeName inBrackets rest
      return (c :: name, mark, rest)
    if inBrackets then goOn (c != ']')
    else
      match c with
      | '\x7b' => refused "unexpected '\x7b' in field name"
      | '[' => goOn true
      | '\x7d' | ':' | '!' => .ok ([], some c, rest)
      | _ => goOn false

/-- The specification of a field up to the brace that closes it, and what is behind that. -/
def takeSpec (depth : Nat) : List Char → Except Fault (List Char × List Char)
  | [] => refused "unmatched '\x7b' in format spec"
  | c :: rest =>
    let goOn (depth : Nat) : Except Fault (List Char × List Char) := do
      let (spec, rest) ← takeSpec depth rest
      return (c :: spec, rest)
    match c, depth with
    | '\x7b', depth => goOn (depth + 1)
    | '\x7d', 0 => .ok ([], rest)
    | '\x7d', depth + 1 => goOn depth
    | _, depth => goOn depth

/-- A field behind its opening brace, and what is behind it. -/
def takeField (text : List Char) : Except Fault (Field × List Char) := do
  match ← takeName false text with
  | (name, some '\x7d', rest) => return (⟨name, none, []⟩, rest)
  | (name, some ':', rest) =>
    let (spec, rest) ← takeSpec 0 rest
    return (⟨name, none, spec⟩, rest)
  | (_, some '!', []) => refused "end of string while looking for conversion specifier"
  | (_, some '!', [_]) => refused "unmatched '\x7b' in format spec"
  | (name, some '!', conversion :: '\x7d' :: rest) => return (⟨name, some conversion, []⟩, rest)
  | (name, some '!', conversion :: ':' :: rest) =>
    let (spec, rest) ← takeSpec 0 rest
    return (⟨name, some conversion, spec⟩, rest)
  | (_, some '!', _) => refused "expected ':' after conversion specifier"
  | _ => refused "expected '\x7d' before end of string"

def numberOf? (name : List Char) : Except Fault (Option Nat) := do
  match ← FieldSpec.takeNumber (Text.letters (String.ofList name)) with
  | (some value, []) => return some value
  | _ => return none

/-- The first part of the name of a field, and what is behind it. -/
def splitName (name : List Char) : List Char × List Char :=
  let first := name.takeWhile fun c => c != '.' && c != '['
  (first, name.drop first.length)

/-- The value of an attribute or an item behind a value, and so on. -/
def follow (source : Source) : Nat → List Char → HostType → Building HostType
  | 0, _, value => return value
  | _, [], value => return value
  | fuel + 1, '.' :: rest, value => do
    let (name, rest) := splitName rest
    if name.isEmpty then refused "Empty attribute in format string"
    follow source fuel rest (← value.getAttribute source.model (String.ofList name))
  | fuel + 1, '[' :: rest, value => do
    let name := rest.takeWhile (· != ']')
    if name.length = rest.length then refused "Missing ']' in format string"
    if name.isEmpty then refused "Empty attribute in format string"
    let key ← match ← numberOf? name with
      | some place => pure (HostType.ofInt place)
      | none => pure (.text (String.ofList name))
    follow source fuel (rest.drop (name.length + 1)) (← value.indexed source.model key)
  | _ + 1, _, _ => refused "Only '.' or '[' may follow ']' in format field specifier"

/-- The number of a field among the values by place, and how the next ones are numbered. -/
def number (numbering : Numbering) (given : Option Nat) : Except Fault (Nat × Numbering) :=
  match numbering, given with
  | .undecided, some place => .ok (place, .manual)
  | .manual, some place => .ok (place, .manual)
  | .automatic _, some _ =>
    refused "cannot switch from automatic field numbering to manual field specification"
  | .undecided, none => .ok (0, .automatic 1)
  | .automatic next, none => .ok (next, .automatic (next + 1))
  | .manual, none =>
    refused "cannot switch from manual field specification to automatic field numbering"

/-- The value that the name of a field stands for, and how the next fields are numbered. -/
def valueOf (source : Source) (numbering : Numbering) (name : List Char) :
    Building (HostType × Numbering) := do
  let (first, rest) := splitName name
  let place ← numberOf? first
  let (value, numbering) ←
    if first.isEmpty || place.isSome then do
      let (place, numbering) ← number numbering place
      match source.places with
      | none => refused "Format string contains positional fields"
      | some places =>
        match places[place]? with
        | some value => pure (value, numbering)
        | none =>
          throw (.operation .missingIndex ("Replacement index " ++ toString place ++
            " out of range for positional args tuple"))
    else pure (← source.named (String.ofList first), numbering)
  return (← follow source (rest.length + 1) rest value, numbering)

def conversionOf : Option Char → Except Fault (Option Conversion)
  | none => .ok none
  | some 's' => .ok (some .plain)
  | some 'r' => .ok (some .shown)
  | some 'a' => .ok (some .ascii)
  | some c =>
    refused ("Unknown conversion specifier " ++
      (if 32 < c.toNat && c.toNat < 127 then String.singleton c
      else "\\x" ++ String.ofList (Nat.toDigits 16 c.toNat)))

/-- Fills a template: `depth` templates may stand inside each other. -/
def fill (source : Source) : Nat → Nat → Numbering → List Char → Building (String × Numbering)
  | 0, _, numbering, _ => return ("", numbering)
  | _, 0, _, _ => refused "Max string recursion exceeded"
  | fuel + 1, depth + 1, numbering, text => do
    let (literal, brace, rest) := takeLiteral text
    let before := String.ofList literal
    match brace, rest with
    | none, _ => return (before, numbering)
    | some brace, next :: rest =>
      if brace = next then
        let (behind, numbering) ← fill source fuel (depth + 1) numbering rest
        return (before ++ String.singleton brace ++ behind, numbering)
      else if brace = '\x7d' then refused "Single '\x7d' encountered in format string"
      else
        let (field, rest) ← takeField (next :: rest)
        let (value, numbering) ← valueOf source numbering field.name
        let conversion ← conversionOf field.conversion
        let (spec, numbering) ←
          if field.spec.contains '\x7b' then fill source fuel depth numbering field.spec
          else pure (String.ofList field.spec, numbering)
        let written ← value.inField conversion spec
        let (behind, numbering) ← fill source fuel (depth + 1) numbering rest
        return (before ++ written ++ behind, numbering)
    | some brace, [] =>
      refused ("Single '" ++ String.singleton brace ++ "' encountered in format string")

end Template

def fillTemplate (model : Model) (template : String) (arguments : CallArguments) :
    Building String := do
  let named (name : String) : Building HostType :=
    match arguments.named.lookup name with
    | some value => return value
    | none => throw (.operation .missingKey (Text.quoted name))
  let text := template.toList
  return (← Template.fill ⟨model, some arguments.places, named⟩ (text.length + 1) 2
    .undecided text).1

def fillTemplateFrom (model : Model) (template : String) (map : HostType) : Building String := do
  let named (name : String) : Building HostType := map.indexed model (.text name)
  let text := template.toList
  return (← Template.fill ⟨model, none, named⟩ (text.length + 1) 2 .undecided text).1

end WireModel
