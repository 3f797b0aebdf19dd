import WireModel.Host.Format.Number

/-!
Values as they are written into texts: by themselves, shown, or in a field.
-/

namespace WireModel

open Text

namespace HostType

def written (type : HostType) : String :=
  match type.asText?, type with
  | some content, _ => content
  | Option.none, .constant (.member owner name value) =>
    match owner.category with
    | .enumeration .integers => value.shown
    | .enumeration .flags =>
      if name.isEmpty then owner.name ++ "(" ++ value.shown ++ ")" else owner.name ++ "." ++ name
    | _ => owner.name ++ "." ++ name
  | Option.none, type => type.shown

/-- A text with escapes in the place of characters of more than seven bits. -/
def inAscii (text : String) : String :=
  String.ofList ((codes text).flatMap fun code =>
    if code < 0x80 then [Char.ofNat code] else quotedCode '\'' code)

/-- A member of an enumeration that is neither a number nor a text. -/
def isPlainMember : HostType → Bool
  | .constant (.member owner name value) =>
    (Constant.content? (.member owner name value)).isNone
  | _ => false

/-- A value in the field of a specification. -/
def formatted (type : HostType) (spec : String) : Except Fault String :=
  if type.isPlainMember then formatText "str" type.written spec
  else
    match type.asText?, type.numeral? with
    | some content, _ => formatText type.typeName content spec
    | Option.none, some value =>
      if spec.isEmpty then .ok type.written
      else
        match value with
        | .integer value => formatInteger type.typeName value spec
        | .floating value => formatDouble type.typeName value spec
    | Option.none, Option.none =>
      if spec.isEmpty then .ok type.written
      else
        .error (.wrongOperands ("unsupported format string passed to " ++ type.typeName ++
          ".__format__"))

/-- A value in the field of a specification, after it was perhaps made into a text. -/
def inField (type : HostType) (conversion : Option Conversion) (spec : String) :
    Except Fault String :=
  match conversion with
  | some .plain => formatText "str" type.written spec
  | some .shown => formatText "str" type.shown spec
  | some .ascii => formatText "str" (inAscii type.shown) spec
  | Option.none => type.formatted spec

end HostType

end WireModel
