import WireModel.Host.Method.Basic
import WireModel.Text.Encoding

/-!
Texts as bytes and bytes as texts, with the complaints about what cannot be written or read.
-/

namespace WireModel

open Text

namespace HostType

def encodingOf (name : String) : Except Fault Encoding :=
  if name.contains '\x00' then .error (.operation .wrongValue "embedded null character")
  else
    match Encoding.named? name with
    | some encoding => .ok encoding
    | Option.none => .error (.operation .unknownEncoding ("unknown encoding: " ++ name))

/-- The outcome of coding as a substitution of a name has it. The name is only looked at where
something cannot be written or read. -/
def substituting {α : Type} (name : String) (code : Substitution → Except CodingError α)
    (complaint : CodingError → Fault) : Except Fault α :=
  match code .strict with
  | .ok result => .ok result
  | .error error =>
    match Substitution.named? name with
    | Option.none =>
      .error (.operation .unknownEncoding ("unknown error handler name '" ++ name ++ "'"))
    | some substitution =>
      match code substitution with
      | .ok result => .ok result
      | .error _ => .error (complaint error)

/-- What cannot be coded and where it stands: one thing, or a run of things. -/
def codingText (verb thing shown : String) (encoding : Encoding) (error : CodingError) : String :=
  "'" ++ encoding.name ++ "' codec can't " ++ verb ++ " " ++ thing ++
    (if error.count = 1 then " " ++ shown ++ " in position " ++ toString error.first
    else
      "s in position " ++ toString error.first ++ "-" ++
        toString (error.first + error.count - 1)) ++
    ": " ++ error.reason

def encoded (encodingName substitutionName content : String) : Except Fault (List Nat) := do
  let encoding ← encodingOf encodingName
  let codes := codes content
  substituting substitutionName (fun substitution => encoding.write substitution codes) fun error =>
    let code := (codes[error.first]?).getD 0
    let shown := "'" ++ String.ofList (Encoding.replacement code .escape) ++ "'"
    .operation .unencodable (codingText "encode" "character" shown encoding error)

def decoded (encodingName substitutionName : String) (bytes : List Nat) : Except Fault String := do
  let encoding ← encodingOf encodingName
  let codes ← substituting substitutionName (fun substitution => encoding.read substitution bytes)
    fun error =>
      let byte := (bytes[error.first]?).getD 0
      let shown := "0x" ++ String.ofList (hexDigits 2 byte)
      .operation .undecodable (codingText "decode" "byte" shown encoding error)
  return ofCodes codes

end HostType

end WireModel
