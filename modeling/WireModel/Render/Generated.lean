import WireModel.Schema.Basic

/-!
Generated classes, and the rule that both targets share: a holder class takes no reserved name.
-/

namespace WireModel

/-- A generated class: its name and its source text. -/
structure GeneratedClass where
  name : String
  code : String
  deriving DecidableEq, Repr

namespace Schema.DataEnum

/-- The holder classes of the object variants. -/
def holders (entity : DataEnum) : List String :=
  entity.variants.filterMap fun v =>
    match v.payload with
    | .object _ => some v.name.pascal
    | _ => none

/-- The data enum has a style that can be generated, and none of its holder classes has a reserved
name or that of the data enum. -/
def check (entity : DataEnum) (reserved : List String) : Except GenerationError Unit :=
  if entity.style ≠ .external then
    .error (.unsupportedStyle entity.className entity.style.word)
  else
    match entity.holders.find? fun holder => holder ∈ entity.className :: reserved with
    | some holder => .error (.holderClash holder entity.className)
    | none => .ok ()

end Schema.DataEnum

end WireModel
