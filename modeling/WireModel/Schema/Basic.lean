import WireModel.Name
import WireModel.TypeExpr

/-!
The schema of the classes to generate: records, enumerations and data enums with the names, wire
tags and type expressions of their parts.
-/

namespace WireModel

namespace Schema

/-- A field of a record, of a holder, or of an object variant. -/
structure Field where
  name : Name
  tag : String
  type : TypeExpr
  deriving DecidableEq, Repr

/-- A record. -/
structure Record where
  name : Name
  className : String
  fields : List Field
  deriving DecidableEq, Repr

/-- A constant of an enumeration. -/
structure Constant where
  name : Name
  tag : String
  deriving DecidableEq, Repr

/-- An enumeration. -/
structure Enumeration where
  name : Name
  className : String
  constants : List Constant
  deriving DecidableEq, Repr

/-- What a variant carries: nothing, slots, or fields. -/
inductive Payload where
  | unit
  | tuple (slots : List TypeExpr)
  | object (fields : List Field)
  deriving DecidableEq, Repr

/-- A variant of a data enum. -/
structure Variant where
  name : Name
  tag : String
  payload : Payload
  deriving DecidableEq, Repr

/-- How the variant is told on the wire: by a tag around the payload, or in a way that has no
generator. -/
inductive Style where
  | external
  | other (name : String)
  deriving DecidableEq, Repr

def Style.word : Style → String
  | .external => "external"
  | .other name => name

/-- A data enum. -/
structure DataEnum where
  name : Name
  className : String
  style : Style
  variants : List Variant
  deriving DecidableEq, Repr

/-- A class to generate. -/
inductive Entity where
  | record (entity : Record)
  | enumeration (entity : Enumeration)
  | dataEnum (entity : DataEnum)
  deriving DecidableEq, Repr

def Entity.className : Entity → String
  | .record entity => entity.className
  | .enumeration entity => entity.className
  | .dataEnum entity => entity.className

end Schema

/-- The classes to generate, by kind and in the order of their collection. -/
structure Schema where
  records : List Schema.Record
  enumerations : List Schema.Enumeration
  dataEnums : List Schema.DataEnum
  deriving DecidableEq, Repr

namespace Schema

def empty : Schema :=
  ⟨[], [], []⟩

/-- All classes: records, then enumerations, then data enums. -/
def entities (schema : Schema) : List Entity :=
  schema.records.map .record ++ schema.enumerations.map .enumeration ++
    schema.dataEnums.map .dataEnum

/-- Adds a class behind those of its kind. -/
def add (schema : Schema) : Entity → Schema
  | .record entity => { schema with records := schema.records ++ [entity] }
  | .enumeration entity => { schema with enumerations := schema.enumerations ++ [entity] }
  | .dataEnum entity => { schema with dataEnums := schema.dataEnums ++ [entity] }

/-- The first item that stands before already. -/
def firstRepeated? (known : List String) : List String → Option String
  | [] => none
  | name :: rest => if name ∈ known then some name else firstRepeated? (name :: known) rest

/-- All classes, if no two of them have one name. -/
def distinctEntities (schema : Schema) : Except GenerationError (List Entity) :=
  match firstRepeated? [] (schema.entities.map Entity.className) with
  | some name => .error (.repeatedClass name)
  | none => .ok schema.entities

end Schema

end WireModel
