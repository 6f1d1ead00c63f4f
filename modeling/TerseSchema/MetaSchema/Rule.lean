import TerseSchema.Text.Pattern
/-!
# Rules of a meta-schema

What a meta-schema demands of a document: a small part of JSON Schema itself, as data.
-/

namespace TerseSchema.MetaSchema

open TerseSchema.Text

inductive TypeName where
  | array
  | boolean
  | integer
  | number
  | object
  | string
deriving DecidableEq

def TypeName.name : TypeName → String
  | .array => "array"
  | .boolean => "boolean"
  | .integer => "integer"
  | .number => "number"
  | .object => "object"
  | .string => "string"

mutual

inductive Demand where
  /-- A schema. -/
  | schema
  | rules (rules : List Rule)
  /-- At least one of several things. -/
  | anyOf (demands : List Demand)
  | anything

/-- One rule of a meta-schema. It concerns values of one type and says nothing of others. -/
inductive Rule where
  | type (names : List TypeName)
  /-- What the values of known properties must be. -/
  | properties (named : List (Text × Demand))
  /-- What the values of all properties must be. -/
  | values (demand : Demand)
  /-- What the names of properties must be. -/
  | names (demand : Demand)
  | items (demand : Demand)
  /-- At least one item. -/
  | nonEmpty
  /-- No two items the same. -/
  | unique
  /-- One of several texts. -/
  | oneOf (texts : List Text)
  /-- A text with a part that a pattern matches; `source` is how messages show the pattern. -/
  | pattern (source : Text) (pattern : Pattern)
  /-- Not below zero. -/
  | notNegative
  /-- Above zero. -/
  | positive

end

end TerseSchema.MetaSchema
