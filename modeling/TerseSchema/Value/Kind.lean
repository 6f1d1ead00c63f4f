import TerseSchema.Value.Basic
/-!
# Kinds of values

The name by which messages speak of a value's kind: the JSON kind where it has one.
-/

namespace TerseSchema

inductive Kind where
  | null
  | boolean
  | integer
  | number
  | string
  | array
  | object
  | date
  | datetime
  | bytes
  | set
  | forbidden
  | schema
deriving DecidableEq, Inhabited

def Kind.name : Kind → String
  | .null => "null"
  | .boolean => "boolean"
  | .integer => "integer"
  | .number => "number"
  | .string => "string"
  | .array => "array"
  | .object => "object"
  | .date => "date"
  | .datetime => "datetime"
  | .bytes => "bytes"
  | .set => "set"
  | .forbidden => "Forbidden"
  | .schema => "Schema"

def Container.kind : Container → Kind
  | .list => .array
  | .map => .object

def Value.kind : Value → Kind
  | .null => .null
  | .bool _ => .boolean
  | .int _ => .integer
  | .float _ => .number
  | .text _ => .string
  | .list _ => .array
  | .tuple _ => .array
  | .map _ => .object
  | .set _ => .set
  | .bytes _ => .bytes
  | .date _ => .date
  | .moment _ => .datetime
  | .forbidden => .forbidden
  | .schema _ => .schema
  | .knot _ container => container.kind
  | .cut _ container => container.kind

end TerseSchema
