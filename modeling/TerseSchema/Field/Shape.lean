import TerseSchema.Entries
/-!
# Fields of JSON Schema

The closed table of fields that a schema document may have, with the shape of the value of each.
-/

namespace TerseSchema

/-- What kind of value a field holds. -/
inductive Shape where
  | any
  | string
  | count
  | bool
  | strings
  | schema
  | schemas
  | schemaMap
  | schemaOrBool
deriving DecidableEq

namespace Shape

def wanted : Shape → String
  | .any => "any"
  | .string => "string"
  | .count => "unsigned integer"
  | .bool => "boolean"
  | .strings => "array of strings"
  | .schema => "object"
  | .schemas => "array of objects"
  | .schemaMap => "object of objects"
  | .schemaOrBool => "object or boolean"

end Shape

def coreFields : Entries Shape := [
  ("$schema", .string), ("$id", .string), ("$anchor", .string), ("$ref", .string),
  ("$dynamicRef", .string), ("$defs", .schemaMap), ("$comment", .string)]

def applicatorFields : Entries Shape := [
  ("allOf", .schemas), ("anyOf", .schemas), ("oneOf", .schemas), ("not", .schema),
  ("if", .schema), ("then", .schema), ("else", .schema), ("dependentSchemas", .schemaMap),
  ("prefixItems", .schemas), ("items", .schema), ("contains", .schema),
  ("properties", .schemaMap), ("patternProperties", .schemaMap),
  ("additionalProperties", .schemaOrBool), ("propertyNames", .schema)]

def validationFields : Entries Shape := [
  ("type", .string), ("enum", .any), ("const", .any), ("multipleOf", .any), ("maximum", .any),
  ("exclusiveMaximum", .any), ("minimum", .any), ("exclusiveMinimum", .any),
  ("maxLength", .count), ("minLength", .count), ("pattern", .string), ("maxItems", .count),
  ("minItems", .count), ("uniqueItems", .bool), ("maxContains", .count), ("minContains", .count),
  ("maxProperties", .count), ("minProperties", .count), ("required", .strings)]

def annotationFields : Entries Shape := [
  ("format", .string), ("contentEncoding", .string), ("contentMediaType", .string),
  ("contentSchema", .schema), ("title", .string), ("description", .string), ("default", .any),
  ("deprecated", .bool), ("readOnly", .bool), ("writeOnly", .bool), ("examples", .any)]

def fieldShapes : Entries Shape :=
  coreFields ++ applicatorFields ++ validationFields ++ annotationFields

def Shape.ofField? (name : Text) : Option Shape := fieldShapes.get? name

end TerseSchema
