import TerseSchema.MetaSchema.Rule
/-!
# The meta-schema of 2020-12

The seven vocabularies of JSON Schema 2020-12, joined by the dialect's own meta-schema. Keywords
that only annotate, formats among them, demand nothing and are left out.
-/

namespace TerseSchema.MetaSchema

open TerseSchema.Text

/-! ## Shared parts -/

def string : Demand := .rules [.type [.string]]

def boolean : Demand := .rules [.type [.boolean]]

def number : Demand := .rules [.type [.number]]

def schemaMap : Demand := .rules [.type [.object], .values .schema]

def schemaArray : Demand := .rules [.type [.array], .nonEmpty, .items .schema]

def stringArray : Demand := .rules [.type [.array], .items string, .unique]

def nonNegativeInteger : Demand := .rules [.type [.integer], .notNegative]

/-- A line feed may end a text whose pattern reaches up to its end. -/
def lineEnd (p : Pattern) : Pattern := .seq p (.optionally (.literally "\n"))

def notNumberSign : List (Char × Char) := [('\x00', '"'), ('$', Char.ofNat 0x10ffff)]

/-- An identifier has at most one number sign, at its end. -/
def identifierPattern : Pattern :=
  lineEnd (.seq (.star (.char notNumberSign)) (.optionally (.literally "#")))

/-- An anchor starts with a letter or an underscore. -/
def anchorPattern : Pattern :=
  lineEnd (.seq (.char [('A', 'Z'), ('a', 'z'), ('_', '_')])
    (.star (.char [('-', '-'), ('A', 'Z'), ('a', 'z'), ('0', '9'), ('.', '.'), ('_', '_')])))

def identifier : Demand := .rules [.type [.string], .pattern "^[^#]*#?$" identifierPattern]

def anchor : Demand :=
  .rules [.type [.string], .pattern "^[A-Za-z_][-A-Za-z0-9._]*$" anchorPattern]

def list : Demand := .rules [.type [.array], .items .anything]

def positiveNumber : Demand := .rules [.type [.number], .positive]

def simpleType : Demand :=
  .rules [.oneOf ["array", "boolean", "integer", "null", "number", "object", "string"]]

def simpleTypes : Demand :=
  .anyOf [simpleType, .rules [.type [.array], .items simpleType, .nonEmpty, .unique]]

def schemaType : Rule := .type [.object, .boolean]

/-! ## Vocabularies -/

def core : List Rule := [
  schemaType,
  .properties [
    ("$id", identifier),
    ("$schema", string),
    ("$ref", string),
    ("$anchor", anchor),
    ("$dynamicRef", string),
    ("$dynamicAnchor", anchor),
    ("$vocabulary", .rules [.type [.object], .names string, .values boolean]),
    ("$comment", string),
    ("$defs", schemaMap)]]

def applicator : List Rule := [
  schemaType,
  .properties [
    ("prefixItems", schemaArray),
    ("items", .schema),
    ("contains", .schema),
    ("additionalProperties", .schema),
    ("properties", schemaMap),
    ("patternProperties", schemaMap),
    ("dependentSchemas", schemaMap),
    ("propertyNames", .schema),
    ("if", .schema),
    ("then", .schema),
    ("else", .schema),
    ("allOf", schemaArray),
    ("anyOf", schemaArray),
    ("oneOf", schemaArray),
    ("not", .schema)]]

def unevaluated : List Rule := [
  schemaType,
  .properties [("unevaluatedItems", .schema), ("unevaluatedProperties", .schema)]]

def validation : List Rule := [
  schemaType,
  .properties [
    ("type", simpleTypes),
    ("const", .anything),
    ("enum", list),
    ("multipleOf", positiveNumber),
    ("maximum", number),
    ("exclusiveMaximum", number),
    ("minimum", number),
    ("exclusiveMinimum", number),
    ("maxLength", nonNegativeInteger),
    ("minLength", nonNegativeInteger),
    ("pattern", string),
    ("maxItems", nonNegativeInteger),
    ("minItems", nonNegativeInteger),
    ("uniqueItems", boolean),
    ("maxContains", nonNegativeInteger),
    ("minContains", nonNegativeInteger),
    ("maxProperties", nonNegativeInteger),
    ("minProperties", nonNegativeInteger),
    ("required", stringArray),
    ("dependentRequired", .rules [.type [.object], .values stringArray])]]

def metaData : List Rule := [
  schemaType,
  .properties [
    ("title", string),
    ("description", string),
    ("default", .anything),
    ("deprecated", boolean),
    ("readOnly", boolean),
    ("writeOnly", boolean),
    ("examples", list)]]

def formatAnnotation : List Rule := [schemaType, .properties [("format", string)]]

def content : List Rule := [
  schemaType,
  .properties [
    ("contentEncoding", string),
    ("contentMediaType", string),
    ("contentSchema", .schema)]]

def vocabularies : List (List Rule) :=
  [core, applicator, unevaluated, validation, metaData, formatAnnotation, content]

/-- The dialect's own rules, which keep the fields of earlier editions. -/
def dialect : List Rule := [
  schemaType,
  .properties [
    ("definitions", schemaMap),
    ("dependencies", .rules [.type [.object], .values (.anyOf [.schema, stringArray])]),
    ("$recursiveAnchor", anchor),
    ("$recursiveRef", string)]]

def schemaRules : List Rule := vocabularies.flatten ++ dialect

end TerseSchema.MetaSchema
