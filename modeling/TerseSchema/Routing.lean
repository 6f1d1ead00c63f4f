import TerseSchema.Field.Mapping
import TerseSchema.Shorthand.Expansion
/-!
# Routing of documents

A map whose type is a type of JSON Schema, or that has a map of properties, already is a schema
document. Everything else is shorthand.
-/

namespace TerseSchema

def schemaTypes : List Text :=
  ["string", "boolean", "null", "number", "integer", "object", "array"]

inductive Route where
  | schema
  /-- A schema document that names no type but has properties, and so describes objects. -/
  | objectSchema
  | shorthand
deriving DecidableEq

def Value.field? (name : Text) : List (Value × Value) → Option Value
  | [] => none
  | (.text key, v) :: rest => if key = name then some v else Value.field? name rest
  | _ :: rest => Value.field? name rest

def Value.isSchemaType : Value → Bool
  | .text name => schemaTypes.contains name
  | _ => false

def Value.entries? (v : Value) : Option (List (Value × Value)) :=
  match v.untied with
  | .map entries => some entries
  | _ => none

def Route.of (v : Value) : Route :=
  match v.entries? with
  | some entries =>
    if (Value.field? "type" entries).any Value.isSchemaType then .schema
    else if (Value.field? "properties" entries).any Value.isMap then .objectSchema
    else .shorthand
  | none => .shorthand

/-- The schema of a map that already is a schema document. -/
def Schema.ofDocument (v : Value) : Except Failure Schema := Schema.ofFields (v.entries?.getD [])

/-- The schema of a document; an empty document has none. -/
def schemaOf (v : Value) : Except Failure (Option Schema) :=
  match v with
  | .null => .ok none
  | _ =>
    match Route.of v with
    | .schema => do
      let s ← Schema.ofDocument v
      return some s
    | .objectSchema => do
      let s ← Schema.ofDocument v
      return some { s with type := "object" }
    | .shorthand => do
      let s ← Shorthand.expand v
      return some s

end TerseSchema
