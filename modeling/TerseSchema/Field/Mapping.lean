import TerseSchema.Failure
import TerseSchema.Field.Shape
/-!
# Mapping of schema documents

A document that already is a JSON Schema is read field by field. Each field must be known and its
value must have the field's shape; nested schemas are read the same way.
-/

namespace TerseSchema

/-- The value of a field, once it has been found to have the field's shape. -/
inductive Content where
  | any (value : Value)
  | string (s : Text)
  | count (n : Nat)
  | bool (b : Bool)
  | strings (texts : List Text)
  | schema (s : Schema)
  | schemas (ss : List Schema)
  | schemaMap (ss : Entries Schema)
  | additional (a : Additional)

def Content.extra : Content → Value
  | .any value => value
  | .string s => .text s
  | .count n => .int n
  | .bool b => .bool b
  | .strings texts => .list (texts.map .text)
  | .schema s => .schema s
  | .schemas ss => .list (ss.map .schema)
  | .schemaMap ss => .ofEntries (ss.map fun e => (e.1, .schema e.2))
  | .additional .forbidden => .forbidden
  | .additional (.schema s) => .schema s

/-- A schema with the content of a field: in the place that the schema has for it, or among the
extras. -/
def Schema.assign (s : Schema) (field : Text) (content : Content) : Schema :=
  let kept := { s with extras := Entries.put field content.extra s.extras }
  match content with
  | .string text =>
    if field = "type" then { s with type := text }
    else if field = "description" then { s with description := text }
    else kept
  | .any value => if field = "enum" then { s with enum := value.nonNull } else kept
  | .schemaMap ss => if field = "properties" then { s with properties := some ss } else kept
  | .schema item => if field = "items" then { s with items := some item } else kept
  | .strings names => if field = "required" then { s with required := names } else kept
  | .additional a =>
    if field = "additionalProperties" then { s with additional := some a } else kept
  | _ => kept

def mismatch (field wanted : Text) (found : Kind) (index : Option Int) : Failure :=
  ⟨.fieldMismatch field wanted found.name index, []⟩

/-- A count, or the kind of what is none. A float with a whole value is judged, and named,
as that whole number. -/
def count? : Value → Except Kind Nat
  | .int n => if 0 ≤ n then .ok n.toNat else .error .integer
  | .float x =>
    match x.toInt? with
    | some n => if 0 ≤ n then .ok n.toNat else .error .integer
    | none => .error .number
  | v => .error v.kind

def textItems (field : Text) : Nat → List Value → Except Failure (List Text)
  | _, [] => .ok []
  | position, .text s :: rest => do
    let texts ← textItems field (position + 1) rest
    return s :: texts
  | position, v :: _ => .error (mismatch field "string" v.kind (some position))

def readScalar (field : Text) (shape : Shape) (v : Value) : Except Failure Content :=
  match shape, v with
  | .any, _ => .ok (.any v)
  | .string, .text s => .ok (.string s)
  | .bool, .bool b => .ok (.bool b)
  | .schemaOrBool, .bool b => .ok (.additional (if b then .schema {} else .forbidden))
  | .count, _ =>
    match count? v with
    | .ok n => .ok (.count n)
    | .error found => .error (mismatch field shape.wanted found none)
  | _, _ => .error (mismatch field shape.wanted v.kind none)

mutual

def readField (field : Text) (shape : Shape) : Value → Except Failure Content
  | .map entries =>
    match shape with
    | .any => .ok (.any (.map entries))
    | .schema => do
      let s ← (readFields {} entries).mapError (Failure.nest [.key field])
      return .schema s
    | .schemaOrBool => do
      let s ← (readFields {} entries).mapError (Failure.nest [.key field])
      return .additional (.schema s)
    | .schemaMap => do
      let ss ← readSchemaMap field [] entries
      return .schemaMap ss
    | _ => .error (mismatch field shape.wanted .object none)
  | .list items =>
    match shape with
    | .any => .ok (.any (.list items))
    | .strings => do
      let texts ← textItems field 0 items
      return .strings texts
    | .schemas => do
      let ss ← readSchemas field 0 items
      return .schemas ss
    | _ => .error (mismatch field shape.wanted .array none)
  | .tuple items =>
    match shape with
    | .any => .ok (.any (.tuple items))
    | .strings => do
      let texts ← textItems field 0 items
      return .strings texts
    | .schemas => do
      let ss ← readSchemas field 0 items
      return .schemas ss
    | _ => .error (mismatch field shape.wanted .array none)
  | .knot label container =>
    match shape with
    | .any => .ok (.any (.knot label container))
    | _ => readField field shape container
  | .cut label container =>
    match shape with
    | .any => .ok (.any (.cut label container))
    | _ => .error .endless
  | v => readScalar field shape v
termination_by structural v => v

def readFields (s : Schema) : List (Value × Value) → Except Failure Schema
  | [] => .ok s
  | (.text field, v) :: rest =>
    match Shape.ofField? field with
    | none => .error ⟨.unrecognizedField field, []⟩
    | some shape => do
      let content ← readField field shape v
      readFields (s.assign field content) rest
  | (k, _) :: _ => .error ⟨.showing k (.unrecognizedField k.keyText), []⟩
termination_by structural es => es

/-- The schema that a value describes, if it is a map. -/
def readSchema? : Value → Option (Except Failure Schema)
  | .map entries => some (readFields {} entries)
  | .knot _ container => readSchema? container
  | .cut _ .map => some (.error .endless)
  | _ => none
termination_by structural v => v

def readSchemas (field : Text) (position : Nat) : List Value → Except Failure (List Schema)
  | [] => .ok []
  | v :: rest =>
    match readSchema? v with
    | some result => do
      let s ← result.mapError (Failure.nest [.key field, .index position])
      let ss ← readSchemas field (position + 1) rest
      return s :: ss
    | none => .error (mismatch field "object" v.kind (some position))
termination_by structural vs => vs

def readSchemaMap (field : Text) (done : Entries Schema) :
    List (Value × Value) → Except Failure (Entries Schema)
  | [] => .ok done
  | (k, v) :: rest =>
    let place := [.key field, .key k.keyText]
    match readSchema? v with
    | some (.error ⟨.limit l, _⟩) => .error ⟨.limit l, []⟩
    | some result =>
      if !k.isWritable then .error .longNumeral
      else do
        let s ← result.mapError (Failure.nest place)
        readSchemaMap field (Entries.put k.keyText s done) rest
    | none =>
      .error (if k.isWritable then (mismatch field "object" v.kind none).nest place
        else .longNumeral)
termination_by structural es => es

end

def Schema.ofFields (entries : List (Value × Value)) : Except Failure Schema :=
  readFields {} entries

end TerseSchema
