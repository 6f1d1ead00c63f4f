import TerseSchema.Limit
import TerseSchema.Number.Shortest
import TerseSchema.Text.Quoted
import TerseSchema.Value.Basic
/-!
# Literal text of values

How messages and keys show a value.
-/

namespace TerseSchema

/-- Numbers in messages have their shortest digits; an exponent is written beyond 16 digits and
below four zeros, with two digits at least. -/
def literalNumber : Decimal.Layout := ⟨-4, 16, 2, "nan", "inf"⟩

def literalBool (b : Bool) : Text := if b then "True" else "False"

def commaSeparated (texts : List Text) : Text := Text.join ", " texts

def braced (texts : List Text) : Text := "\x7b" ++ commaSeparated texts ++ "\x7d"

def Date.literal (d : Date) : Text :=
  "datetime.date(" ++ commaSeparated ([d.year, d.month, d.day].map fun n => toString n) ++ ")"

/-- The literal of an offset from universal time. Negative distances count
back from a whole day. -/
def offsetLiteral (seconds : Int) : Text :=
  if seconds = 0 then "datetime.timezone.utc"
  else
    let days := seconds / 86400
    let rest := seconds % 86400
    let parts : List String :=
      (if days = 0 then [] else ["days=" ++ toString days]) ++
      (if rest = 0 then [] else ["seconds=" ++ toString rest])
    "datetime.timezone(datetime.timedelta(" ++ commaSeparated (parts.map Text.ofString) ++ "))"

def Moment.literal (t : Moment) : Text :=
  let fine :=
    if t.microsecond ≠ 0 then [t.second, t.microsecond]
    else if t.second ≠ 0 then [t.second]
    else []
  let numbers := [t.date.year, t.date.month, t.date.day, t.hour, t.minute] ++ fine
  let zone : List Text := match t.offset with
    | none => []
    | some seconds => ["tzinfo=" ++ offsetLiteral seconds]
  "datetime.datetime(" ++ commaSeparated
    (numbers.map (fun n => (toString n : Text)) ++ zone) ++ ")"

def Container.literal : Container → Text
  | .list => "[...]"
  | .map => "\x7b...\x7d"

mutual

/-- The literal text of a value inside of the knots with the given labels. -/
def literalWithin (around : List Nat) : Value → Text
  | .null => "None"
  | .bool b => literalBool b
  | .int n => toString n
  | .float x => x.text literalNumber
  | .text s => Text.quoted s
  | .list items => "[" ++ commaSeparated (literals around items) ++ "]"
  | .tuple items =>
    match literals around items with
    | [only] => "(" ++ only ++ ",)"
    | texts => "(" ++ commaSeparated texts ++ ")"
  | .map entries => braced (entryLiterals around entries)
  | .set members =>
    match literals around members with
    | [] => "set()"
    | texts => braced texts
  | .bytes octets => Text.quotedBytes octets
  | .date d => d.literal
  | .moment t => t.literal
  | .forbidden => "FORBIDDEN"
  | .schema node => schemaLiteral around node
  | .knot label container =>
    if around.contains label then
      (if container.isMap then Container.map else Container.list).literal
    else literalWithin (label :: around) container
  | .cut _ container => container.literal
termination_by structural v => v

def literals (around : List Nat) : List Value → List Text
  | [] => []
  | v :: rest => literalWithin around v :: literals around rest
termination_by structural vs => vs

def entryLiterals (around : List Nat) : List (Value × Value) → List Text
  | [] => []
  | (k, v) :: rest =>
    (literalWithin around k ++ ": " ++ literalWithin around v) :: entryLiterals around rest
termination_by structural es => es

def schemaLiteral (around : List Nat) : Schema → Text
  | ⟨type, description, enum, properties, items, required, additional, extras⟩ =>
    "Schema(" ++ commaSeparated [
      "type=" ++ Text.quoted type,
      "description=" ++ Text.quoted description,
      "enum=" ++ (match enum with
        | none => "None"
        | some v => literalWithin around v),
      "properties=" ++ (match properties with
        | none => "None"
        | some ps => braced (propertyLiterals around ps)),
      "items=" ++ (match items with
        | none => "None"
        | some s => schemaLiteral around s),
      "required=[" ++ commaSeparated (required.map Text.quoted) ++ "]",
      "additional_properties=" ++ (match additional with
        | none => "None"
        | some a => additionalLiteral around a),
      "extras=" ++ braced (extraLiterals around extras)] ++ ")"
termination_by structural s => s

def propertyLiterals (around : List Nat) : List (Text × Schema) → List Text
  | [] => []
  | (name, s) :: rest =>
    (Text.quoted name ++ ": " ++ schemaLiteral around s) :: propertyLiterals around rest
termination_by structural ps => ps

def extraLiterals (around : List Nat) : List (Text × Value) → List Text
  | [] => []
  | (name, v) :: rest =>
    (Text.quoted name ++ ": " ++ literalWithin around v) :: extraLiterals around rest
termination_by structural es => es

def additionalLiteral (around : List Nat) : Additional → Text
  | .forbidden => "FORBIDDEN"
  | .schema s => schemaLiteral around s
termination_by structural a => a

end

namespace Value

def literal (v : Value) : Text := literalWithin [] v

def keyText : Value → Text
  | .text s => s
  | .date d => d.iso
  | .moment t => t.text " "
  | v => v.literal

end Value

/-! ## Literals too long to be written -/

mutual

def Value.isWritable : Value → Bool
  | .int n => TerseSchema.isWritable n
  | .list items => areWritable items
  | .tuple items => areWritable items
  | .map entries => entriesWritable entries
  | .set members => areWritable members
  | .schema node => node.isWritable
  | .knot _ container => container.isWritable
  | _ => true
termination_by structural v => v

def areWritable : List Value → Bool
  | [] => true
  | v :: rest => v.isWritable && areWritable rest
termination_by structural vs => vs

def entriesWritable : List (Value × Value) → Bool
  | [] => true
  | (k, v) :: rest => k.isWritable && v.isWritable && entriesWritable rest
termination_by structural es => es

def Schema.isWritable : Schema → Bool
  | ⟨_, _, enum, properties, items, _, additional, extras⟩ =>
    (match enum with
      | none => true
      | some v => v.isWritable) &&
    (match properties with
      | none => true
      | some ps => propertiesWritable ps) &&
    (match items with
      | none => true
      | some s => s.isWritable) &&
    (match additional with
      | none => true
      | some a => a.isWritable) &&
    extrasWritable extras
termination_by structural s => s

def propertiesWritable : List (Text × Schema) → Bool
  | [] => true
  | (_, s) :: rest => s.isWritable && propertiesWritable rest
termination_by structural ps => ps

def extrasWritable : List (Text × Value) → Bool
  | [] => true
  | (_, v) :: rest => v.isWritable && extrasWritable rest
termination_by structural es => es

def Additional.isWritable : Additional → Bool
  | .forbidden => true
  | .schema s => s.isWritable
termination_by structural a => a

end

end TerseSchema
