import TerseSchema.Calendar
import TerseSchema.Entries
import TerseSchema.Number.Binary64
/-!
# Document values and schemas

A value is what a document holds: plain data, and among it the nodes of schemas already built. A
schema is a node of a JSON Schema document; fields without a meaning of their own here are kept
as values under their names.

A list or a map of a document may lie inside of itself. It then is a knot: it carries a label, is
shown inside of itself a few times, and is cut off in the end.
-/

namespace TerseSchema

/-- The containers that may lie inside of themselves. -/
inductive Container where
  | list
  | map
deriving DecidableEq, Inhabited

mutual

inductive Value where
  | null
  | bool (b : Bool)
  | int (n : Int)
  | float (x : Binary64)
  | text (s : Text)
  | list (items : List Value)
  | tuple (items : List Value)
  /-- Entries in order, no two keys the same. -/
  | map (entries : List (Value × Value))
  | set (members : List Value)
  | bytes (octets : List UInt8)
  | date (d : Date)
  | moment (t : Moment)
  /-- The mark of additional properties that are rejected. -/
  | forbidden
  | schema (node : Schema)
  /-- A list or map that lies inside of itself. Under one label there is one container. -/
  | knot (label : Nat) (container : Value)
  /-- The place where a knot inside of itself is cut off. -/
  | cut (label : Nat) (container : Container)

/-- One node of a schema document. Texts are empty and lists are empty where nothing is said. -/
structure Schema where
  type : Text := []
  description : Text := []
  /-- The allowed values, as given; none where they are not limited. -/
  enum : Option Value := none
  properties : Option (List (Text × Schema)) := none
  items : Option Schema := none
  required : List Text := []
  /-- None where nothing is said about additional properties. -/
  additional : Option Additional := none
  /-- All other fields, by name. -/
  extras : List (Text × Value) := []

inductive Additional where
  | forbidden
  | schema (node : Schema)

end

instance : Inhabited Value := ⟨.null⟩

instance : Inhabited Schema := ⟨{}⟩

namespace Value

def ofEntries (es : Entries Value) : Value := .map (es.map fun e => (.text e.1, e.2))

/-- The value without the label that tells it to lie inside of itself. -/
def untied : Value → Value
  | .knot _ container => container.untied
  | v => v

def label? : Value → Option Nat
  | .knot label _ => some label
  | .cut label _ => some label
  | _ => none

def isMap : Value → Bool
  | .map _ => true
  | .knot _ container => container.isMap
  | .cut _ container => container = .map
  | _ => false

def nonNull : Value → Option Value
  | .null => none
  | v => some v

end Value
end TerseSchema
