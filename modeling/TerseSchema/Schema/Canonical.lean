import TerseSchema.Json.Plain
import TerseSchema.Json.Reader
import TerseSchema.Schema.Document
/-!
# Canonical form

Two schemas that differ only in the order in which required properties were written
have the same canonical value: the lists of required names are sorted, and the document
is reduced to plain data.
-/

namespace TerseSchema

def sortNames (names : List Text) : List Text := names.mergeSort Text.isUpTo

mutual

/-- Sorts the required names of a schema and of all schemas reached through
properties and items. -/
def Schema.sorted : Schema → Schema
  | ⟨type, description, enum, properties, items, required, additional, extras⟩ =>
    ⟨type, description, enum,
      (match properties with
        | none => none
        | some ps => some (sortedProperties ps)),
      (match items with
        | none => none
        | some s => some s.sorted),
      sortNames required, additional, extras⟩
termination_by structural s => s

def sortedProperties : List (Text × Schema) → List (Text × Schema)
  | [] => []
  | (name, s) :: rest => (name, s.sorted) :: sortedProperties rest
termination_by structural ps => ps

end

def Schema.plain (s : Schema) : Except Failure Value :=
  (Json.plain s.document).mapError Json.Fault.failure

/-- The plain value of a schema with sorted lists of required names. -/
def Schema.canonical (s : Schema) : Except Failure Value := s.sorted.plain

/-- How a schema becomes canonical: its names are sorted in place, it is written, and
what is written is read. -/
def Schema.canonicalizeInPlace :
    StateM Schema (Except Failure (Except Json.ReadFault Value)) := do
  modify Schema.sorted
  let s ← get
  return (s.json none).map Json.read

end TerseSchema
