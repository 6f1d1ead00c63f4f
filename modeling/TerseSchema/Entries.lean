import TerseSchema.Text.Basic
/-!
# Entries

Finite maps under text keys, kept in the order in which the keys were first put in.
-/

namespace TerseSchema

abbrev Entries (α : Type) := List (Text × α)

namespace Entries

variable {α : Type}

/-- Puts a value under a key: in place of the value there, or at the end. -/
def put (key : Text) (value : α) : Entries α → Entries α
  | [] => [(key, value)]
  | (k, v) :: rest => if k = key then (key, value) :: rest else (k, v) :: put key value rest

def putAll (es more : Entries α) : Entries α :=
  more.foldl (fun es e => es.put e.1 e.2) es

def get? (key : Text) : Entries α → Option α
  | [] => none
  | (k, v) :: rest => if k = key then some v else get? key rest

end Entries
end TerseSchema
