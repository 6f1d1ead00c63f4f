import TerseSchema.Json.Writer
/-!
# Plain values

What is left of a value once it has been written as JSON and read back: arrays become lists, keys
become texts, the two halves of a surrogate pair become one character, and of several keys with
one text the first keeps its place and the last its value.
-/

namespace TerseSchema.Json

open TerseSchema

/-- What the word `NaN` denotes, wherever it is read. -/
def notANumber : Binary64 := .nan 1

mutual

/-- The value that the JSON text of a value denotes, inside of the knots
with the given labels. -/
def plainWithin (around : List Nat) : Value → Except Fault Value
  | .null => .ok .null
  | .bool b => .ok (.bool b)
  | .int n => do
    let _ ← integer n
    return .int n
  | .float (.nan _) => .ok (.float notANumber)
  | .float x => .ok (.float x)
  | .text s => .ok (.text s.paired)
  | .list items => do
    let vs ← plainItems around items
    return .list vs
  | .tuple items => do
    let vs ← plainItems around items
    return .list vs
  | .map entries => do
    let es ← plainEntries around entries
    return .ofEntries (Entries.putAll [] es)
  | .knot label container =>
    if around.contains label then .error .circular
    else plainWithin (label :: around) container
  | .cut _ _ => .error .circular
  | v => .error (.value v.kind)
termination_by structural v => v

def plainItems (around : List Nat) : List Value → Except Fault (List Value)
  | [] => .ok []
  | v :: rest => do
    let w ← plainWithin around v
    let ws ← plainItems around rest
    return w :: ws
termination_by structural vs => vs

def plainEntries (around : List Nat) : List (Value × Value) → Except Fault (Entries Value)
  | [] => .ok []
  | (k, v) :: rest => do
    let key ← keyText k
    let w ← plainWithin around v
    let ws ← plainEntries around rest
    return (key.paired, w) :: ws
termination_by structural es => es

end

def plain (v : Value) : Except Fault Value := plainWithin [] v

end TerseSchema.Json
