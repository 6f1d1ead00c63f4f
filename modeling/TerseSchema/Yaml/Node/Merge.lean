import TerseSchema.Yaml.Fault
import TerseSchema.Yaml.Node.Basic
import TerseSchema.Yaml.Resolution
/-!
# Merged mappings

A mapping may ask for the entries of other mappings by a merge key. They come before its own, and
the merge key goes. This changes the nodes for good: whoever comes upon the mapping later finds
it with all its entries.
-/

namespace TerseSchema.Yaml

abbrev Merging := StateT Nodes (Except Fault)

namespace Merging

def firstMerge? (nodes : Nodes) (entries : List NodeEntry) : Option (Nat × NodeId) :=
  (entries.zipIdx.find? fun e => nodes.hasTag e.1.1 mergeTag).map fun e => (e.2, e.1.2)

def takeMerge? (id : NodeId) : Merging (Option NodeId) := fun nodes =>
  let entries := (nodes.entries? id).getD []
  match firstMerge? nodes entries with
  | some (position, value) =>
    .ok (some value, nodes.setContent id (.mapping (entries.eraseIdx position)))
  | none => .ok (none, nodes)

/-- Makes the default keys among the entries of a mapping texts, and puts other
entries before its own. -/
def prepend (id : NodeId) (merged : List NodeEntry) : Merging Unit := fun nodes =>
  let entries := (nodes.entries? id).getD []
  let nodes := entries.foldl
    (fun nodes e => if nodes.hasTag e.1 valueTag then nodes.setTag e.1 strTag else nodes) nodes
  .ok ((), nodes.setContent id (.mapping (merged ++ entries)))

mutual

/-- Merges into a mapping what it asks for, and gives its entries. Each step but every second one
takes a merge key away, which bounds the fuel. -/
def mergeInto (id : NodeId) : Nat → Merging (List NodeEntry)
  | 0 => throw .endless
  | fuel + 1 => do
    if ((← get).entries? id).isNone then throw .malformed
    let merged ← mergedEntries id fuel
    prepend id merged
    return ((← get).entries? id).getD []

/-- The entries that the merge keys of a mapping ask for. Of a sequence of mappings, the first
counts most and so comes last. -/
def mergedEntries (id : NodeId) : Nat → Merging (List NodeEntry)
  | 0 => throw .endless
  | fuel + 1 => do
    match ← takeMerge? id with
    | none => return []
    | some source =>
      let entries ← match ((← get)[source]?).map Node.content with
        | some (.sequence items) => do
          let parts ← items.mapM fun item => mergeInto item fuel
          pure parts.reverse.flatten
        | _ => mergeInto source fuel
      return entries ++ (← mergedEntries id fuel)

end

end Merging

def Nodes.entryCount (nodes : Nodes) : Nat :=
  nodes.foldl (fun n node => match node.content with
    | .mapping entries => n + entries.length
    | _ => n) 0

end TerseSchema.Yaml
