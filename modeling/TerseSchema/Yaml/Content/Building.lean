import TerseSchema.Value.Equality
import TerseSchema.Yaml.Content.Scalar
import TerseSchema.Yaml.Node.Merge
/-!
# Building values

What the nodes of a document become. A node becomes one thing, however often it is met: a scalar
its value, and a collection a container, which stays empty at first. Containers are filled one
level after the other, from the root on, so of several faults the one nearest to the root comes
up, and of those the first.
-/

namespace TerseSchema.Yaml

/-- What a node has become: a value, or the container with the number of the node. -/
inductive Part where
  | value (v : Value)
  | container (id : NodeId)

inductive Filling where
  | list (items : List Part)
  | pairs (items : List (Part × Part))
  | map (entries : List (Value × Part))
  | set (members : List Value)

structure BuildState where
  nodes : Nodes
  /-- What the nodes met so far have become. -/
  parts : Array (Option Part)
  fillings : Array (Option Filling)
  /-- The containers to be filled next, the last one first. -/
  waiting : List NodeId := []
  /-- The marks of values are counted from here. -/
  marks : Nat
  mergeFuel : Nat

abbrev Build := StateT BuildState (Except Fault)

namespace Build

def collectionTags : List String := [seqTag, mapTag, setTag, omapTag, pairsTag]

def part (id : NodeId) : Build Part := fun s =>
  match s.parts[id]?.join, s.nodes[id]? with
  | some part, _ => .ok (part, s)
  | none, none => .error .malformed
  | none, some node => do
    let waits := collectionTags.contains node.tag
    let part ←
      if waits then pure (.container id)
      else (s.nodes.scalarValue (s.marks + id) id node).map Part.value
    return (part, { s with
      parts := s.parts.modify id fun _ => some part
      waiting := if waits then id :: s.waiting else s.waiting })

/-- What a node becomes as the key of a map, which no container is. -/
def keyPart (id : NodeId) : Build Value := do
  match ← part id with
  | .value v => return v
  | .container _ => throw .malformed

def putEntry (entries : List (Value × Part)) (key : Value) (part : Part) : List (Value × Part) :=
  if entries.any fun e => e.1.alike key then
    entries.map fun e => if e.1.alike key then (e.1, part) else e
  else entries ++ [(key, part)]

def mapEntries (id : NodeId) : Build (List (Value × Part)) := do
  let s ← get
  let (entries, nodes) ← (Merging.mergeInto id s.mergeFuel).run s.nodes
  set { s with nodes }
  entries.foldlM (fun done e => do
    let key ← keyPart e.1
    let value ← part e.2
    return putEntry done key value) []

def sequenceItems (id : NodeId) : Build (List NodeId) := do
  match ((← get).nodes[id]?).map Node.content with
  | some (.sequence items) => return items
  | _ => throw .malformed

def pair (id : NodeId) : Build (Part × Part) := do
  match (← get).nodes.entries? id with
  | some [(key, value)] => return (← part key, ← part value)
  | _ => throw .malformed

def filling (id : NodeId) : Build Filling := do
  let nodes := (← get).nodes
  if nodes.hasTag id seqTag then return .list (← (← sequenceItems id).mapM part)
  else if nodes.hasTag id mapTag then return .map (← mapEntries id)
  else if nodes.hasTag id setTag then return .set ((← mapEntries id).map (·.1))
  else return .pairs (← (← sequenceItems id).mapM pair)

def fill (id : NodeId) : Build Unit := do
  let filled ← filling id
  modify fun s => { s with fillings := s.fillings.modify id fun _ => some filled }

/-- Fills containers, level by level. The fuel is the greatest number of levels. -/
def fillLevels : Nat → Build Unit
  | 0 => return
  | fuel + 1 => do
    let level := (← get).waiting.reverse
    if level.isEmpty then return
    modify fun s => { s with waiting := [] }
    level.forM fill
    fillLevels fuel

def root (id : NodeId) : Build Part := do
  let part ← part id
  fillLevels ((← get).nodes.size + 1)
  return part

end Build
end TerseSchema.Yaml
