import TerseSchema.Yaml.Content.Building
/-!
# Unfolding

Filled containers as one value. A container that lies in several others is shown in each of
them. One that lies inside of itself becomes a knot, and is shown inside of itself a few
times before it is cut off: as often as anyone who reads a document can come upon it again
without going round in circles.
-/

namespace TerseSchema.Yaml

/-- How often a container is shown inside of itself, counting the outermost time. A schema
may hold a container as a map of schemas, as a schema, as a map of lists, and as plain data,
one inside of the other. -/
def showings : Nat := 5

def Filling.container : Filling → Container
  | .map _ => .map
  | _ => .list

/-- A value, with the containers around it that it lies inside of again. -/
abbrev Unfolded := Value × List NodeId

def againOf (parts : List Unfolded) : List NodeId := (parts.flatMap (·.2)).eraseDups

def Filling.unfold (part : Part → Unfolded) : Filling → Unfolded
  | .list items =>
    let items := items.map part
    (.list (items.map (·.1)), againOf items)
  | .pairs items =>
    let items := items.map fun i => (part i.1, part i.2)
    (.list (items.map fun i => .tuple [i.1.1, i.2.1]),
      againOf (items.flatMap fun i => [i.1, i.2]))
  | .map entries =>
    let entries := entries.map fun e => (e.1, part e.2)
    (.map (entries.map fun e => (e.1, e.2.1)), againOf (entries.map (·.2)))
  | .set members => (.set members, [])

def Part.unfold (fillings : Array (Option Filling)) (marks : Nat) :
    Nat → List NodeId → Part → Unfolded
  | _, _, .value v => (v, [])
  | 0, _, .container _ => (.null, [])
  | fuel + 1, around, .container id =>
    let filling := (fillings[id]?.join).getD (.list [])
    let shown := around.count id
    if shown = showings then (.cut (marks + id) filling.container, [id])
    else
      let (v, again) := filling.unfold (Part.unfold fillings marks fuel (id :: around))
      if shown ≠ 0 then (.knot (marks + id) v, (id :: again).eraseDups)
      else if again.contains id then (.knot (marks + id) v, again.filter (· ≠ id))
      else (v, again)

def Nodes.value (nodes : Nodes) (marks : Nat) (root : NodeId) : Except Fault Value := do
  let start : BuildState := {
    nodes, marks
    parts := Array.replicate nodes.size none
    fillings := Array.replicate nodes.size none
    mergeFuel := 2 * nodes.entryCount + 2 }
  let (part, s) ← (Build.root root).run start
  return (part.unfold s.fillings marks (showings * nodes.size + 1) []).1

end TerseSchema.Yaml
