import TerseSchema.Text.Basic
/-!
# Nodes of YAML

The nodes of a document: scalars, sequences and mappings, each with its tag. Nodes are numbered,
and name by their numbers the nodes that lie in them. An alias is the number of the node it
stands for, so that a node may lie in several others, and in itself.
-/

namespace TerseSchema.Yaml

abbrev NodeId := Nat

abbrev NodeEntry := NodeId × NodeId

inductive NodeContent where
  | scalar (text : Text)
  | sequence (items : List NodeId)
  | mapping (entries : List NodeEntry)

structure Node where
  tag : String
  content : NodeContent

/-- The nodes of a document, in the order of their numbers. -/
abbrev Nodes := Array Node

namespace Nodes

def hasTag (nodes : Nodes) (id : NodeId) (tag : String) : Bool := nodes[id]?.any (·.tag = tag)

def entries? (nodes : Nodes) (id : NodeId) : Option (List NodeEntry) :=
  match nodes[id]? with
  | some ⟨_, .mapping entries⟩ => some entries
  | _ => none

def setContent (nodes : Nodes) (id : NodeId) (content : NodeContent) : Nodes :=
  nodes.modify id fun node => { node with content }

def setTag (nodes : Nodes) (id : NodeId) (tag : String) : Nodes :=
  nodes.modify id fun node => { node with tag }

end Nodes
end TerseSchema.Yaml
