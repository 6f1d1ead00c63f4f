import TerseSchema.Value.Basic
import TerseSchema.Yaml.Node.Basic
import TerseSchema.Yaml.Resolution
import TerseSchema.Yaml.Scalar.Binary
import TerseSchema.Yaml.Scalar.Number
import TerseSchema.Yaml.Scalar.Timestamp
/-!
# Values of scalars

What a node tagged as a scalar denotes. A mapping may stand for a scalar: the
one under its default key.
-/

namespace TerseSchema.Yaml

def truthValue? (word : String) : Option Bool :=
  if ["yes", "true", "on"].contains word then some true
  else if ["no", "false", "off"].contains word then some false
  else none

def taggedBool (text : Text) : Except Fault Bool :=
  match text.chars?.bind fun cs => truthValue? (String.ofList (cs.map Char.toLower)) with
  | some b => .ok b
  | none => .error .truthValue

def scalarTags : List String :=
  [nullTag, boolTag, intTag, floatTag, binaryTag, timestampTag, strTag]

/-- The value of a text under a tag of scalars, where `mark` tells it from
others that are no numbers. -/
def scalarValue (mark : Nat) (tag : String) (text : Text) : Except Fault Value :=
  if tag = nullTag then .ok .null
  else if tag = boolTag then (taggedBool text).map .bool
  else if tag = intTag then (taggedInt text).map .int
  else if tag = floatTag then (taggedFloat mark text).map .float
  else if tag = binaryTag then (taggedBinary text).map .bytes
  else if tag = timestampTag then
    (taggedTimestamp text).map fun
      | .date d => .date d
      | .moment t => .moment t
  else if tag = strTag then .ok (.text text)
  else .error .malformed

namespace Nodes

/-- The text of a scalar, or the text under the default key of a mapping. The fuel is the number
of nodes to go through; to go through more is to go round in circles. -/
def defaultText (nodes : Nodes) : Nat → NodeId → Except Fault Text
  | 0, _ => .error .endless
  | fuel + 1, id =>
    match nodes[id]? with
    | some ⟨_, .scalar text⟩ => .ok text
    | some ⟨_, .mapping entries⟩ =>
      match entries.find? fun e => nodes.hasTag e.1 valueTag with
      | some (_, value) => nodes.defaultText fuel value
      | none => .error .malformed
    | _ => .error .malformed

def scalarValue (nodes : Nodes) (mark : Nat) (id : NodeId) (node : Node) :
    Except Fault Value := do
  if !scalarTags.contains node.tag then throw .malformed
  let text ← nodes.defaultText (nodes.size + 1) id
  match node.content with
  | .scalar _ => Yaml.scalarValue mark node.tag text
  | _ =>
    if node.tag = timestampTag then throw .momentOfCollection
    Yaml.scalarValue mark node.tag text

end Nodes
end TerseSchema.Yaml
