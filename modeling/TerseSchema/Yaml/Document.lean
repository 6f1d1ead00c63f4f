import TerseSchema.Yaml.Content.Unfolding
import TerseSchema.Yaml.Node.Parser
import TerseSchema.Yaml.Token.Lexer
/-!
# Documents

The value of a YAML text. JSON texts are YAML texts.
-/

namespace TerseSchema.Yaml

/-- The value that a text denotes; a text without a document denotes null. Marks that tell one
value of the document from another are counted from `marks` on. -/
def load (marks : Nat) (text : Text) : Except Fault Value :=
  match text.chars? with
  | none => .error .malformed
  | some cs =>
    if cs.all isAllowed then do
      let (nodes, root) ← Nodes.ofTokens (Token.ofText cs)
      match root with
      | none => return .null
      | some root => nodes.value marks root
    else .error .malformed

end TerseSchema.Yaml
