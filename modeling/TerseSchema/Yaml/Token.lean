import TerseSchema.Text.Basic
import TerseSchema.Yaml.Fault
/-!
# Tokens of YAML

A text as a list of tokens. Indentation has become tokens that start and end
blocks. The last token is the end of the text, or the fault that comes up when the
token in its place is asked for.
-/

namespace TerseSchema.Yaml

inductive Directive where
  | version (major : Nat)
  | handle (handle uri : String)
  | other
deriving DecidableEq

inductive Token where
  | directive (d : Directive)
  | documentStart
  | documentEnd
  | blockSequenceStart
  | blockMappingStart
  | blockEnd
  | blockEntry
  | flowSequenceStart
  | flowSequenceEnd
  | flowMappingStart
  | flowMappingEnd
  | flowEntry
  | key
  | value
  | alias (name : String)
  | anchor (name : String)
  | tag (handle : Option String) (suffix : String)
  | scalar (text : Text) (isPlain : Bool)
  | streamEnd
  | broken (fault : Fault)
deriving DecidableEq

end TerseSchema.Yaml
