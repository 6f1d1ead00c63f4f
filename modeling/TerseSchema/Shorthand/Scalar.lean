import TerseSchema.Failure
import TerseSchema.Text.Blank
/-!
# Scalar shorthand

A scalar is the name of a type, or such a name and after a comma a description. The name
`any` stands for no type.
-/

namespace TerseSchema.Shorthand

open TerseSchema.Text

def scalarNames : List Text := ["string", "boolean", "null", "number", "integer", "any"]

/-- The schema of a scalar. Blanks around its description are dropped, those
around its type are not. -/
def scalar (token : Text) : Except Failure Schema :=
  let (name, description) := splitAtFirst (.char ',') token
  if scalarNames.contains name then
    .ok {
      type := if name = "any" then [] else name
      description := match description with
        | none => []
        | some text => strip text }
  else .error ⟨.unsupportedScalar name, []⟩

end TerseSchema.Shorthand
