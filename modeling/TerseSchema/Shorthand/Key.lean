import TerseSchema.Text.Blank
/-!
# Property keys

A key of the shorthand is a name, a question mark where the property is optional, and in
parentheses a modifier with an optional description: `color?(enum, paint color)`. A closing
parenthesis may be missing or repeated.
-/

namespace TerseSchema.Shorthand

open TerseSchema.Text

def wildcard : Text := "*"

structure PropertyKey where
  name : Text
  optional : Bool := false
  modifier : Option Text := none
  description : Option Text := none
deriving DecidableEq

namespace PropertyKey

def isRequired (key : PropertyKey) : Bool :=
  !key.optional && !key.name.isEmpty && key.modifier ≠ some wildcard

/-- The text before a parenthesis: a name, optional if a question mark ends it. -/
def ofBase (base : Text) : PropertyKey :=
  if base.getLast? = some (.char '?') then { name := base.dropLast, optional := true }
  else { name := base }

/-- The text after an opening parenthesis: a modifier, and after a comma a description. -/
def withParenthetical (key : PropertyKey) (inner : Text) : PropertyKey :=
  let (modifier, description) :=
    splitAtFirst (.char ',') (dropEndWhile (· = .char ')') inner)
  { key with modifier := some modifier, description := description.map strip }

def decode (text : Text) : PropertyKey :=
  if text = wildcard then { name := [], modifier := some wildcard }
  else
    let (base, inner) := splitAtFirst (.char '(') text
    match inner with
    | none => ofBase base
    | some inner => (ofBase base).withParenthetical inner

end PropertyKey
end TerseSchema.Shorthand
