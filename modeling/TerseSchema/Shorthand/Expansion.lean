import TerseSchema.Schema.Document
import TerseSchema.Shorthand.Key
import TerseSchema.Shorthand.Scalar
/-!
# Expansion of shorthand

A text is a scalar, a list is an enumeration of its items, and a map is an object whose
keys are property keys. An object rejects properties that it does not name, unless a
wildcard entry describes them.
-/

namespace TerseSchema.Shorthand

/-- What a word in parentheses does with the value of a property. -/
inductive Modifier where
  | object
  | array
  | enum
  | wildcard
deriving DecidableEq

namespace Modifier

def name : Modifier → Text
  | .object => "object"
  | .array => "array"
  | .enum => "enum"
  | .wildcard => Shorthand.wildcard

def all : List Modifier := [.object, .array, .enum, .wildcard]

def ofName? (text : Text) : Option Modifier := all.find? fun m => m.name = text

end Modifier

inductive Member where
  | property (name : Text) (required : Bool) (child : Schema)
  | wildcard (child : Schema)

def redescribe (s : Schema) : Option Text → Schema
  | none => s
  | some description => { s with description }

def withNull : Value → Value
  | .list items => .list (items ++ [.null])
  | v => v

def PropertyKey.member (key : PropertyKey) (child : Schema) : Except Cause Member :=
  let property := fun child => Member.property key.name key.isRequired child
  match key.modifier with
  | none => .ok (property child)
  | some text =>
    match Modifier.ofName? text with
    | none => .error (.unknownModifier text (Modifier.all.map Modifier.name))
    | some .object => .ok (property (redescribe child key.description))
    | some .array =>
      .ok (property (redescribe { type := "array", items := some child } key.description))
    | some .enum =>
      match child.enum with
      | none => .error (.showing child.document (.enumNotList child.document))
      | some values =>
        let values := if key.optional then withNull values else values
        .ok (property (redescribe { child with enum := some values } key.description))
    | some .wildcard => .ok (.wildcard child)

/-- The schema of an enumeration, which must not be empty. -/
def enumeration (items : List Value) : Except Failure Schema :=
  if items.isEmpty then .error ⟨.emptyEnum, []⟩ else .ok { enum := some (.list items) }

def emptyObject : Schema :=
  { type := "object", properties := some [], additional := some .forbidden }

/-- An object with one more member. A later property of the same name takes the place of an
earlier one, but a name once required stays so. -/
def addMember (s : Schema) : Member → Schema
  | .property name required child =>
    { s with
      required :=
        if required && !s.required.contains name then s.required ++ [name] else s.required
      properties := s.properties.map fun ps => Entries.put name child ps }
  | .wildcard child => { s with additional := some (.schema child) }

def objectOf (members : List Member) : Schema := members.foldl addMember emptyObject

mutual

def expand : Value → Except Failure Schema
  | .text token => scalar token
  | .list items => enumeration items
  | .tuple items => enumeration items
  | .map entries => do
    let members ← expandEntries entries
    return objectOf members
  | .knot _ container => expand container
  | .cut _ _ => .error .endless
  | v => .error ⟨.showing v (.unsupportedValue v), []⟩
termination_by structural v => v

/-- The members that the entries of a map describe; a failure tells the key it belongs to. -/
def expandEntries : List (Value × Value) → Except Failure (List Member)
  | [] => .ok []
  | (k, v) :: rest =>
    if !k.isWritable then .error .longNumeral
    else
      let text := k.keyText
      match expand v with
      | .error failure => .error (failure.nest [.key text])
      | .ok child =>
        match (PropertyKey.decode text).member child with
        | .error cause => .error ⟨cause, [.key text]⟩
        | .ok member => do
          let members ← expandEntries rest
          return member :: members
termination_by structural es => es

end

end TerseSchema.Shorthand
