import TerseSchema.Json.Writer
import TerseSchema.Value.Literal
/-!
# Failures

Why a value describes no schema, and where: a cause, and the keys and positions that lead to it
from the outermost value.
-/

namespace TerseSchema

inductive Segment where
  | key (name : Text)
  | index (position : Int)
  /-- A truth value in place of a position. -/
  | flag (b : Bool)
deriving DecidableEq

namespace Segment

def appendTo (rendered : Text) : Segment → Text
  | .key name => if rendered.isEmpty then name else rendered ++ "." ++ name
  | .index position => rendered ++ "[" ++ toString position ++ "]"
  | .flag b => rendered ++ "[" ++ literalBool b ++ "]"

end Segment

/-- The text of a path, such as `properties.address[0]`. -/
def formatPath (path : List Segment) : Text := path.foldl Segment.appendTo []

/-- The classes of failures that differ only in their words. -/
inductive Category where
  | general
  | malformedEnum
  | encoding
  | loading
deriving DecidableEq

inductive Cause where
  /-- A value that is neither text, list nor map where shorthand is wanted. -/
  | unsupportedValue (value : Value)
  | unsupportedScalar (token : Text)
  /-- A list of allowed values without any. -/
  | emptyEnum
  /-- A property marked as an enumeration whose value is not a list; `document` is what it is
  instead. -/
  | enumNotList (document : Value)
  | unknownModifier (modifier : Text) (allowed : List Text)
  | unrecognizedField (field : Text)
  | fieldMismatch (field wanted found : Text) (index : Option Int)
  | notEncodable (fault : Json.Fault)
  | missingDocument (path : Text)
  | malformedYaml
  /-- A failure in words of its reporter's own. -/
  | reported (category : Category) (message : Text)
  /-- A limit that has nothing to do with the rules of schemas. Its path has no meaning. -/
  | limit (l : Limit)

def Cause.message : Cause → Text
  | .unsupportedValue value =>
    "value " ++ value.literal ++ " of type " ++ value.kind.name ++
      " is not an object, list or string"
  | .unsupportedScalar token => "unsupported scalar type " ++ Text.quoted token
  | .emptyEnum => "enum value is an empty array"
  | .enumNotList document => "enum value " ++ document.literal ++ " is not an array"
  | .unknownModifier modifier allowed =>
    "parenthetical type " ++ Text.quoted modifier ++ " is none of " ++ commaSeparated allowed
  | .unrecognizedField field => "unrecognized JSON schema field name " ++ Text.quoted field
  | .fieldMismatch field wanted found none =>
    "found type " ++ found ++ " for field " ++ Text.quoted field ++ ", want " ++ wanted
  | .fieldMismatch field wanted found (some index) =>
    "found type " ++ found ++ " for field element " ++ toString index ++ " of " ++
      Text.quoted field ++ ", want " ++ wanted
  | .notEncodable fault => "schema is not JSON serializable: " ++ fault.message
  | .missingDocument path => "schema file not found: " ++ path
  | .malformedYaml => "failed to parse YAML"
  | .reported _ message => message
  | .limit l => l.message

/-- The failure to show a value, unless it can be shown in a message. -/
def Cause.showing (v : Value) (cause : Cause) : Cause :=
  if v.isWritable then cause else .limit .longNumeral

structure Failure where
  cause : Cause
  path : List Segment := []

namespace Failure

def longNumeral : Failure := ⟨.limit .longNumeral, []⟩

def endless : Failure := ⟨.limit .endless, []⟩

def nest (segments : List Segment) (f : Failure) : Failure :=
  { f with path := segments ++ f.path }

def message (f : Failure) : Text :=
  if f.path.isEmpty then "picoschema: " ++ f.cause.message
  else "picoschema: " ++ formatPath f.path ++ ": " ++ f.cause.message

end Failure
end TerseSchema
