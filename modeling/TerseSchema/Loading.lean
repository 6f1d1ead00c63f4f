import TerseSchema.Failure
import TerseSchema.Files
import TerseSchema.Text.Split
import TerseSchema.Yaml.Document
/-!
# Loading documents

Reading documents from texts and files. A text that is not YAML is a failure like any other;
a few faults of tagged scalars, of the encoding and of paths are not.
-/

namespace TerseSchema

inductive LoadError where
  | failure (f : Failure)
  /-- A scalar does not suit its tag, or an escape is beyond all characters. -/
  | scalar (fault : Yaml.Fault)
  /-- A file is not UTF-8. -/
  | encoding
  /-- A path is too long to be followed. -/
  | longPath

/-- The first mark that is not in use for all documents alike. -/
def firstMark : Nat := 2

/-- The value of a text. Documents whose values are held against each other have marks of their
own, counted from `marks` on. -/
def loadText (text : Text) (marks : Nat := firstMark) : Except LoadError Value :=
  match Yaml.load marks text with
  | .ok v => .ok v
  | .error .malformed => .error (.failure ⟨.malformedYaml, []⟩)
  | .error fault => .error (.scalar fault)

def decodeText (octets : List UInt8) : Option Text :=
  (String.fromUTF8? ⟨octets.toArray⟩).map fun s => Text.unifyLines (.char '\r') (.char '\n') s

def loadOctets (path : FilePath) (octets : List UInt8) : Except LoadError Value :=
  match decodeText octets with
  | none => .error .encoding
  | some text =>
    match loadText text with
    | .error (.failure f) => .error (.failure (f.nest [.key path.text]))
    | result => result

def unreadableDocument (path : FilePath) (reason : Text) : Failure :=
  ⟨.reported .loading ("failed to read schema file " ++ path.text ++ ": " ++ reason), []⟩

def loadFile (fs : Files) (path : FilePath) : Except LoadError Value :=
  match fs.read path with
  | .ok octets => loadOctets path octets
  | .error .missing => .error (.failure ⟨.missingDocument path.text, []⟩)
  | .error (.unreadable _ reason) => .error (.failure (unreadableDocument path reason))
  | .error .tooLong => .error .longPath

end TerseSchema
