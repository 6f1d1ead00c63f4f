import TerseSchema.Cli.Display
import TerseSchema.Cli.Request
import TerseSchema.Loading
import TerseSchema.Schema.Canonical
import TerseSchema.Routing
/-!
# Commands

Converting a document into a schema, and checking the schema of a document. A command shows
something, perhaps writes a file, and ends with a status.
-/

namespace TerseSchema.Cli

open TerseSchema

inductive WriteError where
  /-- A directory stands there. -/
  | isDirectory
  /-- A file stands where its directory should be. -/
  | directoryIsFile
  /-- A file stands on the way to its directory. -/
  | fileOnTheWay
  /-- A path or a step of it is too long. -/
  | longPath
deriving DecidableEq

/-- What ends a command without a word. -/
inductive Crash where
  | unknownLevel (name : Text)
  | unusablePath
  | loading (e : LoadError)
  | limit (l : Limit)
  | display (e : DisplayError)
  | writing (e : WriteError)

structure Outcome where
  status : Nat := 0
  screen : Screen := {}
  /-- The file that was written, by the path to it. -/
  written : Option (FilePath × Text) := none

inductive Ending where
  | help
  | misuse (cause : Misuse)
  | finished (outcome : Outcome)
  | crashed (crash : Crash)

/-- What a command has done by its end. What it has shown and written stays,
even if it crashes then. -/
structure Deed extends Outcome where
  crash : Option Crash := none

namespace Deed

def crashed (crash : Crash) (screen : Screen := {}) :
    Deed := { status := 1, screen, crash := some crash }

def ending (deed : Deed) : Ending :=
  match deed.crash with
  | none => .finished deed.toOutcome
  | some crash => .crashed crash

end Deed

def version : String := "0.1.0"

/-! ## Schemas of files -/

def schemaDocument (canonical : Bool) (v : Value) : Except Failure (Option Value) := do
  match ← schemaOf v with
  | none => return none
  | some s =>
    let document ← if canonical then s.canonical else s.plain
    return some document

def documentOfFile (fs : Files) (source : FilePath) (canonical : Bool) :
    Except LoadError (Option Value) := do
  let v ← loadFile fs source
  (schemaDocument canonical v).mapError .failure

/-! ## Writing files -/

/-- The place of the directory to which steps lead from a place. What is missing is made, and
`made` tells whether anything on the way had to be. -/
def makeDirectories (fs : Files) (made : Bool) (p : FilePlace) :
    List String → Except WriteError FilePlace
  | [] => .ok p
  | step :: rest =>
    if Files.mostStepOctets < step.utf8ByteSize then .error .longPath
    else
      let next := p.next step
      match fs.lookup next with
      | none => makeDirectories fs true next rest
      | some .directory => makeDirectories fs made next rest
      | some _ => .error (if made || rest.isEmpty then .directoryIsFile else .fileOnTheWay)

def makeParent (fs : Files) (path : FilePath) : Except WriteError FilePlace :=
  if Files.mostPathOctets < path.parent.text.utf8ByteSize then .error .longPath
  else makeDirectories fs false (.start path.isAbsolute) path.parent.steps

def checkOpens (fs : Files) (path : FilePath) (directory : FilePlace) : Except WriteError Unit :=
  let name := path.steps.getLast?.getD ""
  if Files.mostPathOctets < path.text.utf8ByteSize ||
      Files.mostStepOctets < name.utf8ByteSize then
    .error .longPath
  else if fs.lookup (directory.next name) = some .directory then .error .isDirectory
  else .ok ()

/-! ## Commands -/

def showing (before : Screen) (shown : Except DisplayError Screen) (next : Screen → Deed) :
    Deed :=
  match shown with
  | .ok screen => next screen
  | .error e => .crashed (.display e) before

def failed (s : Screen) (message : Text) : Deed :=
  showing s (s.failure message) fun screen => { status := 1, screen }

def rejected (s : Screen) (message : Text) (found : List MetaSchema.Violation) : Deed :=
  showing s (s.failure message) fun screen =>
    showing screen (screen.violations found) fun screen => { status := 1, screen }

def notConverted (source : FilePath) (f : Failure) : Text :=
  "Failed to convert " ++ source.text ++ ": " ++ Terminal.escape f.message

/-- Goes on with the schema document of a file, unless there is none. -/
def withDocument (fs : Files) (source : FilePath) (canonical : Bool) (next : Value → Deed) :
    Deed :=
  match documentOfFile fs source canonical with
  | .error (.failure ⟨.limit l, _⟩) => .crashed (.limit l)
  | .error (.failure f) => failed {} (notConverted source f)
  | .error e => .crashed (.loading e)
  | .ok none => failed {} ("No schema found in " ++ source.text)
  | .ok (some document) => next document

def violationsOf (document : Value) : Except Crash (List MetaSchema.Violation) :=
  (MetaSchema.check document).mapError .limit

def fileText (indent : Nat) (document : Value) (room : Nat) : Except Crash Text := do
  let text ← (Json.text { indent := some indent, room } document).mapError fun fault =>
    .display (.json fault)
  return text ++ "\n"

/-- The text that goes into the file under a path. Directories are made before there is a text,
and the file is opened after that. -/
def textToWrite (fs : Files) (path : FilePath) (indent : Nat) (document : Value) (room : Nat) :
    Except Crash Text := do
  let directory ← (makeParent fs path).mapError .writing
  let text ← fileText indent document room
  (checkOpens fs path directory).mapError .writing
  return text

def writtenTo (path : FilePath) : Text := "Schema written to: " ++ path.text

def deliver (fs : Files) (options : ConvertOptions) (document : Value) (room : Nat) : Deed :=
  match options.output with
  | none =>
    showing {} (({} : Screen).data (.value document) [] (some options.indent) room) fun screen =>
      { screen }
  | some path =>
    match textToWrite fs path options.indent document room with
    | .error crash => .crashed crash
    | .ok text =>
      let announced :=
        showing {} (({} : Screen).success (writtenTo path)) fun screen => { screen }
      { announced with written := some (path, text) }

/-- What is held against a document before it is delivered. -/
def objections (options : ConvertOptions) (document : Value) :
    Except Crash (List MetaSchema.Violation) :=
  if options.check then violationsOf document else pure []

def convert (fs : Files) (options : ConvertOptions) (room : Nat := Json.usualRoom) : Deed :=
  withDocument fs options.source options.canonical fun document =>
    match objections options document with
    | .error crash => .crashed crash
    | .ok [] => deliver fs options document room
    | .ok found => rejected {} "Generated schema failed the meta-schema check" found

def verdict (s : Screen) (source : FilePath) (document : Value) : Deed :=
  match violationsOf document with
  | .error crash => .crashed crash s
  | .ok [] =>
    showing s (s.success (source.text ++ " is a valid schema")) fun screen => { screen }
  | .ok found => rejected s "Schema check failed" found

def showGenerated (document : Value) (room : Nat) : Except DisplayError Screen :=
  ({} : Screen).data (.value document) "Generated Schema" (some standardIndent) room

def check (fs : Files) (source : FilePath) (showSchema : Bool) (room : Nat := Json.usualRoom) :
    Deed :=
  withDocument fs source false fun document =>
    if showSchema then
      showing {} (showGenerated document room) fun screen => verdict screen source document
    else verdict {} source document

def Command.run (fs : Files) (room : Nat) : Command → Deed
  | .convert options => TerseSchema.Cli.convert fs options room
  | .check source showSchema => TerseSchema.Cli.check fs source showSchema room

/-- Runs the program on its arguments, given the files that paths lead to, the level from
which it logs unless the arguments tell it, and the room for the blanks of a line: what it
does, and how it ends. -/
def perform (fs : Files) (level : String) (args : List String) (room : Nat := Json.usualRoom) :
    Outcome × Ending :=
  match Request.parse fs level args with
  | .help => ({}, .help)
  | .version =>
    let outcome : Outcome := { screen := { output := "picoschema version " ++ version ++ "\n" } }
    (outcome, .finished outcome)
  | .misuse .unusablePath => ({ status := 1 }, .crashed .unusablePath)
  | .misuse cause => ({ status := 2 }, .misuse cause)
  | .unknownLevel name => ({ status := 1 }, .crashed (.unknownLevel name))
  | .run command =>
    let deed := command.run fs room
    (deed.toOutcome, deed.ending)

def run (fs : Files) (level : String) (args : List String) (room : Nat := Json.usualRoom) :
    Ending :=
  (perform fs level args room).2

end TerseSchema.Cli
