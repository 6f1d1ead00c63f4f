import TerseSchema.Cli.Commands
/-!
# The program

The command line: files are read before a command runs and written after it has ended.
-/

namespace TerseSchema.Cli

def usage : String :=
  "\n".intercalate [
    "picoschema - compact schema shorthand to JSON Schema", "",
    "  picoschema [--log-level LEVEL] convert SOURCE [--output PATH] [--canonical] " ++
      "[--indent N] [--check]",
    "  picoschema [--log-level LEVEL] check SOURCE [--show-schema]", "  picoschema --version"]

def Misuse.message : Misuse → String
  | .unknownOption => "no such option"
  | .missingValue => "an option lacks its value"
  | .unexpectedValue => "an option takes no value"
  | .operands => "exactly one source is wanted"
  | .badNumber => "the indentation is not a whole number from zero up"
  | .badPath => "the source is not a file"
  | .unusablePath => "a path holds a null character"
  | .unknownCommand => "no such command"

def Crash.message : Crash → String
  | .unknownLevel name => (Logger.unknownLevelMessage name).printed
  | .unusablePath => Misuse.unusablePath.message
  | .loading (.failure f) => f.message.printed
  | .loading (.scalar _) => "a scalar does not suit its tag"
  | .loading .encoding => "the source is not UTF-8"
  | .loading .longPath => "the path to the source is too long"
  | .limit l => l.message
  | .display _ => "a message cannot be shown"
  | .writing .isDirectory => "the output is a directory"
  | .writing .directoryIsFile => "the output's directory is a file"
  | .writing .fileOnTheWay => "a file stands on the way to the output"
  | .writing .longPath => "the path to the output is too long"

def filesAmong (args : List String) : IO Files := do
  let mut files := []
  for arg in args do
    match ← (IO.FS.readBinFile arg).toBaseIO with
    | .ok octets => files := (FilePath.ofText arg, FileNode.file octets.toList) :: files
    | .error (.permissionDenied _ _ reason) =>
      files := (FilePath.ofText arg, FileNode.unreadable false reason) :: files
    | .error _ => pure ()
  return .ofList files

def environmentLevel : IO String := do
  match ← IO.getEnv "PICOSCHEMA_LOG_LEVEL" with
  | some level => return if level.isEmpty then standardLevel else level
  | none => return standardLevel

def writeOutput (path : FilePath) (text : Text) : IO Unit := do
  IO.FS.createDirAll path.parent.text
  IO.FS.writeFile path.text text.printed

def conclude (outcome : Outcome) (ending : Ending) : IO UInt32 := do
  if let some (path, text) := outcome.written then writeOutput path text
  IO.print outcome.screen.output
  IO.eprint outcome.screen.errors
  match ending with
  | .help => IO.println usage
  | .misuse cause => IO.eprintln ("Error: " ++ cause.message)
  | .crashed crash => IO.eprintln ("Error: " ++ crash.message)
  | .finished _ => pure ()
  return UInt32.ofNat outcome.status

def runProgram (args : List String) : IO UInt32 := do
  let (outcome, ending) := perform (← filesAmong args) (← environmentLevel) args
  conclude outcome ending

end TerseSchema.Cli

def main (args : List String) : IO UInt32 := TerseSchema.Cli.runProgram args
