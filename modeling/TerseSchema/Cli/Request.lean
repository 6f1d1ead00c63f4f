import TerseSchema.Cli.Options
import TerseSchema.Files
import TerseSchema.Logging
import TerseSchema.Number.Numeral
/-!
# Requests

What the arguments of the program ask for.
-/

namespace TerseSchema.Cli

open TerseSchema

def standardIndent : Nat := 2

structure ConvertOptions where
  source : FilePath
  output : Option FilePath := none
  canonical : Bool := false
  indent : Nat
  check : Bool := false

inductive Command where
  | convert (options : ConvertOptions)
  | check (source : FilePath) (showSchema : Bool)

inductive Request where
  | help
  | version
  | misuse (cause : Misuse)
  | unknownLevel (name : Text)
  | run (command : Command)

def helpOption : OptionSpec := { name := "help" }

def programOptions : List OptionSpec := [
  { name := "version", letter := some 'v' },
  { name := "log-level", takesValue := true },
  helpOption]

def convertOptions : List OptionSpec := [
  { name := "output", letter := some 'o', takesValue := true },
  { name := "canonical" },
  { name := "indent", takesValue := true },
  { name := "check" },
  helpOption]

def checkOptions : List OptionSpec := [{ name := "show-schema" }, helpOption]

/-- A numeral without the underscores between its digits, if they stand nowhere else. -/
def withoutSeparators? : List Char → Option (List Char)
  | [] => some []
  | '_' :: _ => none
  | c :: '_' :: d :: rest =>
    if d = '_' then none
    else if (Numeral.placeValue? 10 c).isSome then
      (withoutSeparators? (d :: rest)).map (c :: ·)
    else none
  | [_, '_'] => none
  | c :: rest => (withoutSeparators? rest).map (c :: ·)

/-- A numeral without the places after its point, if all of them are zeros. -/
def withoutZeroPlaces : List Char → List Char
  | [] => []
  | c :: '.' :: places =>
    if Text.isDigit c && places.all (· = '0') then [c] else c :: '.' :: places
  | c :: rest => c :: withoutZeroPlaces rest

/-- An indentation: a whole number that is not negative, with or without a
point and zeros after it. -/
def indentation? (text : String) : Option Nat := do
  let digits ← withoutSeparators? (withoutZeroPlaces (Numeral.normalize text.toList))
  let n ← Numeral.int? 10 digits
  if 0 ≤ n then some n.toNat else none

def isUnusable (path : String) : Bool := path.toList.contains '\x00'

def sourceOf (fs : Files) (a : Arguments) : Except Misuse FilePath :=
  match a.operands with
  | [] => .error .operands
  | text :: more =>
    if isUnusable text then .error .unusablePath
    else if !fs.isFile text then .error .badPath
    else if !more.isEmpty then .error .operands
    else .ok (.ofText text)

def judgeOption (a : Arguments) (name : String) : Except Misuse Unit :=
  let value := (a.value? name).getD ""
  if name = "output" && isUnusable value then .error .unusablePath
  else if name = "indent" && (indentation? value).isNone then .error .badNumber
  else .ok ()

/-- A conversion, or none where help is asked for. Options are judged in the order in which they
are given, and before the operands. -/
def readConvert (fs : Files) (args : List String) : Except Misuse (Option Command) := do
  let a ← Arguments.parse convertOptions true args
  if a.has "help" then return none
  a.options.forM fun option => judgeOption a option.1
  let source ← sourceOf fs a
  return some (.convert {
    source
    output := (a.value? "output").map .ofText
    canonical := a.has "canonical"
    indent := ((a.value? "indent").bind indentation?).getD standardIndent
    check := a.has "check" })

def readCheck (fs : Files) (args : List String) : Except Misuse (Option Command) := do
  let a ← Arguments.parse checkOptions true args
  if a.has "help" then return none
  let source ← sourceOf fs a
  return some (.check source (a.has "show-schema"))

def commandReader? (fs : Files) (name : String) :
    Option (List String → Except Misuse (Option Command)) :=
  match name with
  | "convert" => some (readConvert fs)
  | "check" => some (readCheck fs)
  | _ => none

def standardLevel : String := "WARNING"

/-- What the arguments ask for, given the files that paths lead to and the level to log from
where they tell none. Of several things in the way, an unknown command comes first, then an
unknown level, then the arguments of the command. -/
def Request.parse (fs : Files) (level : String) (args : List String) : Request :=
  match Arguments.parse programOptions false args with
  | .error cause => .misuse cause
  | .ok a =>
    if a.has "help" then .help
    else
      let proceed (next : Unit → Request) : Request :=
        if a.has "version" then .version
        else
          match (Logger.Level.name ((a.value? "log-level").getD level)).resolve with
          | .error name => .unknownLevel name
          | .ok _ => next ()
      match a.operands with
      | [] => proceed fun _ => .help
      | name :: rest =>
        match commandReader? fs name with
        | none => .misuse .unknownCommand
        | some read =>
          proceed fun _ =>
            match read rest with
            | .error cause => .misuse cause
            | .ok none => .help
            | .ok (some command) => .run command

end TerseSchema.Cli
