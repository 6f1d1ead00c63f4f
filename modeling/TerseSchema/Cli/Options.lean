/-!
# Options

Splitting the arguments of a command into options and operands. Long options start with two
hyphens and may take their value after an equals sign, short ones can be joined, and two
hyphens alone end the options.
-/

namespace TerseSchema.Cli

structure OptionSpec where
  name : String
  letter : Option Char := none
  takesValue : Bool := false

structure Arguments where
  options : List (String × String) := []
  operands : List String := []

namespace Arguments

def has (a : Arguments) (name : String) : Bool := a.options.any (·.1 = name)

/-- The value of an option; the last one given counts. -/
def value? (a : Arguments) (name : String) : Option String :=
  (a.options.reverse.find? (·.1 = name)).map (·.2)

def addOption (a : Arguments) (name value : String) : Arguments :=
  { a with options := a.options ++ [(name, value)] }

def addOperands (a : Arguments) (operands : List String) : Arguments :=
  { a with operands := a.operands ++ operands }

end Arguments

inductive Misuse where
  | unknownOption
  | missingValue
  | unexpectedValue
  | operands
  | badNumber
  | badPath
  /-- A path that nothing can be looked up under. -/
  | unusablePath
  | unknownCommand
deriving DecidableEq

def splitLong (arg : List Char) : List Char × Option String :=
  let name := arg.takeWhile (· ≠ '=')
  match arg.drop name.length with
  | _ :: value => (name, some (String.ofList value))
  | [] => (name, none)

/-- Reads joined short options. The value of the last may follow its letter or
be the next argument. -/
def shortOptions (specs : List OptionSpec) (a : Arguments) (next : List String) :
    List Char → Except Misuse (Arguments × List String)
  | [] => .ok (a, next)
  | c :: rest =>
    match specs.find? fun spec => spec.letter = some c with
    | none => .error .unknownOption
    | some spec =>
      if !spec.takesValue then shortOptions specs (a.addOption spec.name "") next rest
      else if !rest.isEmpty then .ok (a.addOption spec.name (String.ofList rest), next)
      else
        match next with
        | value :: next => .ok (a.addOption spec.name value, next)
        | [] => .error .missingValue

def oneOption (specs : List OptionSpec) (a : Arguments) (arg : List Char) (next : List String) :
    Except Misuse (Arguments × List String) :=
  let (name, given) := splitLong arg
  match specs.find? fun spec => ("--" ++ spec.name).toList = name with
  | some spec =>
    if spec.takesValue then
      match given, next with
      | some value, _ => .ok (a.addOption spec.name value, next)
      | none, value :: next => .ok (a.addOption spec.name value, next)
      | none, [] => .error .missingValue
    else if given.isSome then .error .unexpectedValue
    else .ok (a.addOption spec.name "", next)
  | none =>
    if "--".toList.isPrefixOf arg then .error .unknownOption
    else shortOptions specs a next (arg.drop 1)

/-- Reads arguments. Where options and operands do not mix, the first
operand ends the options. -/
def readArguments (specs : List OptionSpec) (mixed : Bool) :
    Nat → Arguments → List String → Except Misuse Arguments
  | 0, a, args => .ok (a.addOperands args)
  | _ + 1, a, [] => .ok a
  | fuel + 1, a, arg :: rest =>
    match arg.toList with
    | ['-', '-'] => .ok (a.addOperands rest)
    | '-' :: c :: cs => do
      let (a, rest) ← oneOption specs a ('-' :: c :: cs) rest
      readArguments specs mixed fuel a rest
    | _ =>
      if mixed then readArguments specs mixed fuel (a.addOperands [arg]) rest
      else .ok (a.addOperands (arg :: rest))

def Arguments.parse (specs : List OptionSpec) (mixed : Bool) (args : List String) :
    Except Misuse Arguments :=
  readArguments specs mixed args.length {} args

end TerseSchema.Cli
