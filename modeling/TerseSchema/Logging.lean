import TerseSchema.Text.Capital
import TerseSchema.Text.Quoted
/-!
# Logging

The level from which messages are logged, set by number or by name, and the
handlers that show them.
-/

namespace TerseSchema

structure Logger where
  level : Int := 0
  handlers : Nat := 0
deriving DecidableEq

namespace Logger

inductive Level where
  | number (n : Int)
  | name (s : Text)

def namedLevels : List (Text × Int) := [
  ("CRITICAL", 50), ("FATAL", 50), ("ERROR", 40), ("WARN", 30), ("WARNING", 30), ("INFO", 20),
  ("DEBUG", 10), ("NOTSET", 0)]

/-- The level that is meant, or the name in capitals if no level has it. -/
def Level.resolve : Level → Except Text Int
  | .number n => .ok n
  | .name s =>
    let name := Text.capitals s
    match namedLevels.find? (·.1 = name) with
    | some (_, n) => .ok n
    | none => .error name

def unknownLevelMessage (name : Text) : Text := "Unknown level: " ++ Text.quoted name

/-- Installs a handler in place of an earlier one, and sets the level if
there is such a level. -/
def configure (logger : Logger) (level : Level) : Logger × Option Text :=
  let logger := { logger with handlers := 1 }
  match level.resolve with
  | .ok n => ({ logger with level := n }, none)
  | .error name => (logger, some (unknownLevelMessage name))

end Logger
end TerseSchema
