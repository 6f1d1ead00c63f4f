/-!
# Faults of YAML texts

Why a text has no value. Most texts without a value are malformed; the other faults
belong to scalars whose text does not suit the tag they are given, and to escapes
beyond the last character.
-/

namespace TerseSchema.Yaml

inductive Fault where
  | malformed
  /-- An escape that names a code point after the last one; `huge` if it does not fit 31 bits. -/
  | characterCode (huge : Bool)
  /-- A text tagged as a number that is none. -/
  | numeral
  /-- A text tagged as a number without any digit. -/
  | emptyNumeral
  /-- A number in base sixty with a place too high for any float. -/
  | highPlace
  /-- A text tagged as a truth value that is none. -/
  | truthValue
  /-- A text tagged as a date or time that does not look like one. -/
  | momentForm
  /-- A date or time that the calendar does not have. -/
  | calendar
  /-- A collection tagged as a date or time. -/
  | momentOfCollection
  /-- A mapping tagged as a scalar whose default entry leads back to itself. -/
  | endless
deriving DecidableEq

end TerseSchema.Yaml
