/-!
# Limits

What no value is written or followed beyond.
-/

namespace TerseSchema

inductive Limit where
  /-- A whole number has more digits than are ever written. -/
  | longNumeral
  /-- Values lie inside of themselves, so that following them has no end. -/
  | endless
  /-- An indentation is beyond the range of lengths. -/
  | wideIndent
  /-- An indentation is within the range of lengths and beyond the memory that there is. -/
  | memory
deriving DecidableEq, Inhabited

/-- The greatest number of digits of a whole number in decimal text. -/
def mostDigits : Nat := 4300

def isWritable (n : Int) : Bool := n.natAbs < Nat.pow 10 mostDigits

def Limit.message : Limit → String
  | .longNumeral =>
    "Exceeds the limit (" ++ toString mostDigits ++ " digits) for integer string conversion; " ++
      "use sys.set_int_max_str_digits() to increase the limit"
  | .endless => "a value lies inside of itself"
  | .wideIndent => "an indentation is too wide"
  | .memory => "an indentation needs too much memory"

end TerseSchema
