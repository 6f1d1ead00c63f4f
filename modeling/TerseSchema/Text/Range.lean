/-!
# Ranges of code points
-/

namespace TerseSchema.Text

/-- Membership in ascending ranges, both ends included. -/
def inRanges : List (Nat × Nat) → Nat → Bool
  | [], _ => false
  | (low, high) :: rest, n => if n < low then false else n ≤ high || inRanges rest n

end TerseSchema.Text
