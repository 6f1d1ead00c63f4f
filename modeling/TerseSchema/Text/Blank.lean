import TerseSchema.Text.Basic
import TerseSchema.Text.Range
import TerseSchema.Text.Split
/-!
# Blanks

The Unicode white space characters and the four ASCII separators, and texts
without blanks at their ends.
-/

namespace TerseSchema.Text

def blankRanges : List (Nat × Nat) := [
  (0x9, 0xd), (0x1c, 0x20), (0x85, 0x85), (0xa0, 0xa0), (0x1680, 0x1680), (0x2000, 0x200a),
  (0x2028, 0x2029), (0x202f, 0x202f), (0x205f, 0x205f), (0x3000, 0x3000)]

def isBlank (c : Char) : Bool := inRanges blankRanges c.toNat

def strip (s : Text) : Text :=
  dropEndWhile (CodePoint.any isBlank) (s.dropWhile (CodePoint.any isBlank))

end TerseSchema.Text
