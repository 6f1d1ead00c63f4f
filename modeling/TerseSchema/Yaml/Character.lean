import TerseSchema.Text.Digit
/-!
# Characters of YAML

The characters that a YAML text may hold, and the classes into which its grammar divides them.
The end of the text counts as white space.
-/

namespace TerseSchema.Yaml

open TerseSchema.Text

def isAllowed (c : Char) : Bool :=
  let n := c.toNat
  n = 0x9 || n = 0xa || n = 0xd || (0x20 ≤ n && n ≤ 0x7e) || n = 0x85 ||
    (0xa0 ≤ n && n ≤ 0xd7ff) || (0xe000 ≤ n && n ≤ 0xfffd) || 0x10000 ≤ n

def isBreak (c : Char) : Bool :=
  c = '\n' || c = '\r' || c = '\u0085' || c = '\u2028' || c = '\u2029'

def isSpace (c : Char) : Bool := c = ' ' || c = '\t'

def isSpaceOrBreak (c : Char) : Bool := isSpace c || isBreak c

def atSpace : List Char → Bool
  | [] => true
  | c :: _ => isSpaceOrBreak c

def atLineEnd : List Char → Bool
  | [] => true
  | c :: _ => isBreak c

/-- Whether a line break, a blank or the end of the text comes next; a tab is none of these. -/
def atBlank : List Char → Bool
  | [] => true
  | c :: _ => c = ' ' || isBreak c

def isOneOf (signs : String) (c : Char) : Bool := signs.toList.contains c

def isNameChar (c : Char) : Bool :=
  isDigit c || ('A' ≤ c && c ≤ 'Z') || ('a' ≤ c && c ≤ 'z') || c = '-' || c = '_'

/-- Whether the mark between documents, or after one, stands at the start of a text. -/
def atSeparator : List Char → Bool
  | '-' :: '-' :: '-' :: rest => atSpace rest
  | '.' :: '.' :: '.' :: rest => atSpace rest
  | _ => false

end TerseSchema.Yaml
