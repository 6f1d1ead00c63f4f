import TerseSchema.Limit
import TerseSchema.Number.Binary64
import TerseSchema.Text.Blank
import TerseSchema.Text.Digit
/-!
# Reading numerals

The lenient reading of number texts: blanks around the numeral do not count, the decimal digits
of any alphabet do, and a sign may come first.
-/

namespace TerseSchema.Numeral

open TerseSchema.Text

/-- Whether a character may stand around a numeral: any blank but the ASCII separators. -/
def isMargin (c : Char) : Bool := isBlank c && !(0x1c ≤ c.toNat && c.toNat ≤ 0x1f)

/-- A text without the margins around it, and with ASCII digits for those of other alphabets. -/
def normalize (s : List Char) : List Char :=
  (dropEndWhile isMargin (s.dropWhile isMargin)).map fun c => match digitValue? c with
    | some d => Nat.digitChar d
    | none => c

def splitSign : List Char → Bool × List Char
  | '-' :: rest => (true, rest)
  | '+' :: rest => (false, rest)
  | s => (false, s)

def placeValue? (base : Nat) (c : Char) : Option Nat := (hexValue? c).filter (· < base)

/-- The number that digits denote, continued from `n`. -/
def digits? (base : Nat) : Nat → List Char → Option Nat
  | n, [] => some n
  | n, c :: rest =>
    match placeValue? base c with
    | some d => digits? base (n * base + d) rest
    | none => none

def dropBaseMark (base : Nat) : List Char → List Char
  | '0' :: c :: rest =>
    let marks := match base with
      | 2 => ['b', 'B']
      | 8 => ['o', 'O']
      | 16 => ['x', 'X']
      | _ => []
    if marks.contains c then rest else '0' :: c :: rest
  | s => s

def int? (base : Nat) (s : List Char) : Option Int :=
  let (negative, unsigned) := splitSign (normalize s)
  let digits := dropBaseMark base unsigned
  if digits.isEmpty || base = 10 && mostDigits < digits.length then none
  else (digits? base 0 digits).map (Binary64.signed negative)

def spanDigits (s : List Char) : List Char × List Char :=
  (s.takeWhile isDigit, s.dropWhile isDigit)

def exponent? : List Char → Option Int
  | [] => some 0
  | e :: rest =>
    if e = 'e' || e = 'E' then
      let (negative, digits) := splitSign rest
      if digits.isEmpty then none else (digits? 10 0 digits).map (Binary64.signed negative)
    else none

def unsignedFloat? (negative : Bool) (s : List Char) : Option Binary64 :=
  if s = "inf".toList || s = "infinity".toList then some (.infinity negative)
  else if s = "nan".toList then some Binary64.invalid
  else
    let (whole, rest) := spanDigits s
    let (places, rest) := match rest with
      | '.' :: after => spanDigits after
      | _ => ([], rest)
    if whole.isEmpty && places.isEmpty then none
    else
      match digits? 10 0 (whole ++ places), exponent? rest with
      | some n, some power => some (Binary64.ofDecimal negative n (power - places.length))
      | _, _ => none

def float? (s : List Char) : Option Binary64 :=
  let (negative, unsigned) := splitSign (normalize s)
  unsignedFloat? negative unsigned

end TerseSchema.Numeral
