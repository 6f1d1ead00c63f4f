import TerseSchema.Json.Plain
import TerseSchema.Limit
import TerseSchema.Text.Digit
import TerseSchema.Value.Basic
/-!
# Reading JSON

JSON text as values, with the names `NaN`, `Infinity` and `-Infinity` for the numbers JSON lacks.
A number without fraction and exponent is an integer.
-/

namespace TerseSchema.Json

open TerseSchema TerseSchema.Text

inductive ReadFault where
  | malformed
  /-- A whole number has too many digits. -/
  | longNumeral
deriving DecidableEq

def isSpace (c : Char) : Bool := c = ' ' || c = '\t' || c = '\n' || c = '\r'

def skipSpaces (s : Text) : Text := s.dropWhile (CodePoint.any isSpace)

/-! ## Strings -/

def unit? (s : Text) : Option (Nat × Text) :=
  (hexNumber? 4 0 ((s.take 4).filterMap CodePoint.char?)).map fun r => (r.1, s.drop 4)

/-- The code point of an escape, if another escape with the second half of its pair follows,
and the text after both. -/
def pairedUnit? (first : CodePoint) : Text → Option (CodePoint × Text)
  | .char '\\' :: .char 'u' :: rest => do
    let (code, after) ← unit? rest
    let c ← pair? first (← CodePoint.ofCode? code)
    return (.char c, after)
  | _ => none

/-- The code point of an escape, given the text after its backslash. Two escapes that form a pair
of surrogates are one character. -/
def escape? : Text → Option (CodePoint × Text)
  | .char '"' :: rest => some (.char '"', rest)
  | .char '\\' :: rest => some (.char '\\', rest)
  | .char '/' :: rest => some (.char '/', rest)
  | .char 'b' :: rest => some (.char '\x08', rest)
  | .char 'f' :: rest => some (.char '\x0c', rest)
  | .char 'n' :: rest => some (.char '\n', rest)
  | .char 'r' :: rest => some (.char '\r', rest)
  | .char 't' :: rest => some (.char '\t', rest)
  | .char 'u' :: rest => do
    let (code, rest) ← unit? rest
    let p ← CodePoint.ofCode? code
    return (pairedUnit? p rest).getD (p, rest)
  | _ => none

def stringText? : Nat → Text → Option (Text × Text)
  | 0, _ => none
  | _ + 1, [] => none
  | _ + 1, .char '"' :: rest => some ([], rest)
  | fuel + 1, .char '\\' :: rest => do
    let (p, rest) ← escape? rest
    let (ps, rest) ← stringText? fuel rest
    return (p :: ps, rest)
  | fuel + 1, p :: rest =>
    if p.code < 0x20 then none
    else do
      let (ps, rest) ← stringText? fuel rest
      return (p :: ps, rest)

def stringAfterQuote (s : Text) : Except ReadFault (Text × Text) :=
  match stringText? (s.length + 1) s with
  | some r => .ok r
  | none => .error .malformed

/-! ## Numbers and words -/

def fraction (s : Text) : Option (List Char) × Text :=
  match s with
  | .char '.' :: rest =>
    match spanChars isDigit rest with
    | ([], _) => (none, s)
    | (digits, after) => (some digits, after)
  | _ => (none, s)

def exponentSign : Text → Bool × Text
  | .char '+' :: rest => (false, rest)
  | .char '-' :: rest => (true, rest)
  | s => (false, s)

def exponent (s : Text) : Option Int × Text :=
  match s with
  | .char e :: rest =>
    if e = 'e' ∨ e = 'E' then
      let (negative, unsigned) := exponentSign rest
      match spanChars isDigit unsigned with
      | ([], _) => (none, s)
      | (digits, after) => (some (Binary64.signed negative (ofDigits digits)), after)
    else (none, s)
  | _ => (none, s)

/-- The digits before a decimal point: a zero alone, or digits that do not start with zero. -/
def wholeDigits (s : Text) : Except ReadFault (List Char × Text) :=
  match s with
  | .char '0' :: rest => .ok (['0'], rest)
  | _ =>
    match spanChars isDigit s with
    | ([], _) => .error .malformed
    | r => .ok r

def numeral (negative : Bool) (s : Text) : Except ReadFault (Value × Text) := do
  let (digits, rest) ← wholeDigits s
  let (places, rest) := fraction rest
  let (power, rest) := exponent rest
  match places, power with
  | none, none =>
    if mostDigits < digits.length then throw .longNumeral
    return (.int (Binary64.signed negative (ofDigits digits)), rest)
  | _, _ =>
    let places := places.getD []
    let shift := power.getD 0 - places.length
    return (.float (Binary64.ofDecimal negative (ofDigits (digits ++ places)) shift), rest)

def afterWord? : List Char → Text → Option Text
  | [], s => some s
  | c :: cs, p :: s => if p = .char c then afterWord? cs s else none
  | _ :: _, [] => none

def words : List (String × Value) := [
  ("null", .null), ("true", .bool true), ("false", .bool false), ("NaN", .float notANumber),
  ("Infinity", .float (.infinity false)), ("-Infinity", .float (.infinity true))]

def scalar (s : Text) : Except ReadFault (Value × Text) :=
  match words.findSome? fun w => (afterWord? w.1.toList s).map fun rest => (w.2, rest) with
  | some r => .ok r
  | none =>
    match s with
    | .char '"' :: rest => do
      let (text, rest) ← stringAfterQuote rest
      return (.text text, rest)
    | .char '-' :: rest => numeral true rest
    | _ => numeral false s

/-! ## Values -/

mutual

def value : Nat → Text → Except ReadFault (Value × Text)
  | 0, _ => .error .malformed
  | fuel + 1, s =>
    match skipSpaces s with
    | .char '[' :: rest =>
      match skipSpaces rest with
      | .char ']' :: rest => .ok (.list [], rest)
      | _ => do
        let (vs, rest) ← items fuel rest
        return (.list vs, rest)
    | .char '\x7b' :: rest =>
      match skipSpaces rest with
      | .char '\x7d' :: rest => .ok (.map [], rest)
      | _ => do
        let (es, rest) ← members fuel rest
        return (.ofEntries (Entries.putAll [] es), rest)
    | s => scalar s

def items : Nat → Text → Except ReadFault (List Value × Text)
  | 0, _ => .error .malformed
  | fuel + 1, s => do
    let (v, rest) ← value fuel s
    match skipSpaces rest with
    | .char ',' :: rest =>
      let (vs, rest) ← items fuel rest
      return (v :: vs, rest)
    | .char ']' :: rest => return ([v], rest)
    | _ => throw .malformed

def members : Nat → Text → Except ReadFault (Entries Value × Text)
  | 0, _ => .error .malformed
  | fuel + 1, s =>
    match skipSpaces s with
    | .char '"' :: rest => do
      let (key, rest) ← stringAfterQuote rest
      match skipSpaces rest with
      | .char ':' :: rest =>
        let (v, rest) ← value fuel rest
        match skipSpaces rest with
        | .char ',' :: rest =>
          let (es, rest) ← members fuel rest
          return ((key, v) :: es, rest)
        | .char '\x7d' :: rest => return ([(key, v)], rest)
        | _ => throw .malformed
      | _ => throw .malformed
    | _ => .error .malformed

end

def read (s : Text) : Except ReadFault Value :=
  match value (2 * s.length + 2) s with
  | .ok (v, rest) => if (skipSpaces rest).isEmpty then .ok v else .error .malformed
  | .error fault => .error fault

end TerseSchema.Json
