import TerseSchema.Number.Numeral
import TerseSchema.Text.Split
import TerseSchema.Yaml.Fault
/-!
# Tagged numbers

The numbers that scalars tagged as such denote. Underscores do not count, and numerals with
colons are in base sixty.
-/

namespace TerseSchema.Yaml

open TerseSchema.Text

def withoutUnderscores (s : List Char) : List Char := s.filter (· ≠ '_')

/-- Whether a minus sign comes first, and the text after a sign; a text without characters has no
sign. -/
def tagSign (s : List Char) : Except Fault (Bool × List Char) :=
  match s with
  | [] => .error .emptyNumeral
  | '-' :: rest => .ok (true, rest)
  | '+' :: rest => .ok (false, rest)
  | _ => .ok (false, s)

def intOrFault (base : Nat) (s : List Char) : Except Fault Int :=
  match Numeral.int? base s with
  | some n => .ok n
  | none => .error .numeral

def sixtyInt (places : List Int) : Int := places.foldl (fun n place => 60 * n + place) 0

def unsignedInt (s : List Char) : Except Fault Int :=
  match s with
  | [] => .error .emptyNumeral
  | ['0'] => .ok 0
  | '0' :: 'b' :: rest => intOrFault 2 rest
  | '0' :: 'x' :: rest => intOrFault 16 rest
  | '0' :: _ => intOrFault 8 s
  | _ =>
    if s.contains ':' then do
      let places ← (splitOn ':' s).mapM (intOrFault 10)
      return sixtyInt places
    else intOrFault 10 s

def numeralChars (text : Text) : Except Fault (List Char) :=
  match text.chars? with
  | some cs => .ok (withoutUnderscores cs)
  | none => .error .numeral

def taggedInt (text : Text) : Except Fault Int := do
  let (negative, unsigned) ← tagSign (← numeralChars text)
  let n ← unsignedInt unsigned
  return if negative then -n else n

def floatOrFault (s : List Char) : Except Fault Binary64 :=
  match Numeral.float? s with
  | some x => .ok x
  | none => .error .numeral

/-- Adds places in base sixty, the lowest first, to a float. The worth of each place is rounded
to a float, which it must fit. -/
def addPlaces : Nat → Binary64 → List Binary64 → Except Fault Binary64
  | _, sum, [] => .ok sum
  | worth, sum, place :: rest =>
    let factor := Binary64.ofInt worth
    if factor.isFinite then addPlaces (worth * 60) (sum.add (place.mul factor)) rest
    else .error .highPlace

def notANumber : Binary64 := .nan 0

/-- The float of a scalar tagged as one. What is no number, but not by the word for it, has
a payload of its own. -/
def taggedFloat (payload : Nat) (text : Text) : Except Fault Binary64 := do
  let (negative, unsigned) ← tagSign ((← numeralChars text).map Char.toLower)
  if unsigned = ".nan".toList then return notANumber
  let x ←
    if unsigned = ".inf".toList then pure (.infinity false)
    else if unsigned.contains ':' then do
      let places ← (splitOn ':' unsigned).mapM floatOrFault
      addPlaces 1 (.zero false) places.reverse
    else floatOrFault unsigned
  return (if negative then x.negate else x).withPayload payload

end TerseSchema.Yaml
