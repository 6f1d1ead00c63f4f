/-!
# Binary floating point

The numbers of the 64-bit binary format as exact data: a sign, a significand below 2⁵³ and a
power of two. Every operation is exact arithmetic on naturals followed by one rounding to
nearest, a half going to the even neighbour.
-/

namespace TerseSchema

def Binary64.leastExponent : Int := -1074

def Binary64.greatestExponent : Int := 971

/-- Whether a number of the format has the given significand and exponent: the leading bit of the
significand is set unless the exponent is the least. Each finite number has one such pair. -/
def Binary64.IsCanonical (significand : Nat) (exponent : Int) : Prop :=
  significand < Nat.pow 2 53 ∧ leastExponent ≤ exponent ∧ exponent ≤ greatestExponent ∧
    (Nat.pow 2 52 ≤ significand ∨ exponent = leastExponent)

instance (significand : Nat) (exponent : Int) :
    Decidable (Binary64.IsCanonical significand exponent) :=
  inferInstanceAs (Decidable (_ ∧ _))

/-- A number of the 64-bit binary format, or none. What is no number carries a payload, which
tells one such result from another. -/
inductive Binary64 where
  | nan (payload : Nat)
  | infinity (negative : Bool)
  | finite (negative : Bool) (significand : Nat) (exponent : Int)
    (isCanonical : Binary64.IsCanonical significand exponent)
deriving DecidableEq, Inhabited

namespace Binary64

def zero (negative : Bool) : Binary64 := .finite negative 0 leastExponent (by decide)

def invalid : Binary64 := .nan 0

def withPayload (payload : Nat) : Binary64 → Binary64
  | .nan _ => .nan payload
  | x => x

/-- The whole number nearest to `num / den`; a half goes to the even neighbour. -/
def roundDiv (num den : Nat) : Nat :=
  let q := num / den
  let r := num % den
  if 2 * r < den then q else if den < 2 * r then q + 1 else q + q % 2

/-- The fraction `num / (den · 2 ^ e)`. -/
def unscale (num den : Nat) : Int → Nat × Nat
  | .ofNat k => (num, den * Nat.pow 2 k)
  | .negSucc k => (num * Nat.pow 2 (k + 1), den)

def scale (n : Nat) : Int → Nat × Nat
  | .ofNat k => (n * Nat.pow 2 k, 1)
  | .negSucc k => (n, Nat.pow 2 (k + 1))

/-- The exponent under which `num / den` has a significand of 53 bits. -/
def leadingExponent (num den : Nat) : Int :=
  let guess : Int := (num.log2 : Int) - den.log2 - 52
  let fraction := unscale num den guess
  if fraction.1 < fraction.2 * Nat.pow 2 52 then guess - 1 else guess

/-- The number with a rounded significand, which may have become too long by one. What is beyond
the greatest exponent is infinite. -/
def ofRounded (negative : Bool) (significand : Nat) (exponent : Int) : Binary64 :=
  let carries := significand = Nat.pow 2 53
  let significand := if carries then Nat.pow 2 52 else significand
  let exponent := if carries then exponent + 1 else exponent
  if h : IsCanonical significand exponent then .finite negative significand exponent h
  else .infinity negative

def ofRatio (negative : Bool) (num den : Nat) : Binary64 :=
  if num = 0 then zero negative
  else
    let exponent := max (leadingExponent num den) leastExponent
    let fraction := unscale num den exponent
    ofRounded negative (roundDiv fraction.1 fraction.2) exponent

/-- The number nearest to `digits · 10 ^ exponent`. Outside the range of the format the powers of
ten are not computed. -/
def ofDecimal (negative : Bool) (digits : Nat) (exponent : Int) : Binary64 :=
  if digits = 0 then zero negative
  else
    let top : Int := (Nat.toDigits 10 digits).length + exponent
    if 320 < top then .infinity negative
    else if top < -330 then zero negative
    else
      match exponent with
      | .ofNat k => ofRatio negative (digits * Nat.pow 10 k) 1
      | .negSucc k => ofRatio negative digits (Nat.pow 10 (k + 1))

def ofInt (n : Int) : Binary64 := ofRatio (n < 0) n.natAbs 1

def negate : Binary64 → Binary64
  | .nan payload => .nan payload
  | .infinity negative => .infinity !negative
  | .finite negative significand exponent h => .finite (!negative) significand exponent h

def signed (negative : Bool) (n : Nat) : Int := if negative then -(n : Int) else n

def ratio? : Binary64 → Option (Int × Nat)
  | .finite negative significand exponent _ =>
    let (num, den) := scale significand exponent
    some (signed negative num, den)
  | _ => none

def toInt? (x : Binary64) : Option Int :=
  match x.ratio? with
  | some (num, den) => if num % den = 0 then some (num / den) else none
  | none => none

def isFinite : Binary64 → Bool
  | .finite .. => true
  | _ => false

def mul : Binary64 → Binary64 → Binary64
  | .nan payload, _ => .nan payload
  | _, .nan payload => .nan payload
  | .infinity s, .infinity t => .infinity (s != t)
  | .infinity s, .finite t n _ _ => if n = 0 then invalid else .infinity (s != t)
  | .finite s m _ _, .infinity t => if m = 0 then invalid else .infinity (s != t)
  | .finite s m e _, .finite t n f _ =>
    let (num, den) := scale (m * n) (e + f)
    ofRatio (s != t) num den

/-- The exact sum, rounded. A sum that cancels is positive zero. -/
def add : Binary64 → Binary64 → Binary64
  | .nan payload, _ => .nan payload
  | _, .nan payload => .nan payload
  | .infinity s, .infinity t => if s = t then .infinity s else invalid
  | .infinity s, .finite .. => .infinity s
  | .finite .., .infinity t => .infinity t
  | .finite s m e _, .finite t n f _ =>
    let low := min e f
    let sum :=
      signed s (m * Nat.pow 2 (e - low).toNat) + signed t (n * Nat.pow 2 (f - low).toNat)
    if sum = 0 then zero (s && t)
    else
      let (num, den) := scale sum.natAbs low
      ofRatio (sum < 0) num den

end Binary64
end TerseSchema
