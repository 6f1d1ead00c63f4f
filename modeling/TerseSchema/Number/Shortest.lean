import TerseSchema.Number.Binary64
/-!
# Shortest decimal text

The fewest decimal digits that read back as a number and, of those, the nearest to it. The digits
are laid out by a record of the decisions that a format makes.
-/

namespace TerseSchema

/-- The decimal number `digits · 10 ^ exponent`. -/
structure Decimal where
  digits : Nat
  exponent : Int
deriving DecidableEq

namespace Decimal

structure Layout where
  /-- A decimal point at this place or before it calls for an exponent. -/
  pointAfter : Int
  /-- A decimal point beyond this place calls for an exponent. -/
  pointUpTo : Int
  /-- The least number of digits of an exponent. -/
  exponentWidth : Nat
  nan : String
  infinity : String

def trim (d : Decimal) : Nat → Decimal
  | 0 => d
  | fuel + 1 =>
    if d.digits % 10 = 0 then trim ⟨d.digits / 10, d.exponent + 1⟩ fuel else d

/-- The two neighbours of `num / den` among the whole numbers, the nearer one first and of two
equally near ones the even one. -/
def neighbours (num den : Nat) : List Nat :=
  let q := num / den
  if Binary64.roundDiv num den = q then [q, q + 1] else [q + 1, q]

/-- The place of the decimal point of `num / den`: the least `k` with `num / den < 10 ^ k`. -/
def pointPlace (num den : Nat) : Int :=
  let place : Int :=
    ((Nat.toDigits 10 num).length : Int) - (Nat.toDigits 10 den).length
  let reaches : Bool := match place with
    | .ofNat k => den * Nat.pow 10 k ≤ num
    | .negSucc k => den ≤ num * Nat.pow 10 (k + 1)
  if reaches then place + 1 else place

def unscale (num den : Nat) : Int → Nat × Nat
  | .ofNat k => (num, den * Nat.pow 10 k)
  | .negSucc k => (num * Nat.pow 10 (k + 1), den)

def readsBack (significand : Nat) (exponent unit : Int) (digits : Nat) : Bool :=
  match Binary64.ofDecimal false digits unit with
  | .finite _ m e _ => m == significand && e == exponent
  | _ => false

/-- A decimal of `width` digits next to a number that reads back as the number. -/
def ofWidth? (significand : Nat) (exponent : Int) (width : Nat) : Option Decimal :=
  let (num, den) := Binary64.scale significand exponent
  let unit := pointPlace num den - width
  let (n, d) := unscale num den unit
  ((neighbours n d).find? (readsBack significand exponent unit)).map fun digits => ⟨digits, unit⟩

def exact (significand : Nat) : Int → Decimal
  | .ofNat k => ⟨significand * Nat.pow 2 k, 0⟩
  | .negSucc k => ⟨significand * Nat.pow 5 (k + 1), -(k + 1)⟩

/-- The shortest decimal that reads back as `significand · 2 ^ exponent`. Seventeen digits always
suffice. -/
def shortest (significand : Nat) (exponent : Int) : Decimal :=
  if significand = 0 then ⟨0, 0⟩
  else
    match (List.range' 1 17).findSome? (ofWidth? significand exponent) with
    | some d => d.trim 17
    | none => exact significand exponent

def text (layout : Layout) (d : Decimal) : String :=
  let digits := toString d.digits
  let place : Int := digits.length + d.exponent
  if layout.pointAfter < place ∧ place ≤ layout.pointUpTo then
    if place ≤ 0 then "0." ++ "".pushn '0' (-place).toNat ++ digits
    else if digits.length ≤ place then
      digits ++ "".pushn '0' (place - digits.length).toNat ++ ".0"
    else
      let whole := digits.toList.take place.toNat
      let rest := digits.toList.drop place.toNat
      String.ofList (whole ++ '.' :: rest)
  else
    let power := place - 1
    let powerDigits := toString power.natAbs
    let padding := "".pushn '0' (layout.exponentWidth - powerDigits.length)
    let mantissa := match digits.toList with
      | first :: second :: rest => String.ofList (first :: '.' :: second :: rest)
      | _ => digits
    mantissa ++ "e" ++ (if power < 0 then "-" else "+") ++ padding ++ powerDigits

end Decimal

def Binary64.text (layout : Decimal.Layout) : Binary64 → String
  | .nan _ => layout.nan
  | .infinity negative => (if negative then "-" else "") ++ layout.infinity
  | .finite negative significand exponent _ =>
    (if negative then "-" else "") ++ (Decimal.shortest significand exponent).text layout

end TerseSchema
