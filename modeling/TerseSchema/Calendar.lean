/-!
# Dates and times of day

Calendar dates of the years 1 to 9999 and moments on them, with their ISO 8601 text.
-/

namespace TerseSchema

structure Date where
  year : Nat
  month : Nat
  day : Nat
deriving DecidableEq, Inhabited

structure Moment where
  date : Date
  hour : Nat := 0
  minute : Nat := 0
  second : Nat := 0
  microsecond : Nat := 0
  offset : Option Int := none
deriving DecidableEq, Inhabited

def padded (width n : Nat) : String :=
  let digits := toString n
  "".pushn '0' (width - digits.length) ++ digits

namespace Date

def isLeap (year : Nat) : Bool := year % 4 == 0 && (year % 100 != 0 || year % 400 == 0)

def daysInMonth (year : Nat) : Nat → Nat
  | 2 => if isLeap year then 29 else 28
  | 4 => 30
  | 6 => 30
  | 9 => 30
  | 11 => 30
  | _ => 31

def isValid (d : Date) : Bool :=
  1 ≤ d.year && d.year ≤ 9999 && 1 ≤ d.month && d.month ≤ 12 &&
    1 ≤ d.day && d.day ≤ daysInMonth d.year d.month

/-- The number of days up to a date, counted from the first day of the year 1. -/
def ordinal (d : Date) : Nat :=
  let past := d.year - 1
  let months := List.range' 1 (d.month - 1)
  let inYear := months.foldl (fun days month => days + daysInMonth d.year month) d.day
  past * 365 + past / 4 - past / 100 + past / 400 + inYear

def iso (d : Date) : String :=
  padded 4 d.year ++ "-" ++ padded 2 d.month ++ "-" ++ padded 2 d.day

end Date

namespace Moment

def isValid (t : Moment) : Bool :=
  t.date.isValid && t.hour < 24 && t.minute < 60 && t.second < 60 && t.microsecond < 1000000 &&
    match t.offset with
    | none => true
    | some seconds => -86400 < seconds && seconds < 86400

/-- The microseconds since the first day of the year 1, on the moment's own clock. -/
def clock (t : Moment) : Int :=
  (((t.date.ordinal * 24 + t.hour) * 60 + t.minute) * 60 + t.second) * 1000000 + t.microsecond

/-- Two moments are the same when both tell their offset and agree in universal time, or neither
does and their clocks agree. -/
def same (t u : Moment) : Bool :=
  match t.offset, u.offset with
  | none, none => t.clock == u.clock
  | some a, some b => t.clock - a * 1000000 == u.clock - b * 1000000
  | _, _ => false

def offsetText (seconds : Int) : String :=
  let n := seconds.natAbs
  (if seconds < 0 then "-" else "+") ++ padded 2 (n / 3600) ++ ":" ++ padded 2 (n / 60 % 60) ++
    (if n % 60 = 0 then "" else ":" ++ padded 2 (n % 60))

def text (separator : String) (t : Moment) : String :=
  t.date.iso ++ separator ++ padded 2 t.hour ++ ":" ++ padded 2 t.minute ++ ":" ++
    padded 2 t.second ++
    (if t.microsecond = 0 then "" else "." ++ padded 6 t.microsecond) ++
    (match t.offset with
      | none => ""
      | some seconds => offsetText seconds)

end Moment
end TerseSchema
