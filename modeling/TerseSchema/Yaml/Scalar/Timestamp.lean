import TerseSchema.Calendar
import TerseSchema.Text.Basic
import TerseSchema.Yaml.Cursor
import TerseSchema.Yaml.Fault
/-!
# Dates and times

The dates and moments that scalars tagged as timestamps denote.
-/

namespace TerseSchema.Yaml

open TerseSchema.Text

inductive Timestamp where
  | date (d : Date)
  | moment (t : Moment)

def digitsBetween? (least most : Nat) (s : List Char) : Option (Nat × List Char) :=
  let digits := (s.take most).takeWhile isDigit
  if digits.length < least then none else some (ofDigits digits, s.drop digits.length)

def after? (c : Char) : List Char → Option (List Char)
  | [] => none
  | x :: rest => if x = c then some rest else none

def dateText? (s : List Char) : Option (Date × List Char) := do
  let (year, s) ← digitsBetween? 4 4 s
  let (month, s) ← digitsBetween? 1 2 (← after? '-' s)
  let (day, s) ← digitsBetween? 1 2 (← after? '-' s)
  return (⟨year, month, day⟩, s)

def afterDate? : List Char → Option (List Char)
  | [] => none
  | c :: rest =>
    if c = 'T' || c = 't' then some rest
    else if isSpace c then some (rest.dropWhile isSpace)
    else none

def microseconds (places : List Char) : Nat :=
  ofDigits (places.take 6 ++ List.replicate (6 - places.length) '0')

/-- The distance from universal time in seconds, after white space; none if nothing is left. -/
def zoneText? (s : List Char) : Option (Option Int) :=
  if s.isEmpty then some none
  else
    match s.dropWhile isSpace with
    | ['Z'] => some (some 0)
    | sign :: rest =>
      if sign = '-' || sign = '+' then do
        let (hours, rest) ← digitsBetween? 1 2 rest
        let (minutes, rest) ← match rest with
          | ':' :: rest => digitsBetween? 2 2 rest
          | _ => some (0, rest)
        if rest.isEmpty then
          let seconds : Int := hours * 3600 + minutes * 60
          some (some (if sign = '-' then -seconds else seconds))
        else none
      else none
    | [] => none

def timeText? (date : Date) (s : List Char) : Option Moment := do
  let (hour, s) ← digitsBetween? 1 2 s
  let (minute, s) ← digitsBetween? 2 2 (← after? ':' s)
  let (second, s) ← digitsBetween? 2 2 (← after? ':' s)
  let (places, s) := match s with
    | '.' :: s => (s.takeWhile isDigit, s.dropWhile isDigit)
    | _ => ([], s)
  let offset ← zoneText? s
  return { date, hour, minute, second, microsecond := microseconds places, offset }

def timestampText? (s : List Char) : Option Timestamp := do
  let (date, rest) ← dateText? s
  if rest.isEmpty then return .date date
  let t ← timeText? date (← afterDate? rest)
  return .moment t

/-- The date or moment of a scalar tagged as one. A line feed at the end does not count. -/
def taggedTimestamp (text : Text) : Except Fault Timestamp :=
  let line : Text := if text.getLast? = some (.char '\n') then text.dropLast else text
  match line.chars?.bind timestampText? with
  | none => .error .momentForm
  | some (.date d) => if d.isValid then .ok (.date d) else .error .calendar
  | some (.moment t) => if t.isValid then .ok (.moment t) else .error .calendar

end TerseSchema.Yaml
