import TerseSchema.Yaml.Fault
import TerseSchema.Yaml.Scalar.Plain
/-!
# Quoted scalars

Scalars between single quotes, where a quote is written twice, and between double quotes, where a
backslash starts an escape. Line breaks are folded as in plain scalars.
-/

namespace TerseSchema.Yaml

open TerseSchema.Text

def shortEscape? (c : Char) : Option Char :=
  match c with
  | '0' => some '\x00'
  | 'a' => some '\x07'
  | 'b' => some '\x08'
  | 't' => some '\t'
  | '\t' => some '\t'
  | 'n' => some '\n'
  | 'v' => some '\x0b'
  | 'f' => some '\x0c'
  | 'r' => some '\r'
  | 'e' => some '\x1b'
  | ' ' => some ' '
  | '"' => some '"'
  | '\\' => some '\\'
  | '/' => some '/'
  | 'N' => some '\u0085'
  | '_' => some '\u00a0'
  | 'L' => some '\u2028'
  | 'P' => some '\u2029'
  | _ => none

def escapeWidth? (c : Char) : Option Nat :=
  match c with
  | 'x' => some 2
  | 'u' => some 4
  | 'U' => some 8
  | _ => none

def escapedPoint (code : Nat) : Except Fault CodePoint :=
  match CodePoint.ofCode? code with
  | some p => .ok p
  | none => .error (.characterCode (0x7fffffff < code))

/-- The line breaks of blank lines within a quoted scalar; a separator of
documents must not come. -/
def quotedBreaks : Nat → Cursor → Except Fault (List Char × Cursor)
  | 0, c => .ok ([], c)
  | fuel + 1, c =>
    if atSeparator c.rest then .error .malformed
    else
      let c := c.skipWhile isSpace
      if c.nextIs isBreak then do
        let (first, c) := c.lineBreak
        let (more, c) ← quotedBreaks fuel c
        return (first ++ more, c)
      else .ok ([], c)

def quotedGap (c : Cursor) : Except Fault (List Char × Cursor) :=
  let (blanks, c) := c.span isSpace
  if c.atEnd then .error .malformed
  else if c.nextIs isBreak then do
    let (first, c) := c.lineBreak
    let (breaks, c) ← quotedBreaks (c.rest.length + 1) c
    return (folded first breaks, c)
  else .ok (blanks, c)

def quotedEscape (c : Cursor) : Except Fault (Text × Cursor) :=
  match c.rest with
  | _ :: x :: rest =>
    match shortEscape? x, escapeWidth? x with
    | some y, _ => .ok ([.char y], c.skip 2)
    | none, some width =>
      match hexNumber? width 0 rest with
      | some (code, _) => do
        let p ← escapedPoint code
        return ([p], c.skip (2 + width))
      | none => .error .malformed
    | none, none =>
      if isBreak x then
        let c := c.next.lineBreak.2
        (quotedBreaks (c.rest.length + 1) c).map fun r => (r.1.map .char, r.2)
      else .error .malformed
  | _ => .error .malformed

def quotedText (double : Bool) : Nat → Cursor → Except Fault (Text × Cursor)
  | 0, _ => .error .malformed
  | fuel + 1, c =>
    match c.rest with
    | [] => .error .malformed
    | x :: rest =>
      if !double && x = '\'' then
        if rest.head? = some '\'' then do
          let (more, c) ← quotedText double fuel (c.skip 2)
          return (.char '\'' :: more, c)
        else .ok ([], c.next)
      else if double && x = '"' then .ok ([], c.next)
      else if double && x = '\\' then do
        let (part, c) ← quotedEscape c
        let (more, c) ← quotedText double fuel c
        return (part ++ more, c)
      else if isSpaceOrBreak x then do
        let (part, c) ← quotedGap c
        let (more, c) ← quotedText double fuel c
        return (part.map .char ++ more, c)
      else do
        let (more, c) ← quotedText double fuel c.next
        return (.char x :: more, c)

def quotedScalar (double : Bool) (c : Cursor) : Except Fault (Scanned CodePoint) := do
  let (text, c) ← quotedText double c.rest.length c.next
  return { text, cursor := c }

end TerseSchema.Yaml
