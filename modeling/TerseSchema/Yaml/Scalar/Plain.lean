import TerseSchema.Text.Basic
import TerseSchema.Yaml.Cursor
/-!
# Plain scalars

Scalars without quotes. They end before a comment, before the sign of a key, at less
indentation, and in flow collections also before the signs of these. A single line break
within is folded into a blank.
-/

namespace TerseSchema.Yaml

structure Scanned (α : Type) where
  text : List α
  cursor : Cursor
  /-- Whether the last thing read was a line break, so that a key may follow. -/
  broke : Bool := false

def Scanned.points (s : Scanned Char) : Scanned CodePoint := { s with text := s.text.map .char }

def plainWord (inFlow : Bool) : List Char → List Char
  | [] => []
  | c :: rest =>
    if isSpaceOrBreak c then []
    else if c = ':' &&
        (atSpace rest || inFlow && rest.head?.any (isOneOf ",[]\x7b\x7d")) then []
    else if inFlow && isOneOf ",?[]\x7b\x7d" c then []
    else c :: plainWord inFlow rest

/-- Blank lines within a plain scalar: their line breaks, or nothing where a separator of
documents ends the scalar. -/
def plainBreaks : Nat → Cursor → Option (List Char) × Cursor
  | 0, c => (some [], c)
  | fuel + 1, c =>
    if c.nextIs (· = ' ') then plainBreaks fuel c.next
    else if c.nextIs isBreak then
      let (first, c) := c.lineBreak
      if atSeparator c.rest then (none, c)
      else
        let (more, c) := plainBreaks fuel c
        (more.map (first ++ ·), c)
    else (some [], c)

/-- The text that stands for one line break and the line breaks of the blank lines after it. -/
def folded (first : List Char) (breaks : List Char) : List Char :=
  (if first ≠ ['\n'] then first else if breaks.isEmpty then [' '] else []) ++ breaks

def plainGap (c : Cursor) : Scanned Char :=
  let (blanks, c) := c.span (· = ' ')
  if c.nextIs isBreak then
    let (first, c) := c.lineBreak
    if atSeparator c.rest then ⟨[], c, true⟩
    else
      match plainBreaks (c.rest.length + 1) c with
      | (none, c) => ⟨[], c, true⟩
      | (some breaks, c) => ⟨folded first breaks, c, true⟩
  else ⟨blanks, c, false⟩

/-- The words of a plain scalar and the gaps between them, where `gap` comes before the first
word and is part of the scalar only if there is one. -/
def plainWords (inFlow : Bool) (indent : Int) : Nat → List Char → Scanned Char → Scanned Char
  | 0, _, done => done
  | fuel + 1, gap, done =>
    if done.cursor.nextIs (· = '#') then done
    else
      let word := plainWord inFlow done.cursor.rest
      if word.isEmpty then done
      else
        let after := plainGap (done.cursor.skip word.length)
        let more : Scanned Char :=
          if after.text.isEmpty || after.cursor.nextIs (· = '#') ||
              (!inFlow && after.cursor.column < indent) then { after with text := [] }
          else plainWords inFlow indent fuel after.text { after with text := [] }
        { more with text := gap ++ word ++ more.text }

def plainScalar (inFlow : Bool) (blockIndent : Int) (c : Cursor) : Scanned Char :=
  plainWords inFlow (blockIndent + 1) (c.rest.length + 1) [] ⟨[], c, false⟩

end TerseSchema.Yaml
