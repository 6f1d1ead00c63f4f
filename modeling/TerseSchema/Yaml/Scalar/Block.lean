import TerseSchema.Yaml.Fault
import TerseSchema.Yaml.Scalar.Plain
/-!
# Block scalars

Scalars that are indented lines after a sign: literal, where line breaks are kept, or folded. A
header after the sign tells the indentation and what becomes of the line breaks at the end.
-/

namespace TerseSchema.Yaml

open TerseSchema.Text

inductive Chomping where
  | strip
  | clip
  | keep
deriving DecidableEq

structure BlockHeader where
  chomping : Chomping := .clip
  indent : Option Nat := none

def chompingOf? : List Char → Option Chomping
  | '+' :: _ => some .keep
  | '-' :: _ => some .strip
  | _ => none

def indentDigit? : List Char → Except Fault (Option Nat)
  | c :: _ =>
    if isDigit c then
      if c = '0' then .error .malformed else .ok (some (c.toNat - '0'.toNat))
    else .ok none
  | [] => .ok none

def blockHeader (c : Cursor) : Except Fault (BlockHeader × Cursor) := do
  let (header, c) ←
    match chompingOf? c.rest with
    | some chomping => do
      let indent ← indentDigit? c.next.rest
      pure (({ chomping, indent } : BlockHeader), c.next.skip (if indent.isSome then 1 else 0))
    | none => do
      match ← indentDigit? c.rest with
      | none => pure ({}, c)
      | some n =>
        let chomping := chompingOf? c.next.rest
        pure ({ chomping := chomping.getD .clip, indent := some n },
          c.next.skip (if chomping.isSome then 1 else 0))
  if atBlank c.rest then return (header, c) else throw .malformed

def ignoredLine (c : Cursor) : Except Fault Cursor :=
  let c := c.skipWhile (· = ' ')
  let c := if c.nextIs (· = '#') then c.skipWhile (!isBreak ·) else c
  if atLineEnd c.rest then .ok c.lineBreak.2 else .error .malformed

/-- Blank lines at the start of a block scalar: their line breaks and their
greatest indentation. -/
def leadingBreaks : Nat → Cursor → Nat → List Char × Nat × Cursor
  | 0, c, deepest => ([], deepest, c)
  | fuel + 1, c, deepest =>
    if c.nextIs (· = ' ') then leadingBreaks fuel c.next (max deepest c.next.column)
    else if c.nextIs isBreak then
      let (first, c) := c.lineBreak
      let (more, deepest, c) := leadingBreaks fuel c deepest
      (first ++ more, deepest, c)
    else ([], deepest, c)

def skipIndent (indent : Nat) : Nat → Cursor → Cursor
  | 0, c => c
  | fuel + 1, c =>
    if c.column < indent && c.nextIs (· = ' ') then skipIndent indent fuel c.next else c

def blockBreaks (indent : Nat) : Nat → Cursor → List Char × Cursor
  | 0, c => ([], c)
  | fuel + 1, c =>
    let c := skipIndent indent (indent + 1) c
    if c.nextIs isBreak then
      let (first, c) := c.lineBreak
      let (more, c) := blockBreaks indent fuel c
      (first ++ more, c)
    else ([], c)

/-- Whether a line starts with white space, so that it is not folded. -/
def startsSpaced (c : Cursor) : Bool := c.nextIs isSpace

/-- The lines of a block scalar, after `breaks`: their text without the last line break, that
line break and the line breaks of the blank lines at the end. -/
def blockLines (isFolded : Bool) (indent : Nat) :
    Nat → Cursor → List Char → List Char × List Char × List Char × Cursor
  | 0, c, breaks => ([], [], breaks, c)
  | fuel + 1, c, breaks =>
    if c.column = indent && !c.atEnd then
      let spaced := startsSpaced c
      let (line, c) := c.span (!isBreak ·)
      let (last, c) := c.lineBreak
      let (after, c) := blockBreaks indent (c.rest.length + 1) c
      if c.column = indent && !c.atEnd then
        let joint :=
          if isFolded && last = ['\n'] && !spaced && !startsSpaced c then
            if after.isEmpty then [' '] else []
          else last
        let (more, last, final, c) := blockLines isFolded indent fuel c after
        (breaks ++ line ++ joint ++ more, last, final, c)
      else (breaks ++ line, last, after, c)
    else ([], [], breaks, c)

def blockScalar (isFolded : Bool) (blockIndent : Int) (c : Cursor) :
    Except Fault (Scanned Char) := do
  let (header, c) ← blockHeader c.next
  let c ← ignoredLine c
  let least := (max (blockIndent + 1) 1).toNat
  let fuel := c.rest.length + 1
  let (breaks, indent, c) :=
    match header.indent with
    | some n =>
      let indent := least + n - 1
      let (breaks, c) := blockBreaks indent fuel c
      (breaks, indent, c)
    | none =>
      let (breaks, deepest, c) := leadingBreaks fuel c 0
      (breaks, max least deepest, c)
  let (text, last, final, c) := blockLines isFolded indent fuel c breaks
  let ending := match header.chomping with
    | .strip => []
    | .clip => last
    | .keep => last ++ final
  return { text := text ++ ending, cursor := c }

end TerseSchema.Yaml
