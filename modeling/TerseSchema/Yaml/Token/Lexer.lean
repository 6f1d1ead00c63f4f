import TerseSchema.Yaml.Scalar.Block
import TerseSchema.Yaml.Scalar.Quoted
import TerseSchema.Yaml.Token.Property
/-!
# Reading tokens

Each step reads the token at a place. A node on a single line may turn out to be a key when the
sign of its value comes: until then it is a candidate, at most one for each depth of flow
collections, and the token of the key is put before it afterwards.
-/

namespace TerseSchema.Yaml

/-- A node that may turn out to be a key. -/
structure Candidate where
  /-- The depth of flow collections around the node. -/
  depth : Nat
  /-- The number of tokens before it. -/
  before : Nat
  /-- Whether the text has no meaning unless it is a key. -/
  required : Bool
  index : Nat
  line : Nat
  column : Nat

structure LexerState where
  cursor : Cursor
  /-- The depth of flow collections. -/
  depth : Nat := 0
  /-- The indentation of the block, below zero outside of all blocks. -/
  indent : Int := -1
  /-- The indentations of the blocks around it. -/
  outer : List Int := []
  keyAllowed : Bool := true
  candidates : List Candidate := []
  /-- The tokens read, the last one first. -/
  tokens : List Token := []
  /-- The number of tokens read. -/
  count : Nat := 0
  /-- Whether the end of the text is among them. -/
  ended : Bool := false

namespace LexerState

def insert (s : LexerState) (before : Nat) (token : Token) : LexerState :=
  let later := s.count - before
  { s with
    tokens := s.tokens.take later ++ token :: s.tokens.drop later
    count := s.count + 1 }

def push (s : LexerState) (token : Token) : LexerState :=
  { s with tokens := token :: s.tokens, count := s.count + 1 }

def emit (s : LexerState) (token : Token) (cursor : Cursor) : LexerState :=
  { s.push token with cursor }

/-! ## Candidates for keys -/

/-- Drops the candidates that can be keys no longer: those of other lines
and those too far back. -/
def dropStale (s : LexerState) : Except Fault LexerState :=
  let isStale := fun k : Candidate =>
    k.line ≠ s.cursor.line || 1024 < s.cursor.index - k.index
  if s.candidates.any fun k => isStale k && k.required then .error .malformed
  else .ok { s with candidates := s.candidates.filter fun k => !isStale k }

def dropCandidate (s : LexerState) : Except Fault LexerState :=
  if s.candidates.any fun k => k.depth = s.depth && k.required then .error .malformed
  else .ok { s with candidates := s.candidates.filter fun k => k.depth ≠ s.depth }

def markCandidate (s : LexerState) : Except Fault LexerState :=
  if s.keyAllowed then do
    let required := s.depth = 0 && s.indent = s.cursor.column
    let s ← s.dropCandidate
    let candidate : Candidate := {
      depth := s.depth, before := s.count, required
      index := s.cursor.index, line := s.cursor.line, column := s.cursor.column }
    return { s with candidates := candidate :: s.candidates }
  else .ok s

/-! ## Blocks -/

def endBlocks (column : Int) : List Int → LexerState → LexerState
  | outer, s =>
    if s.indent ≤ column then { s with outer }
    else
      match outer with
      | [] => { s.push .blockEnd with indent := -1, outer := [] }
      | indent :: outer => endBlocks column outer { s.push .blockEnd with indent }

def unwind (s : LexerState) (column : Int) : LexerState :=
  if s.depth = 0 then endBlocks column s.outer s else s

def startsBlock (s : LexerState) (column : Nat) : Bool := s.indent < column

def enterBlock (s : LexerState) (column : Nat) : LexerState :=
  { s with indent := column, outer := s.indent :: s.outer }

/-! ## Between tokens -/

/-- Skips blanks, comments and line breaks. After a line break a key may stand, unless in a flow
collection. -/
def skipToToken : Nat → LexerState → LexerState
  | 0, s => s
  | fuel + 1, s =>
    let c := s.cursor.skipWhile (· = ' ')
    let c := if c.nextIs (· = '#') then c.skipWhile (!isBreak ·) else c
    if c.nextIs isBreak then
      skipToToken fuel
        { s with cursor := c.lineBreak.2, keyAllowed := s.keyAllowed || s.depth = 0 }
    else { s with cursor := c }

/-! ## Tokens -/

def documentMark (s : LexerState) (token : Token) (after : Cursor) :
    Except Fault LexerState := do
  let s ← (s.unwind (-1)).dropCandidate
  return { s with keyAllowed := false }.emit token after

def openFlow (s : LexerState) (token : Token) : Except Fault LexerState := do
  let s ← s.markCandidate
  return { s with depth := s.depth + 1, keyAllowed := true }.emit token s.cursor.next

def closeFlow (s : LexerState) (token : Token) : Except Fault LexerState := do
  let s ← s.dropCandidate
  return { s with depth := s.depth - 1, keyAllowed := false }.emit token s.cursor.next

def flowEntry (s : LexerState) : Except Fault LexerState := do
  let s ← s.dropCandidate
  return { s with keyAllowed := true }.emit .flowEntry s.cursor.next

/-- Starts a block at the present column, where a key is allowed. -/
def openBlock (s : LexerState) (token : Token) : Except Fault LexerState :=
  if s.depth ≠ 0 then .ok s
  else if !s.keyAllowed then .error .malformed
  else if s.startsBlock s.cursor.column then
    .ok ((s.enterBlock s.cursor.column).emit token s.cursor)
  else .ok s

def blockEntry (s : LexerState) : Except Fault LexerState := do
  let s ← s.openBlock .blockSequenceStart
  let s ← s.dropCandidate
  return { s with keyAllowed := true }.emit .blockEntry s.cursor.next

def explicitKey (s : LexerState) : Except Fault LexerState := do
  let s ← s.openBlock .blockMappingStart
  let s ← s.dropCandidate
  return { s with keyAllowed := s.depth = 0 }.emit .key s.cursor.next

/-- The sign of a value: the candidate before it is a key, if there is one. -/
def valueSign (s : LexerState) : Except Fault LexerState :=
  match s.candidates.find? fun k => k.depth = s.depth with
  | some k =>
    let s := { s with candidates := s.candidates.filter fun k => k.depth ≠ s.depth }
    let s := s.insert k.before .key
    let s :=
      if s.depth = 0 && s.startsBlock k.column then
        (s.enterBlock k.column).insert k.before .blockMappingStart
      else s
    .ok ({ s with keyAllowed := false }.emit .value s.cursor.next)
  | none => do
    let s ← s.openBlock .blockMappingStart
    let s ← s.dropCandidate
    return { s with keyAllowed := s.depth = 0 }.emit .value s.cursor.next

def nodeToken (s : LexerState) (read : Cursor → Except Fault (Token × Cursor)) :
    Except Fault LexerState := do
  let s ← s.markCandidate
  let (token, after) ← read s.cursor
  return { s with keyAllowed := false }.emit token after

def scalarToken (s : LexerState) (isPlain : Bool)
    (read : Cursor → Except Fault (Scanned CodePoint)) : Except Fault LexerState := do
  let s ← s.markCandidate
  let scalar ← read s.cursor
  let token := Token.scalar scalar.text isPlain
  return { s with keyAllowed := scalar.broke }.emit token scalar.cursor

def blockScalarToken (s : LexerState) (isFolded : Bool) : Except Fault LexerState := do
  let s ← s.dropCandidate
  let scalar ← blockScalar isFolded s.indent s.cursor
  let token := Token.scalar (scalar.text.map .char) false
  return { s with keyAllowed := true }.emit token scalar.cursor

def startsPlain (s : LexerState) : Bool :=
  match s.cursor.rest with
  | [] => false
  | c :: rest =>
    !(isSpaceOrBreak c || isOneOf "-?:,[]\x7b\x7d#&*!|>'\"%@\x60" c) ||
      (!atSpace rest && (c = '-' || (s.depth = 0 && (c = '?' || c = ':'))))

def token (s : LexerState) : Except Fault LexerState :=
  let c := s.cursor
  let inFlow := s.depth ≠ 0
  let separator := c.column = 0 && atSeparator c.rest
  let signs := inFlow || atSpace (c.rest.drop 1)
  match c.rest with
  | [] => .ok s
  | x :: _ =>
    if x = '%' && c.column = 0 then do
      let (d, after) ← directive c
      s.documentMark (.directive d) after
    else if x = '-' && separator then s.documentMark .documentStart (c.skip 3)
    else if x = '.' && separator then s.documentMark .documentEnd (c.skip 3)
    else if x = '[' then s.openFlow .flowSequenceStart
    else if x = '\x7b' then s.openFlow .flowMappingStart
    else if x = ']' then s.closeFlow .flowSequenceEnd
    else if x = '\x7d' then s.closeFlow .flowMappingEnd
    else if x = ',' then s.flowEntry
    else if x = '-' && atSpace (c.rest.drop 1) then s.blockEntry
    else if x = '?' && signs then s.explicitKey
    else if x = ':' && signs then s.valueSign
    else if x = '*' then
      s.nodeToken fun c => (anchorName c).map fun r => (.alias r.1, r.2)
    else if x = '&' then
      s.nodeToken fun c => (anchorName c).map fun r => (.anchor r.1, r.2)
    else if x = '!' then s.nodeToken tagToken
    else if x = '|' && !inFlow then s.blockScalarToken false
    else if x = '>' && !inFlow then s.blockScalarToken true
    else if x = '\'' then s.scalarToken false (quotedScalar false)
    else if x = '"' then s.scalarToken false (quotedScalar true)
    else if s.startsPlain then
      s.scalarToken true fun c => .ok (plainScalar inFlow s.indent c).points
    else .error .malformed

def finish (s : LexerState) : Except Fault LexerState := do
  let s ← (s.unwind (-1)).dropCandidate
  return { s.emit .streamEnd s.cursor with ended := true }

def advance (s : LexerState) : Except Fault LexerState := do
  let s ← (skipToToken (s.cursor.rest.length + 1) s).dropStale
  let s := s.unwind s.cursor.column
  if s.cursor.atEnd then s.finish else (← s.token).dropStale

/-- The tokens that are known without reading on: those before the first candidate, which may get
the token of a key before it. -/
def settled (s : LexerState) : List Token :=
  let known := s.candidates.foldl (fun n k => min n k.before) s.count
  (s.tokens.drop (s.count - known)).reverse

/-- Reads all tokens, up to the end of the text or the first fault. The fault stands in the place
of the first token that cannot be known without coming upon it. -/
def run : Nat → LexerState → List Token
  | 0, s => s.settled ++ [.broken .malformed]
  | fuel + 1, s =>
    match s.advance with
    | .error fault => s.settled ++ [.broken fault]
    | .ok next => if next.ended then next.tokens.reverse else run fuel next

end LexerState

def Cursor.start (text : List Char) : Cursor :=
  let c : Cursor := { rest := text }
  if c.nextIs (· = '\ufeff') then c.next else c

def Token.ofText (text : List Char) : List Token :=
  LexerState.run (text.length + 1) { cursor := .start text }

end TerseSchema.Yaml
