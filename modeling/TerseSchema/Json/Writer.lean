import TerseSchema.Limit
import TerseSchema.Number.Shortest
import TerseSchema.Text.Quoted
import TerseSchema.Value.Kind
/-!
# JSON text

Writing values as JSON. Lists and tuples are arrays; keys that are null, truth values or numbers
are written as the text of the value. Everything else has no JSON form, and the first such part,
in the order of the text, is the fault.
-/

namespace TerseSchema.Json

open TerseSchema

inductive Fault where
  | value (kind : Kind)
  | key (typeName : String)
  /-- A container lies inside of itself. -/
  | circular
  /-- A limit of the text itself. -/
  | limit (l : Limit)
deriving DecidableEq

def Fault.message : Fault → String
  | .value kind => "Object of type " ++ kind.name ++ " is not JSON serializable"
  | .key typeName => "keys must be str, int, float, bool or None, not " ++ typeName
  | .circular => "Circular reference detected"
  | .limit l => l.message

/-- The room for the blanks of a line where none is told. -/
def usualRoom : Nat := Nat.pow 2 36

/-- How JSON text is laid out: on one line or indented, and with escapes for all that is not
ASCII or only where JSON needs them. -/
structure Style where
  /-- Below zero there are lines without indentation. -/
  indent : Option Int := none
  ascii : Bool := true
  /-- The most blanks at the start of a line that memory holds. -/
  room : Nat := usualRoom

/-- Numbers in JSON have their shortest digits, as in messages, but their own names for the
ends of the number line. -/
def number : Decimal.Layout := ⟨-4, 16, 2, "NaN", "Infinity"⟩

def unitEscape (n : Nat) : List Char := '\\' :: 'u' :: Text.hex 4 n

/-- The escape of a code point: beyond the sixteen-bit range a pair of surrogates. -/
def codeEscape (n : Nat) : List Char :=
  if n < 0x10000 then unitEscape n
  else
    unitEscape (0xd800 + (n - 0x10000) / 0x400) ++ unitEscape (0xdc00 + (n - 0x10000) % 0x400)

def charEscape? (ascii : Bool) (c : Char) : Option (List Char) :=
  if c = '"' then some ['\\', '"']
  else if c = '\\' then some ['\\', '\\']
  else if c = '\n' then some ['\\', 'n']
  else if c = '\r' then some ['\\', 'r']
  else if c = '\t' then some ['\\', 't']
  else if c.toNat = 8 then some ['\\', 'b']
  else if c.toNat = 12 then some ['\\', 'f']
  else if c.toNat < 0x20 then some (unitEscape c.toNat)
  else if ascii && 0x7f ≤ c.toNat then some (codeEscape c.toNat)
  else none

def escapePoint (ascii : Bool) (p : CodePoint) : Text :=
  let escape? := match p with
    | .char c => charEscape? ascii c
    | .surrogate _ => if ascii then some (unitEscape p.code) else none
  match escape? with
  | some escape => escape.map .char
  | none => [p]

def string (ascii : Bool) (s : Text) : Text := "\"" ++ s.flatMap (escapePoint ascii) ++ "\""

def integer (n : Int) : Except Fault Text :=
  if isWritable n then .ok (toString n) else .error (.limit .longNumeral)

def keyText : Value → Except Fault Text
  | .text s => .ok s
  | .null => .ok "null"
  | .bool b => .ok (if b then "true" else "false")
  | .int n => integer n
  | .float x => .ok (x.text number)
  | .tuple _ => .error (.key "tuple")
  | .list _ => .error (.key "list")
  | .map _ => .error (.key "dict")
  | v => .error (.key v.kind.name)

def lineBreak (indent : Int) (depth : Nat) : Text :=
  .char '\n' :: List.replicate (indent.toNat * depth) (.char ' ')

def enclose (style : Style) (depth : Nat) (opening closing : Text) (parts : List Text) : Text :=
  if parts.isEmpty then opening ++ closing
  else
    match style.indent with
    | none => opening ++ Text.join ", " parts ++ closing
    | some indent =>
      let inner := lineBreak indent (depth + 1)
      opening ++ inner ++ Text.join ("," ++ inner) parts ++ lineBreak indent depth ++ closing

mutual

/-- The text of a value that stands at the given depth, inside of the knots
with the given labels. -/
def write (style : Style) (around : List Nat) (depth : Nat) : Value → Except Fault Text
  | .null => .ok "null"
  | .bool b => .ok (if b then "true" else "false")
  | .int n => integer n
  | .float x => .ok (x.text number)
  | .text s => .ok (string style.ascii s)
  | .list items => do
    let parts ← writeItems style around (depth + 1) items
    return enclose style depth "[" "]" parts
  | .tuple items => do
    let parts ← writeItems style around (depth + 1) items
    return enclose style depth "[" "]" parts
  | .map entries => do
    let parts ← writeEntries style around (depth + 1) entries
    return enclose style depth "\x7b" "\x7d" parts
  | .knot label container =>
    if around.contains label then .error .circular
    else write style (label :: around) depth container
  | .cut _ _ => .error .circular
  | v => .error (.value v.kind)
termination_by structural v => v

def writeItems (style : Style) (around : List Nat) (depth : Nat) :
    List Value → Except Fault (List Text)
  | [] => .ok []
  | v :: rest => do
    let text ← write style around depth v
    let texts ← writeItems style around depth rest
    return text :: texts
termination_by structural vs => vs

def writeEntries (style : Style) (around : List Nat) (depth : Nat) :
    List (Value × Value) → Except Fault (List Text)
  | [] => .ok []
  | (k, v) :: rest => do
    let key ← keyText k
    let text ← write style around depth v
    let texts ← writeEntries style around depth rest
    return (string style.ascii key ++ ": " ++ text) :: texts
termination_by structural es => es

end

mutual

/-- How deep the lines of a value are indented. Containers without parts have
no lines of their own. -/
def depth : Value → Nat
  | .list items => itemsDepth items
  | .tuple items => itemsDepth items
  | .map entries => entriesDepth entries
  | .knot _ container => depth container
  | _ => 0
termination_by structural v => v

def itemsDepth : List Value → Nat
  | [] => 0
  | v :: rest => max (depth v + 1) (itemsDepth rest)
termination_by structural vs => vs

def entriesDepth : List (Value × Value) → Nat
  | [] => 0
  | (_, v) :: rest => max (depth v + 1) (entriesDepth rest)
termination_by structural es => es

end

def lengthRange : Nat := Nat.pow 2 63

/-- The blanks at the start of the deepest line. Those of one level are made
even where there is none. -/
def widestIndent (indent : Int) (v : Value) : Nat := indent.toNat * max 1 (depth v)

def indentLimit? (style : Style) (v : Value) : Option Limit :=
  match style.indent with
  | none => none
  | some indent =>
    if lengthRange ≤ indent || indent < -lengthRange then some .wideIndent
    else if style.room < widestIndent indent v then some .memory
    else none

/-- The JSON text of a value. A text is not indented, so no indentation is too wide for it. -/
def text (style : Style) (v : Value) : Except Fault Text :=
  match v, indentLimit? style v with
  | .text s, _ => .ok (string style.ascii s)
  | _, some l => .error (.limit l)
  | v, none => write style [] 0 v

end TerseSchema.Json
