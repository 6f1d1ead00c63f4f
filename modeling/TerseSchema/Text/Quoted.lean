import TerseSchema.Text.Basic
import TerseSchema.Text.Printable
/-!
# Quoted text

The literal form of texts and byte strings: between single quotes, or between double quotes where
the text holds a single quote and no double one. What is not printable is escaped.
-/

namespace TerseSchema.Text

def hex : Nat → Nat → List Char
  | 0, _ => []
  | width + 1, n => hex width (n / 16) ++ [Nat.digitChar (n % 16)]

/-- The quote to be written around a text. -/
def quoteFor (s : Text) : Char :=
  if s.contains (.char '\'') && !s.contains (.char '"') then '"' else '\''

/-- The shortest numeric escape that holds a code point. -/
def escapeCode (n : Nat) : List Char :=
  if n < 0x100 then '\\' :: 'x' :: hex 2 n
  else if n < 0x10000 then '\\' :: 'u' :: hex 4 n
  else '\\' :: 'U' :: hex 8 n

def escapeChar (quote : Char) (plain : Char → Bool) (c : Char) : List Char :=
  if c = quote ∨ c = '\\' then ['\\', c]
  else if c = '\n' then ['\\', 'n']
  else if c = '\r' then ['\\', 'r']
  else if c = '\t' then ['\\', 't']
  else if plain c then [c]
  else escapeCode c.toNat

def escapePoint (quote : Char) (plain : Char → Bool) : CodePoint → List Char
  | .char c => escapeChar quote plain c
  | .surrogate offset => escapeCode (CodePoint.surrogate offset).code

def quotedWith (plain : Char → Bool) (s : Text) : Text :=
  let quote := quoteFor s
  (quote :: s.flatMap (escapePoint quote plain) ++ [quote]).map .char

def quoted (s : Text) : Text := quotedWith isPrintable s

/-- A text as it is sent to where surrogates cannot be sent: these are escaped. -/
def printed (s : Text) : String :=
  String.ofList (s.flatMap fun
    | .char c => [c]
    | .surrogate offset => escapeCode (CodePoint.surrogate offset).code)

def quotedBytes (octets : List UInt8) : Text :=
  .char 'b' ::
    quotedWith (fun c => 0x20 ≤ c.toNat && c.toNat < 0x7f)
      (octets.map fun b => .char (Char.ofNat b.toNat))

end TerseSchema.Text
