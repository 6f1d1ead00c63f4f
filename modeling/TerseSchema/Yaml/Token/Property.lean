import TerseSchema.Limit
import TerseSchema.Yaml.Cursor
import TerseSchema.Yaml.Token
/-!
# Anchors, tags and directives

The tokens that say something about a node or about a document.
-/

namespace TerseSchema.Yaml

open TerseSchema.Text

def anchorName (c : Cursor) : Except Fault (String × Cursor) :=
  let (name, c) := c.next.span isNameChar
  let ends := atSpace c.rest || c.nextIs (isOneOf "?:,]\x7d%@\x60")
  if name.isEmpty || !ends then .error .malformed else .ok (String.ofList name, c)

/-! ## Tags -/

def isUriChar (c : Char) : Bool := isNameChar c || isOneOf ";/?:@&=+$,.!~*'()[]" c

def uriEscapes : Nat → List Char → Except Fault (List UInt8 × Nat)
  | 0, _ => .ok ([], 0)
  | fuel + 1, '%' :: rest =>
    match hexNumber? 2 0 rest with
    | some (n, rest) => do
      let (octets, count) ← uriEscapes fuel rest
      return (UInt8.ofNat n :: octets, count + 3)
    | none => .error .malformed
  | _ + 1, _ => .ok ([], 0)

def uriChars : Nat → Cursor → Except Fault (List Char × Cursor)
  | 0, c => .ok ([], c)
  | fuel + 1, c =>
    let (plain, c) := c.span isUriChar
    if c.nextIs (· = '%') then do
      let (octets, count) ← uriEscapes c.rest.length c.rest
      match String.fromUTF8? ⟨octets.toArray⟩ with
      | some escaped =>
        let (more, c) ← uriChars fuel (c.skip count)
        return (plain ++ escaped.toList ++ more, c)
      | none => .error .malformed
    else .ok (plain, c)

def uri (c : Cursor) : Except Fault (String × Cursor) := do
  let (text, after) ← uriChars (c.rest.length + 1) c
  if after.index = c.index then .error .malformed else return (String.ofList text, after)

/-- The handle of a tag: an exclamation mark alone, or a name between two. -/
def tagHandle (c : Cursor) : Except Fault (String × Cursor) :=
  if !c.nextIs (· = '!') then .error .malformed
  else
    let (name, after) := c.next.span isNameChar
    if after.nextIs (· = '!') then .ok ("!" ++ String.ofList name ++ "!", after.next)
    else if c.next.nextIs (· = ' ') then .ok ("!", c.next)
    else .error .malformed

def hasSecondMark (s : List Char) : Bool :=
  (s.takeWhile fun c => !(c = ' ' || isBreak c)).contains '!'

def tagToken (c : Cursor) : Except Fault (Token × Cursor) := do
  let (token, c) ←
    if c.next.nextIs (· = '<') then do
      let (suffix, c) ← uri (c.skip 2)
      if c.nextIs (· = '>') then pure (Token.tag none suffix, c.next) else throw .malformed
    else if atSpace c.next.rest then pure (Token.tag none "!", c.next)
    else if hasSecondMark c.next.rest then do
      let (handle, c) ← tagHandle c
      let (suffix, c) ← uri c
      pure (Token.tag (some handle) suffix, c)
    else do
      let (suffix, c) ← uri c.next
      pure (Token.tag (some "!") suffix, c)
  if atBlank c.rest then return (token, c) else throw .malformed

/-! ## Directives -/

def versionNumber (c : Cursor) : Except Fault (Nat × Cursor) :=
  let (digits, c) := c.span isDigit
  if digits.isEmpty then .error .malformed
  else if mostDigits < digits.length then .error .numeral
  else .ok (ofDigits digits, c)

/-- The version of the language, of which only the first number counts. -/
def versionDirective (c : Cursor) : Except Fault (Directive × Cursor) := do
  let (major, c) ← versionNumber (c.skipWhile (· = ' '))
  if !c.nextIs (· = '.') then throw .malformed
  let (_, c) ← versionNumber c.next
  if atBlank c.rest then return (.version major, c) else throw .malformed

def handleDirective (c : Cursor) : Except Fault (Directive × Cursor) := do
  let (handle, c) ← tagHandle (c.skipWhile (· = ' '))
  if !c.nextIs (· = ' ') then throw .malformed
  let (address, c) ← uri (c.skipWhile (· = ' '))
  if atBlank c.rest then return (.handle handle address, c) else throw .malformed

def directive (c : Cursor) : Except Fault (Directive × Cursor) := do
  let (name, c) := c.next.span isNameChar
  if name.isEmpty || !atBlank c.rest then throw .malformed
  let (directive, c) ←
    if name = "YAML".toList then versionDirective c
    else if name = "TAG".toList then handleDirective c
    else pure (.other, c.skipWhile (!isBreak ·))
  let c := c.skipWhile (· = ' ')
  let c := if c.nextIs (· = '#') then c.skipWhile (!isBreak ·) else c
  if atLineEnd c.rest then return (directive, c.lineBreak.2) else throw .malformed

end TerseSchema.Yaml
