import TerseSchema.Terminal.Action
import TerseSchema.Terminal.Pictures
import TerseSchema.Terminal.Style
import TerseSchema.Terminal.Width
/-!
# Markup

Texts with tags in brackets that give them a style, as in `[red]text[/red]`. On a terminal
without colours only the text remains. A backslash before a tag makes it part of the text.
-/

namespace TerseSchema.Terminal

open TerseSchema.Text

inductive MarkupError where
  /-- A closing tag that closes nothing. -/
  | unmatchedTag (name : Text)
  /-- A tag whose action cannot be read. -/
  | action
  /-- A tag for a color made of parts, one of which is no numeral. -/
  | color
deriving DecidableEq

def startsTag (p : CodePoint) : Bool :=
  p.any fun c => ('a' ≤ c && c ≤ 'z') || c = '#' || c = '/' || c = '@'

/-- The text up to a closing bracket, and the text after it, with no opening bracket before. -/
def tagEnd? : Text → Option (Text × Text)
  | [] => none
  | p :: rest =>
    if p = .char ']' then some ([], rest)
    else if p = .char '[' then none
    else (tagEnd? rest).map fun (name, after) => (p :: name, after)

def tagAfter? : Text → Option (Text × Text)
  | [] => none
  | p :: rest =>
    if startsTag p then (tagEnd? rest).map fun (name, after) => (p :: name, after) else none

/-! ## Escaping -/

def backslashes (count : Nat) : Text := List.replicate count (.char '\\')

/-- A text in which no tag counts as such: the backslashes before each are doubled and one is
added. A single backslash at the end is doubled too. -/
def escape (s : Text) : Text :=
  let escaped := go 0 s
  match s.reverse with
  | .char '\\' :: before =>
    if before.head? = some (.char '\\') then escaped else escaped ++ backslashes 1
  | _ => escaped
where
  /-- The text after some backslashes. -/
  go (count : Nat) : Text → Text
    | [] => backslashes count
    | .char '\\' :: rest => go (count + 1) rest
    | .char '[' :: rest =>
      let count := if (tagAfter? rest).isSome then 2 * count + 1 else count
      backslashes count ++ .char '[' :: go 0 rest
    | p :: rest => backslashes count ++ p :: go 0 rest

/-! ## Tags -/

structure Tag where
  name : Text
  parameters : Text := []

def Tag.ofText (s : Text) : Tag :=
  let (name, parameters) := splitAtFirst (.char '=') s
  { name, parameters := parameters.getD [] }

def tagName (name : Text) : Except MarkupError Text :=
  match styleName name with
  | .ok name => .ok name
  | .error _ => .error .color

def takeTag? (name : Text) : List Tag → Option (Tag × List Tag)
  | [] => none
  | tag :: rest =>
    if name.isEmpty || tag.name = name then some (tag, rest)
    else (takeTag? name rest).map fun (taken, others) => (taken, tag :: others)

/-- The open tags after a closing one, the last one first. The action of the tag that is closed
must be one that can be read. -/
def closeTag (name : Text) (opened : List Tag) : Except MarkupError (List Tag) := do
  let name := strip name
  let name ← if name.isEmpty then pure name else tagName name
  match takeTag? name opened with
  | none => throw (.unmatchedTag name)
  | some (tag, others) =>
    if tag.name.head? = some (.char '@') && !tag.parameters.isEmpty &&
        !isAction tag.parameters then
      throw .action
    else return others

/-! ## Rendering -/

inductive Piece where
  | text (s : Text)
  | tag (content : Text)

/-- The parts of marked-up text. The backslashes before a tag stand for half as many, and one
that is left over makes the tag part of the text. -/
def pieces : Nat → Text → Text → List Piece
  | 0, before, s => [.text (before.reverse ++ s)]
  | _ + 1, before, [] => [.text before.reverse]
  | fuel + 1, before, p :: rest =>
    if p ≠ .char '[' then pieces fuel (p :: before) rest
    else
      match tagAfter? rest with
      | none => pieces fuel (p :: before) rest
      | some (content, after) =>
        let count := (before.takeWhile (· = .char '\\')).length
        let text := (before.drop count).reverse
        let kept := Piece.text (backslashes (count / 2))
        let tag :=
          if count % 2 = 1 then Piece.text (.char '[' :: content ++ [.char ']'])
            else Piece.tag content
        .text text :: kept :: tag :: pieces fuel [] after

def dropBracketEscapes : Text → Text
  | .char '\\' :: .char '[' :: rest => .char '[' :: dropBracketEscapes rest
  | p :: rest => p :: dropBracketEscapes rest
  | [] => []

def piecesText (opened : List Tag) : List Piece → Except MarkupError Text
  | [] => .ok []
  | .text s :: rest => do
    let more ← piecesText opened rest
    return withPictures (dropBracketEscapes s) ++ more
  | .tag content :: rest => do
    let tag := Tag.ofText content
    match tag.name with
    | .char '/' :: name => piecesText (← closeTag name opened) rest
    | name => piecesText ({ tag with name := ← tagName name } :: opened) rest

def isStripped (p : CodePoint) : Bool := [7, 8, 11, 12, 13].contains p.code

/-- The parts of a line between tabs, of which each ends at a column that is a multiple of
`size`, where `measure` tells the columns of a text. -/
def spreadParts (size : Nat) (measure : Text → Nat) (column : Nat) : List Text → Text
  | [] => []
  | [part] => part
  | part :: rest =>
    let column := column + measure (part ++ " ")
    let spare := (size - column % size) % size
    part ++ blanks (1 + spare) ++ spreadParts size measure (column + spare) rest

def expandTabs (size : Nat) (measure : Text → Nat) (s : Text) : Text :=
  let expandLine := fun line => spreadParts size measure 0 (splitOn (.char '\t') line)
  Text.join "\n" ((splitOn (.char '\n') s).map fun line =>
    Text.join "\r" ((splitOn (.char '\r') line).map expandLine))

def plainText (markup : Text) : Except MarkupError Text := do
  let text ← piecesText [] (pieces (markup.length + 1) [] markup)
  return text.filter (!isStripped ·)

def tabSize : Nat := 8

def render (markup : Text) : Except MarkupError Text :=
  (plainText markup).map (expandTabs tabSize width)

end TerseSchema.Terminal
