import TerseSchema.Limit
import TerseSchema.Text.Blank
import TerseSchema.Text.Digit
import TerseSchema.Text.Split
import TerseSchema.Text.Word
/-!
# Actions of tags

A tag whose name starts with an at sign carries an action: the name of a handler and its
arguments in parentheses, or a literal alone. The action itself has no effect on a text; here
is told which ones can be read. Literals are numbers, texts, octets, the words for truth values
and for nothing, an ellipsis, and tuples, sets and maps of literals. Brackets cannot stand in
tags, so there are no lists.
-/

namespace TerseSchema.Terminal

open TerseSchema.Text

/-- What counts of a literal when it stands in a larger one. -/
inductive Literal where
  | real
  | imaginary
  /-- A real number with a sign. -/
  | signed
  /-- Any other, which can be a member of sets and a key of maps if `isKey`. -/
  | other (isKey : Bool)
deriving DecidableEq

def Literal.isKey : Literal → Bool
  | .other isKey => isKey
  | _ => true

namespace Literal

abbrev Reading := Option (Literal × List Char)

/-! ## Blanks and words -/

/-- The text after blanks and comments. Within parentheses line breaks are blanks, and elsewhere
only after a backslash. -/
def skipBlanks (inside : Bool) : Nat → List Char → List Char
  | 0, s => s
  | fuel + 1, s =>
    match s with
    | '\\' :: '\n' :: rest => skipBlanks inside fuel rest
    | '#' :: rest => skipBlanks inside fuel (rest.dropWhile (· ≠ '\n'))
    | c :: rest =>
      if c = ' ' || c = '\t' || c = '\x0c' || (inside && c = '\n') then
        skipBlanks inside fuel rest
      else s
    | [] => []

def skip (inside : Bool) (s : List Char) : List Char := skipBlanks inside (s.length + 1) s

def words : List (List Char) := ["True".toList, "False".toList, "None".toList]

/-! ## Numbers -/

def isPlace (base : Nat) (c : Char) : Bool := (hexValue? c).any (· < base)

def digits (base : Nat) : List Char → List Char × List Char
  | [] => ([], [])
  | [c] => if isPlace base c then ([c], []) else ([], [c])
  | c :: d :: rest =>
    if isPlace base c then
      let (more, after) := digits base (d :: rest)
      (c :: more, after)
    else if c = '_' && isPlace base d then digits base (d :: rest)
    else ([], c :: d :: rest)

def plainDigits (s : List Char) : List Char × List Char :=
  if s.head? = some '_' then ([], s) else digits 10 s

def afterExponent? (s : List Char) : Option (List Char) :=
  match s with
  | e :: rest =>
    if e = 'e' || e = 'E' then
      let unsigned := match rest with
        | '+' :: r => r
        | '-' :: r => r
        | r => r
      match plainDigits unsigned with
      | ([], _) => none
      | (_, after) => some after
    else none
  | [] => none

/-- A number may be imaginary, and must not run into a word. -/
def numberEnd (number : Literal) (s : List Char) : Reading :=
  let (number, rest) := match s with
    | 'j' :: rest => (imaginary, rest)
    | 'J' :: rest => (imaginary, rest)
    | _ => (number, s)
  match rest with
  | c :: _ => if isWordChar c then none else some (number, rest)
  | [] => some (number, [])

def baseNumber (base : Nat) (s : List Char) : Reading :=
  match digits base s with
  | ([], _) => none
  | (_, rest) =>
    match rest with
    | c :: _ => if isWordChar c then none else some (real, rest)
    | [] => some (real, [])

/-- A number in decimal digits. A whole number of several digits starts with a
zero only if it is zero. -/
def decimalNumber (s : List Char) : Reading :=
  let (whole, rest) := plainDigits s
  let (places, rest, hasPoint) := match rest with
    | '.' :: after =>
      let (places, after) := plainDigits after
      (places, after, true)
    | _ => ([], rest, false)
  if whole.isEmpty && places.isEmpty then none
  else
    match afterExponent? rest with
    | some after => numberEnd real after
    | none =>
      if hasPoint then numberEnd real rest
      else
        match numberEnd real rest with
        | some (.real, after) =>
          if mostDigits < whole.length ||
              (whole.head? = some '0' && whole.any (· ≠ '0')) then none
          else some (real, after)
        | reading => reading

def number (s : List Char) : Reading :=
  match s with
  | '0' :: c :: rest =>
    if c = 'x' || c = 'X' then baseNumber 16 rest
    else if c = 'o' || c = 'O' then baseNumber 8 rest
    else if c = 'b' || c = 'B' then baseNumber 2 rest
    else decimalNumber s
  | _ => decimalNumber s

/-! ## Texts and octets -/

inductive TextKind where
  | text
  | rawText
  | octets
  | rawOctets
deriving DecidableEq

def TextKind.isOctets (k : TextKind) : Bool := k = .octets || k = .rawOctets

def TextKind.isRaw (k : TextKind) : Bool := k = .rawText || k = .rawOctets

def textMarks : List (String × TextKind) := [
  ("", .text), ("u", .text), ("r", .rawText), ("b", .octets), ("br", .rawOctets),
  ("rb", .rawOctets)]

def isEscape (kind : TextKind) (c : Char) (rest : List Char) : Bool :=
  let points := fun width => (hexNumber? width 0 rest).any fun r => r.1 ≤ 0x10ffff
  if kind.isRaw then true
  else if c = 'x' then points 2
  else if kind = .octets then true
  else if c = 'u' then points 4
  else if c = 'U' then points 8
  else if c = 'N' then
    rest.head? = some '\x7b' && rest.contains '\x7d' && rest.take 2 ≠ ['\x7b', '\x7d']
  else true

/-- The text after the closing quote: one quote, or three of them for a text of several lines. -/
def afterQuoted? (kind : TextKind) (quote : Char) (isLong : Bool) :
    Nat → List Char → Option (List Char)
  | 0, _ => none
  | _ + 1, [] => none
  | fuel + 1, c :: rest =>
    if c = '\\' then
      match rest with
      | [] => none
      | d :: after =>
        if (kind.isOctets && 0x80 ≤ d.toNat) || !isEscape kind d after then none
        else afterQuoted? kind quote isLong fuel after
    else if c = quote && !isLong then some rest
    else if c = quote && [quote, quote].isPrefixOf rest then some (rest.drop 2)
    else if (c = '\n' && !isLong) || (kind.isOctets && 0x80 ≤ c.toNat) then none
    else afterQuoted? kind quote isLong fuel rest

def opening? (s : List Char) : Option (TextKind × Char × Bool × List Char) :=
  textMarks.findSome? fun (mark, kind) =>
    let letters := (s.take mark.length).map Char.toLower
    if letters ≠ mark.toList then none
    else
      match s.drop mark.length with
      | c :: rest =>
        if c = '"' || c = '\'' then
          if [c, c].isPrefixOf rest then some (kind, c, true, rest.drop 2)
          else some (kind, c, false, rest)
        else none
      | [] => none

def quoted? (s : List Char) : Option (TextKind × List Char) :=
  match opening? s with
  | some (kind, quote, isLong, rest) =>
    (afterQuoted? kind quote isLong (rest.length + 1) rest).map fun after => (kind, after)
  | none => none

def moreQuoted (inside isOctets : Bool) : Nat → List Char → Option (List Char)
  | 0, s => some s
  | fuel + 1, s =>
    let next := skip inside s
    match opening? next with
    | none => some s
    | some _ =>
      match quoted? next with
      | some (kind, after) =>
        if kind.isOctets = isOctets then moreQuoted inside isOctets fuel after else none
      | none => none

/-! ## Literals -/

def afterSign? (inside : Bool) (c : Char) (s : List Char) : Option (List Char) :=
  match skip inside s with
  | d :: rest => if d = c then some rest else none
  | [] => none

def simple (inside : Bool) (s : List Char) : Reading :=
  match quoted? s with
  | some (kind, rest) =>
    (moreQuoted inside kind.isOctets rest.length rest).map fun after => (other true, after)
  | none =>
    match s with
    | '.' :: '.' :: '.' :: rest => some (other true, rest)
    | _ =>
      let word := s.takeWhile isWordChar
      let rest := s.drop word.length
      if words.contains word then some (other true, rest)
      else if word = "set".toList then
        ((afterSign? inside '(' rest).bind (afterSign? true ')')).map fun after =>
          (other false, after)
      else number s

def mostDepth : Nat := 200

mutual

def atom (depth : Nat) : Nat → List Char → Reading
  | 0, _ => none
  | fuel + 1, s =>
    let inside := depth ≠ 0
    match skip inside s with
    | '(' :: rest => if depth < mostDepth then parenthesized (depth + 1) fuel rest else none
    | '\x7b' :: rest => if depth < mostDepth then inBraces (depth + 1) fuel rest else none
    | rest => simple inside rest
termination_by structural fuel => fuel

def parenthesized (depth : Nat) : Nat → List Char → Reading
  | 0, _ => none
  | fuel + 1, s =>
    match afterSign? true ')' s with
    | some rest => some (other true, rest)
    | none => do
      let (value, rest) ← items depth fuel s
      let rest ← afterSign? true ')' rest
      return (value, rest)
termination_by structural fuel => fuel

/-- One or more literals with commas between them and perhaps at their end: a single one without
a comma is itself, all else is a tuple. -/
def items (depth : Nat) : Nat → List Char → Reading
  | 0, _ => none
  | fuel + 1, s => do
    let (first, rest) ← sum depth fuel s
    match afterSign? (depth ≠ 0) ',' rest with
    | none => return (first, rest)
    | some rest =>
      match items depth fuel rest with
      | some (others, rest) => return (other (first.isKey && others.isKey), rest)
      | none => return (other first.isKey, rest)
termination_by structural fuel => fuel

def inBraces (depth : Nat) : Nat → List Char → Reading
  | 0, _ => none
  | fuel + 1, s =>
    match afterSign? true '\x7d' s with
    | some rest => some (other false, rest)
    | none => do
      let (first, rest) ← sum depth fuel s
      if !first.isKey then none
      match afterSign? true ':' rest with
      | some rest =>
        let (_, rest) ← sum depth fuel rest
        members true depth fuel rest
      | none => members false depth fuel rest
termination_by structural fuel => fuel

def members (isMap : Bool) (depth : Nat) : Nat → List Char → Reading
  | 0, _ => none
  | fuel + 1, s =>
    match afterSign? true '\x7d' s with
    | some rest => some (other false, rest)
    | none => do
      let rest ← afterSign? true ',' s
      match afterSign? true '\x7d' rest with
      | some rest => return (other false, rest)
      | none =>
        let (member, rest) ← sum depth fuel rest
        if !member.isKey then none
        if isMap then
          let rest ← afterSign? true ':' rest
          let (_, rest) ← sum depth fuel rest
          members isMap depth fuel rest
        else members isMap depth fuel rest
termination_by structural fuel => fuel

/-- A literal that may have a sign, and that may be the real part of a complex number. -/
def sum (depth : Nat) : Nat → List Char → Reading
  | 0, _ => none
  | fuel + 1, s => do
    let inside := depth ≠ 0
    let (first, rest) ← signedAtom depth fuel s
    if first ≠ real && first ≠ signed then return (first, rest)
    match skip inside rest with
    | c :: after =>
      if c = '+' || c = '-' then
        let (second, rest) ← atom depth fuel after
        if second = imaginary then return (other true, rest) else none
      else return (first, rest)
    | [] => return (first, rest)
termination_by structural fuel => fuel

def signedAtom (depth : Nat) : Nat → List Char → Reading
  | 0, _ => none
  | fuel + 1, s =>
    match skip (depth ≠ 0) s with
    | c :: rest =>
      if c = '+' || c = '-' then do
        let (number, rest) ← atom depth fuel rest
        if number = real then return (signed, rest)
        else if number = imaginary then return (other true, rest)
        else none
      else atom depth fuel (c :: rest)
    | [] => none
termination_by structural fuel => fuel

end

def isLiteral (s : List Char) : Bool :=
  if s.contains '\x00' then false
  else
    let lines := unifyLines '\r' '\n' s
    match items 0 (8 * lines.length + 8) (skip true lines) with
    | some (_, rest) => (skip true rest).isEmpty
    | none => false

end Literal

/-! ## Actions -/

/-- The arguments after the name of a handler, if the text has that form: what is in parentheses
at its end, or nothing. -/
def handlerArguments? (s : List Char) : Option (List Char) :=
  let rest := s.dropWhile fun c => isWordChar c || c = '.'
  match rest with
  | [] => some ['(', ')']
  | '(' :: _ =>
    if rest.getLast? = some ')' && !rest.contains '\n' then some rest else none
  | _ => none

def isAction (s : Text) : Bool :=
  match (strip s).chars? with
  | none => false
  | some cs => Literal.isLiteral ((handlerArguments? cs).getD cs)

end TerseSchema.Terminal
