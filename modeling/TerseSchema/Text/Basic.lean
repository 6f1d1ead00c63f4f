/-!
# Texts

A text is a sequence of code points. Most are characters; escapes in documents can also name
single halves of surrogate pairs, which are no characters and count as code points of their own.
-/

namespace TerseSchema

/-- A character, or half of a surrogate pair that stands by itself. -/
inductive CodePoint where
  | char (c : Char)
  /-- The surrogate that lies `offset` behind the first one. -/
  | surrogate (offset : Fin 0x800)
deriving DecidableEq, Inhabited

namespace CodePoint

/-- The first of the surrogates. The first half of a pair is one of the 1024 from here on, the
second half one of the next 1024. -/
def firstSurrogate : Nat := 0xd800

def code : CodePoint → Nat
  | .char c => c.toNat
  | .surrogate offset => firstSurrogate + offset.val

def ofCode? (n : Nat) : Option CodePoint :=
  if n.isValidChar then some (.char (Char.ofNat n))
  else if h : n - firstSurrogate < 0x800 then some (.surrogate ⟨n - firstSurrogate, h⟩)
  else none

def any (p : Char → Bool) : CodePoint → Bool
  | .char c => p c
  | .surrogate _ => false

def char? : CodePoint → Option Char
  | .char c => some c
  | .surrogate _ => none

end CodePoint

abbrev Text := List CodePoint

namespace Text

def ofString (s : String) : Text := s.toList.map .char

instance : Coe String Text := ⟨ofString⟩

def chars? (s : Text) : Option (List Char) := s.mapM CodePoint.char?

def spanChars (p : Char → Bool) : Text → List Char × Text
  | [] => ([], [])
  | .surrogate offset :: rest => ([], .surrogate offset :: rest)
  | .char c :: rest =>
    if p c then
      let (cs, after) := spanChars p rest
      (c :: cs, after)
    else ([], .char c :: rest)

def join (separator : Text) (texts : List Text) : Text := separator.intercalate texts

/-- Whether one text comes before another, or is the same: the first code points in which they
differ are compared by their numbers, and a text comes before those that continue it. -/
def isUpTo : Text → Text → Bool
  | [], _ => true
  | _ :: _, [] => false
  | a :: s, b :: t => a.code < b.code || (a.code == b.code && isUpTo s t)

def pair? : CodePoint → CodePoint → Option Char
  | .surrogate high, .surrogate low =>
    if high.val < 0x400 ∧ 0x400 ≤ low.val then
      some (Char.ofNat (0x10000 + high.val * 0x400 + (low.val - 0x400)))
    else none
  | _, _ => none

/-- A text in which the halves of a pair that follow each other are the
character they stand for. -/
def paired : Text → Text
  | [] => []
  | [a] => [a]
  | a :: b :: rest =>
    match pair? a b with
    | some c => .char c :: paired rest
    | none => a :: paired (b :: rest)

end Text
end TerseSchema
