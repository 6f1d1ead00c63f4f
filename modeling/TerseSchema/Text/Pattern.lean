import TerseSchema.Text.Basic
/-!
# Patterns

Regular expressions over code points, matched by taking derivatives: what is left of a pattern
after a code point. A text matches if nothing needs to follow it.
-/

namespace TerseSchema.Text

inductive Pattern where
  /-- Matches no text. -/
  | never
  /-- Matches the empty text. -/
  | empty
  /-- Matches one code point in one of the ranges. -/
  | char (ranges : List (Char × Char))
  | seq (first second : Pattern)
  | alt (first second : Pattern)
  | star (repeated : Pattern)
deriving DecidableEq

namespace Pattern

def nullable : Pattern → Bool
  | .never => false
  | .empty => true
  | .char _ => false
  | .seq p q => p.nullable && q.nullable
  | .alt p q => p.nullable || q.nullable
  | .star _ => true

def andThen : Pattern → Pattern → Pattern
  | .never, _ => .never
  | .empty, q => q
  | _, .never => .never
  | p, q => .seq p q

def orElse : Pattern → Pattern → Pattern
  | .never, q => q
  | p, .never => p
  | p, q => if p = q then p else .alt p q

/-- What has to follow a code point for a pattern to match. -/
def derivative (c : CodePoint) : Pattern → Pattern
  | .never => .never
  | .empty => .never
  | .char ranges =>
    if ranges.any fun r => r.1.toNat ≤ c.code && c.code ≤ r.2.toNat then .empty else .never
  | .seq p q =>
    let rest := (derivative c p).andThen q
    if p.nullable then rest.orElse (derivative c q) else rest
  | .alt p q => (derivative c p).orElse (derivative c q)
  | .star p => (derivative c p).andThen (.star p)

def matchesAll (p : Pattern) : Text → Bool
  | [] => p.nullable
  | c :: rest => (p.derivative c).matchesAll rest

/-- Whether a pattern matches a whole text or all of it but a line feed at its end. -/
def matchesLine (p : Pattern) (s : Text) : Bool :=
  p.matchesAll s || (s.getLast? = some (.char '\n') && p.matchesAll s.dropLast)

/-! ## Building patterns -/

def oneOf (s : String) : Pattern := .char (s.toList.map fun c => (c, c))

def sequence (ps : List Pattern) : Pattern := ps.foldr .seq .empty

def oneOfAll (ps : List Pattern) : Pattern := ps.foldr .alt .never

def literally (s : String) : Pattern := sequence (s.toList.map fun c => .char [(c, c)])

def words (ws : List String) : Pattern := oneOfAll (ws.map literally)

def optionally (p : Pattern) : Pattern := .alt p .empty

def atLeastOnce (p : Pattern) : Pattern := .seq p (.star p)

end Pattern
end TerseSchema.Text
