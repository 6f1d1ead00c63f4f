import TerseSchema.Value.Basic
/-!
# Equality of values

Numbers and truth values are equal when their exact values are, whatever their kind; maps and
sets are equal whatever their order. All else is equal only to its own kind.

What is no number is equal to nothing. As a part of something larger it is alike to what has the
same payload, so that a list is equal to a list of the very same parts.
-/

namespace TerseSchema

/-- A point of the number line with both ends. -/
inductive Magnitude where
  | negativeEnd
  | ratio (num : Int) (den : Nat)
  | positiveEnd

namespace Magnitude

def ofFloat? : Binary64 → Option Magnitude
  | .nan _ => none
  | .infinity negative => some (if negative then .negativeEnd else .positiveEnd)
  | x => x.ratio?.map fun r => .ratio r.1 r.2

def same : Magnitude → Magnitude → Bool
  | .negativeEnd, .negativeEnd => true
  | .positiveEnd, .positiveEnd => true
  | .ratio a b, .ratio c d => a * d == c * b
  | _, _ => false

def less : Magnitude → Magnitude → Bool
  | .negativeEnd, .negativeEnd => false
  | .negativeEnd, _ => true
  | _, .negativeEnd => false
  | .positiveEnd, _ => false
  | _, .positiveEnd => true
  | .ratio a b, .ratio c d => a * d < c * b

end Magnitude

namespace Value

def magnitude? : Value → Option Magnitude
  | .bool b => some (.ratio (if b then 1 else 0) 1)
  | .int n => some (.ratio n 1)
  | .float x => Magnitude.ofFloat? x
  | _ => none

def sameNumber (v w : Value) : Bool :=
  match v.magnitude?, w.magnitude? with
  | some a, some b => a.same b
  | _, _ => false

/-- Whether two values are one and the same for a mark that they carry: the payload of what is no
number, or the label of a container that lies inside of itself. -/
def isIdentical (v w : Value) : Bool :=
  match v, w with
  | .float (.nan p), .float (.nan q) => p == q
  | _, _ =>
    match v.label?, w.label? with
    | some a, some b => a == b
    | _, _ => false

end Value

mutual

def Value.same : Value → Value → Bool
  | .null, .null => true
  | .text s, .text t => s = t
  | .list vs, w =>
    match w.untied with
    | .list ws => itemsAlike vs ws
    | _ => false
  | .tuple vs, .tuple ws => itemsAlike vs ws
  | .map es, w =>
    match w.untied with
    | .map fs => es.length == fs.length && entriesWithin es fs
    | _ => false
  | .set vs, .set ws => vs.length == ws.length && membersWithin vs ws
  | .bytes a, .bytes b => a == b
  | .date d, .date e => d == e
  | .moment t, .moment u => t.same u
  | .forbidden, .forbidden => true
  | .schema s, .schema t => s.same t
  | .knot label v, w => w.label? == some label || v.same w
  | .cut label _, w => w.label? == some label
  | v, w => v.sameNumber w
termination_by structural v => v

def itemsAlike : List Value → List Value → Bool
  | [], [] => true
  | v :: vs, w :: ws => (v.isIdentical w || v.same w) && itemsAlike vs ws
  | _, _ => false
termination_by structural vs => vs

def entriesWithin : List (Value × Value) → List (Value × Value) → Bool
  | [], _ => true
  | (k, v) :: rest, fs =>
    fs.any (fun f =>
      (k.isIdentical f.1 || k.same f.1) && (v.isIdentical f.2 || v.same f.2)) &&
    entriesWithin rest fs
termination_by structural es => es

def membersWithin : List Value → List Value → Bool
  | [], _ => true
  | v :: rest, ws => ws.any (fun w => v.isIdentical w || v.same w) && membersWithin rest ws
termination_by structural vs => vs

def Schema.same : Schema → Schema → Bool
  | ⟨type, description, enum, properties, items, required, additional, extras⟩, t =>
    type = t.type && description = t.description &&
    (match enum, t.enum with
      | none, none => true
      | some v, some w => v.isIdentical w || v.same w
      | _, _ => false) &&
    (match properties, t.properties with
      | none, none => true
      | some ps, some qs => ps.length == qs.length && propertiesWithin ps qs
      | _, _ => false) &&
    (match items, t.items with
      | none, none => true
      | some s, some u => s.same u
      | _, _ => false) &&
    required = t.required &&
    (match additional, t.additional with
      | none, none => true
      | some a, some b => a.same b
      | _, _ => false) &&
    extras.length == t.extras.length && extrasWithin extras t.extras
termination_by structural s => s

def propertiesWithin : List (Text × Schema) → List (Text × Schema) → Bool
  | [], _ => true
  | (name, s) :: rest, qs =>
    qs.any (fun q => name = q.1 && s.same q.2) && propertiesWithin rest qs
termination_by structural ps => ps

def extrasWithin : List (Text × Value) → List (Text × Value) → Bool
  | [], _ => true
  | (name, v) :: rest, fs =>
    fs.any (fun f => name = f.1 && (v.isIdentical f.2 || v.same f.2)) && extrasWithin rest fs
termination_by structural es => es

def Additional.same : Additional → Additional → Bool
  | .forbidden, .forbidden => true
  | .schema s, .schema t => s.same t
  | _, _ => false
termination_by structural a => a

end

/-- Whether two values are alike as parts of something larger: identical or equal. -/
def Value.alike (v w : Value) : Bool := v.isIdentical w || v.same w

/-- Entries as a map: a key keeps its first place and its first form, and
takes its last value. -/
def Value.putEntry (key value : Value) : List (Value × Value) → List (Value × Value)
  | [] => [(key, value)]
  | (k, v) :: rest =>
    if k.alike key then (k, value) :: rest else (k, v) :: Value.putEntry key value rest

def Value.mapOf (entries : List (Value × Value)) : Value :=
  .map (entries.foldl (fun es e => Value.putEntry e.1 e.2 es) [])

def Value.setOf (members : List Value) : Value :=
  .set (members.foldl (fun ws v => if ws.any (·.alike v) then ws else ws ++ [v]) [])

end TerseSchema
