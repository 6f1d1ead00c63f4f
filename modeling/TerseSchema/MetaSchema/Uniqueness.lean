import TerseSchema.Sorting
import TerseSchema.Value.Equality
/-!
# Equality and order of JSON values

The equality by which a list has no two items the same: numbers by value, but truth values only
equal to themselves. Where the items of a list can be put in order, only neighbours are compared.
Which items become neighbours then is a matter of how they are put in order, as what is no number
comes before nothing and sets have an order only as far as one holds the other.
-/

namespace TerseSchema.MetaSchema

open TerseSchema

/-- The items of a value that is a sequence: of values, or of octets as numbers. -/
def sequenceItems? (v : Value) : Option (List Value) :=
  match v.untied with
  | .list items => some items
  | .tuple items => some items
  | .bytes octets => some (octets.map fun b => .int b.toNat)
  | _ => none

def scalarEqual (v w : Value) : Bool :=
  match v, w with
  | .bool a, .bool b => a == b
  | .bool _, _ => false
  | _, .bool _ => false
  | v, w => v.alike w

mutual

def jsonEqual : Value → Value → Bool
  | .list vs, w =>
    match sequenceItems? w with
    | some ws => itemsEqual vs ws
    | none => false
  | .tuple vs, w =>
    match sequenceItems? w with
    | some ws => itemsEqual vs ws
    | none => false
  | .bytes octets, w =>
    match sequenceItems? w with
    | some ws =>
      octets.length == ws.length &&
        (octets.zip ws).all fun p => scalarEqual (.int p.1.toNat) p.2
    | none => false
  | .map es, w =>
    match w.untied with
    | .map fs => es.length == fs.length && entriesEqual es fs
    | _ => false
  | .knot label v, w => w.label? == some label || jsonEqual v w
  | v, w => scalarEqual v w
termination_by structural v => v

def itemsEqual : List Value → List Value → Bool
  | [], [] => true
  | v :: vs, w :: ws => jsonEqual v w && itemsEqual vs ws
  | _, _ => false
termination_by structural vs => vs

def entriesEqual : List (Value × Value) → List (Value × Value) → Bool
  | [], _ => true
  | (k, v) :: rest, fs =>
    fs.any (fun f => f.1.alike k && jsonEqual v f.2) && entriesEqual rest fs
termination_by structural es => es

end

/-! ## Order -/

/-- Whether a value stands on the number line, or would if it were a number. -/
def isNumeric : Value → Bool
  | .bool _ => true
  | .int _ => true
  | .float _ => true
  | _ => false

def numberBefore? (v w : Value) : Option Bool :=
  if isNumeric v && isNumeric w then
    match v.magnitude?, w.magnitude? with
    | some a, some b => some (a.less b)
    | _, _ => some false
  else none

def octetsBefore : List UInt8 → List UInt8 → Bool
  | _, [] => false
  | [], _ :: _ => true
  | a :: s, b :: t => a < b || (a == b && octetsBefore s t)

/-- Whether one moment comes before another, if both or none of them have an offset. -/
def momentBefore? (t u : Moment) : Option Bool :=
  match t.offset, u.offset with
  | none, none => some (t.clock < u.clock)
  | some a, some b => some (t.clock - a * 1000000 < u.clock - b * 1000000)
  | _, _ => none

mutual

def before? : Value → Value → Option Bool
  | .text s, .text t => some (!Text.isUpTo t s)
  | .bytes a, .bytes b => some (octetsBefore a b)
  | .list vs, w =>
    match w.untied with
    | .list ws => itemsBefore? vs ws
    | _ => none
  | .tuple vs, .tuple ws => itemsBefore? vs ws
  | .date d, .date e => some (d.ordinal < e.ordinal)
  | .moment t, .moment u => momentBefore? t u
  | .set vs, .set ws => some (vs.length < ws.length && membersWithin vs ws)
  | .knot _ v, w => before? v w
  | v, w => numberBefore? v w
termination_by structural v => v

def itemsBefore? : List Value → List Value → Option Bool
  | [], ws => some !ws.isEmpty
  | _ :: _, [] => some false
  | v :: vs, w :: ws => if v.alike w then itemsBefore? vs ws else before? v w
termination_by structural vs => vs

end

/-! ## Neighbours -/

def isTruthValue : Value → Bool
  | .bool _ => true
  | _ => false

/-- The items in order, if all of them can be put in order. Truth values stand for themselves and
cannot, unless one is alone. -/
def ordered? (items : List Value) : Option (List Value) :=
  if 1 < items.length && items.any isTruthValue then none else Sorting.sorted? before? items

def neighboursEqual : List Value → Bool
  | v :: w :: rest => jsonEqual v w || neighboursEqual (w :: rest)
  | _ => false

def anyEqual : List Value → Bool
  | [] => false
  | v :: rest => rest.any (jsonEqual v) || anyEqual rest

def allDifferent (items : List Value) : Bool :=
  match ordered? items with
  | some sorted => !neighboursEqual sorted
  | none => !anyEqual items

end TerseSchema.MetaSchema
