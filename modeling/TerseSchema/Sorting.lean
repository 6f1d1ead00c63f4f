/-!
# Sorting by runs

A stable sort for orders that are only partly known: where two items cannot be put in order the
sort fails, and where an order contradicts itself the outcome is a matter of which items are
held against each other. Runs that are in order already are found first, short ones are filled
up, and neighbouring runs are merged, in pairs that are about balanced. A run that keeps
winning is galloped through.
-/

namespace TerseSchema.Sorting

/-- Whether one item comes before another, if the two can be put in order. -/
abbrev Order (α : Type) := α → α → Option Bool

/-! ## Search -/

def halve (isPassed : Nat → Option Bool) : Nat → Nat → Nat → Option Nat
  | 0, low, _ => some low
  | fuel + 1, low, high =>
    if low < high then
      let middle := low + (high - low) / 2
      match isPassed middle with
      | none => none
      | some true => halve isPassed fuel (middle + 1) high
      | some false => halve isPassed fuel low middle
    else some low

/-- Distances that about double as long as the one reached is passed: the last that is, and the
first that is not or is as great as a distance can be. -/
def stride (isPassed : Nat → Option Bool) (most : Nat) : Nat → Nat → Nat → Option (Nat × Nat)
  | 0, last, next => some (last, min next most)
  | fuel + 1, last, next =>
    if next < most then
      match isPassed next with
      | none => none
      | some true => stride isPassed most fuel next (2 * next + 1)
      | some false => some (last, next)
    else some (last, most)

/-- The first place among `count` that is not passed, found from a place that
is likely to be near. -/
def gallop (isPassed : Nat → Option Bool) (count hint : Nat) : Option Nat := do
  if ← isPassed hint then
    let (last, next) ← stride (fun n => isPassed (hint + n)) (count - hint) count 0 1
    halve isPassed count (hint + last + 1) (hint + next)
  else
    let (last, next) ← stride (fun n => (isPassed (hint - n)).map not) (hint + 1) count 0 1
    halve isPassed count (hint + 1 - next) (hint - last)

def isUpTo {α : Type} (before? : Order α) (items : Array α) (item : α) (place : Nat) :
    Option Bool :=
  match items[place]? with
  | some other => (before? item other).map not
  | none => some false

def isBelow {α : Type} (before? : Order α) (items : Array α) (item : α) (place : Nat) :
    Option Bool :=
  match items[place]? with
  | some other => before? other item
  | none => some false

/-! ## Runs -/

/-- The items after a first one up to the first that does not come before its neighbour or, if
`down` is false, that does; and the rest. -/
def runAfter? {α : Type} (before? : Order α) (down : Bool) (previous : α) :
    List α → Option (List α × List α)
  | [] => some ([], [])
  | v :: rest =>
    match before? v previous with
    | none => none
    | some isBefore =>
      if isBefore = down then
        (runAfter? before? down v rest).map fun (run, after) => (v :: run, after)
      else some ([], v :: rest)

/-- The items at the start of a list that are in order already, or, turned round, those that are
in reverse order; and the rest. -/
def firstRun? {α : Type} (before? : Order α) : List α → Option (List α × List α)
  | [] => some ([], [])
  | [v] => some ([v], [])
  | v :: w :: rest => do
    let down ← before? w v
    let (run, after) ← runAfter? before? down w rest
    return (if down then (v :: w :: run).reverse else v :: w :: run, after)

def insertOrdered? {α : Type} (before? : Order α) (items : List α) (item : α) :
    Option (List α) := do
  let place ← halve (isUpTo before? items.toArray item) items.length 0 items.length
  return items.insertIdx place item

def filledRun? {α : Type} (before? : Order α) (least : Nat) (items : List α) :
    Option (List α × List α) := do
  let (run, rest) ← firstRun? before? items
  let missing := least - run.length
  let run ← (rest.take missing).foldlM (insertOrdered? before?) run
  return (run, rest.drop missing)

/-- The least length of runs: the first six binary digits of the number of items, and one more if
any of the others is not zero. -/
def leastRun : Nat → Nat → Nat → Nat
  | 0, odd, count => count + odd
  | fuel + 1, odd, count =>
    if 64 ≤ count then leastRun fuel (if count % 2 = 1 then 1 else odd) (count / 2)
      else count + odd

/-! ## Merging -/

/-- Two runs that are being merged, from their starts or from their ends. Their items stand in
the order in which they are taken, and the merged ones in the reverse of it. -/
structure Merge (α : Type) where
  fromEnd : Bool
  left : List α
  right : List α
  merged : List α := []
  /-- How often in a row one of the runs wins before it is galloped through. -/
  patience : Nat

namespace Merge

variable {α : Type}

def takeLeft (m : Merge α) (count : Nat) : Merge α :=
  { m with left := m.left.drop count, merged := (m.left.take count).reverse ++ m.merged }

def takeRight (m : Merge α) (count : Nat) : Merge α :=
  { m with right := m.right.drop count, merged := (m.right.take count).reverse ++ m.merged }

/-- Whether what is left has its place: of the run that is to go last there is at most one item,
or nothing of the other. -/
def isOver (m : Merge α) : Bool :=
  if m.fromEnd then m.left.isEmpty || m.right.length ≤ 1
    else m.right.isEmpty || m.left.length ≤ 1

def items (m : Merge α) : List α :=
  if m.fromEnd then m.right.reverse ++ m.left.reverse ++ m.merged
  else m.merged.reverse ++ m.right ++ m.left

/-- How many items of the left run come before the next one of the right, or after it if the runs
are merged from their ends. -/
def leftWins (before? : Order α) (m : Merge α) : Option Nat :=
  match m.right with
  | [] => some 0
  | item :: _ =>
    let count := m.left.length
    if m.fromEnd then
      (gallop (isUpTo before? m.left.reverse.toArray item) count (count - 1)).map (count - ·)
    else gallop (isUpTo before? m.left.toArray item) count 0

def rightWins (before? : Order α) (m : Merge α) : Option Nat :=
  match m.left with
  | [] => some 0
  | item :: _ =>
    let count := m.right.length
    if m.fromEnd then
      (gallop (isBelow before? m.right.reverse.toArray item) count (count - 1)).map (count - ·)
    else gallop (isBelow before? m.right.toArray item) count 0

def worthGalloping : Nat := 7

mutual

def stepwise (before? : Order α) (lefts rights : Nat) : Nat → Merge α → Option (Merge α)
  | 0, m => some m
  | fuel + 1, m =>
    match m.left, m.right with
    | a :: _, b :: _ =>
      match before? b a with
      | none => none
      | some isBefore =>
        if isBefore = m.fromEnd then
          let m := m.takeLeft 1
          if m.isOver then some m
          else if m.patience ≤ lefts + 1 then galloping before? fuel m
          else stepwise before? (lefts + 1) 0 fuel m
        else
          let m := m.takeRight 1
          if m.isOver then some m
          else if m.patience ≤ rights + 1 then galloping before? fuel m
          else stepwise before? 0 (rights + 1) fuel m
    | _, _ => some m
termination_by structural fuel => fuel

def galloping (before? : Order α) : Nat → Merge α → Option (Merge α)
  | 0, m => some m
  | fuel + 1, m => do
    let lefts ← m.leftWins before?
    let m := m.takeLeft lefts
    if m.isOver then return m
    let m := m.takeRight 1
    if m.isOver then return m
    let rights ← m.rightWins before?
    let m := m.takeRight rights
    if m.isOver then return m
    let m := m.takeLeft 1
    if m.isOver then return m
    if worthGalloping ≤ lefts || worthGalloping ≤ rights then
      galloping before? fuel { m with patience := max 1 (m.patience - 1) }
    else stepwise before? 0 0 fuel { m with patience := m.patience + 1 }
termination_by structural fuel => fuel

end

/-- Merges two runs of which some item of the right one comes first and some item
of the left one last. -/
def run? (before? : Order α) (m : Merge α) : Option (Merge α) :=
  let m := if m.fromEnd then m.takeLeft 1 else m.takeRight 1
  if m.isOver then some m else stepwise before? 0 0 (m.left.length + m.right.length) m

end Merge

abbrev Sorter := StateT Nat Option

def mergeRuns {α : Type} (before? : Order α) (left right : List α) : Sorter (List α) :=
  fun patience =>
  match right with
  | [] => some (left, patience)
  | first :: _ => do
    let start ← gallop (isUpTo before? left.toArray first) left.length 0
    let (head, left) := left.splitAt start
    match left.getLast? with
    | none => return (head ++ right, patience)
    | some last =>
      let stop ← gallop (isBelow before? right.toArray last) right.length (right.length - 1)
      let (right, tail) := right.splitAt stop
      if stop = 0 then return (head ++ left ++ tail, patience)
      let fromEnd := right.length < left.length
      let m : Merge α :=
        if fromEnd then { fromEnd, left := left.reverse, right := right.reverse, patience }
        else { fromEnd, left, right, patience }
      let m ← m.run? before?
      return (head ++ m.items ++ tail, m.patience)

/-! ## Sorting -/

/-- A run that waits for being merged. -/
structure Pending (α : Type) where
  start : Nat
  items : List α
  /-- The depth of the border behind the run in a balanced tree of merges. -/
  power : Nat := 0

/-- The depth of the border between two runs in a balanced tree of merges over `count` items: the
number of binary digits up to the first in which the middles of the runs differ, as fractions of
the whole. The middles are told doubled. -/
def borderPower (count : Nat) : Nat → Nat → Nat → Nat
  | 0, _, _ => 0
  | fuel + 1, a, b =>
    if count ≤ a then 1 + borderPower count fuel (2 * (a - count)) (2 * (b - count))
    else if count ≤ b then 1
    else 1 + borderPower count fuel (2 * a) (2 * b)

def mergeDeeper {α : Type} (before? : Order α) (power : Nat) :
    Pending α → List (Pending α) → Sorter (List (Pending α))
  | top, [] => return [{ top with power }]
  | top, next :: rest =>
    if power < next.power then do
      let items ← mergeRuns before? next.items top.items
      mergeDeeper before? power { next with items } rest
    else return { top with power } :: next :: rest

def addRun {α : Type} (before? : Order α) (count : Nat) (pending : List (Pending α))
    (run : List α) :
    Sorter (List (Pending α)) :=
  match pending with
  | [] => return [{ start := 0, items := run }]
  | top :: rest => do
    let middle := 2 * top.start + top.items.length
    let next := middle + top.items.length + run.length
    let merged ← mergeDeeper before? (borderPower count (2 * count + 2) middle next) top rest
    return { start := top.start + top.items.length, items := run } :: merged

def pendingRuns {α : Type} (before? : Order α) (count least : Nat) :
    Nat → List (Pending α) → List α → Sorter (List (Pending α))
  | 0, pending, _ => return pending
  | fuel + 1, pending, items => do
    if items.isEmpty then return pending
    let (run, rest) ← filledRun? before? least items
    pendingRuns before? count least fuel (← addRun before? count pending run) rest

/-- All pending runs as one. The last one is merged with its neighbour, unless it is
longer than the one beyond. -/
def collapse {α : Type} (before? : Order α) : Nat → List (Pending α) → Sorter (List α)
  | _, [] => return []
  | 0, top :: _ => return top.items
  | fuel + 1, top :: rest =>
    match rest with
    | [] => return top.items
    | [next] => mergeRuns before? next.items top.items
    | next :: far :: rest =>
      if far.items.length < top.items.length then do
        let items ← mergeRuns before? far.items next.items
        collapse before? fuel (top :: { far with items } :: rest)
      else do
        let items ← mergeRuns before? next.items top.items
        collapse before? fuel ({ next with items } :: far :: rest)

def sorted? {α : Type} (before? : Order α) (items : List α) : Option (List α) :=
  let count := items.length
  let sort : Sorter (List α) := do
    let pending ← pendingRuns before? count (leastRun count 0 count) count [] items
    collapse before? count pending
  (sort.run Merge.worthGalloping).map (·.1)

end TerseSchema.Sorting
