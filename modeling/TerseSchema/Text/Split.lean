/-!
# Cutting texts

Where a text is cut, what is dropped from its end, and where its lines end.
-/

namespace TerseSchema.Text

def dropEndWhile {α : Type} (p : α → Bool) (l : List α) : List α :=
  (l.reverse.dropWhile p).reverse

def splitAtFirst {α : Type} [DecidableEq α] (c : α) : List α → List α × Option (List α)
  | [] => ([], none)
  | x :: rest =>
    if x = c then ([], some rest)
    else
      let (before, after) := splitAtFirst c rest
      (x :: before, after)

/-- The parts of a list between its elements `c`, of which there is always one. -/
def splitOn {α : Type} [DecidableEq α] (c : α) : List α → List (List α)
  | [] => [[]]
  | x :: rest =>
    if x = c then [] :: splitOn c rest
    else
      match splitOn c rest with
      | [] => [[x]]
      | part :: parts => (x :: part) :: parts

/-- A list in which an `lf` stands for each `cr`, and for a `cr` and the `lf` after it. -/
def unifyLines {α : Type} [DecidableEq α] (cr lf : α) : List α → List α
  | [] => []
  | [a] => [if a = cr then lf else a]
  | a :: b :: rest =>
    if a = cr then
      if b = lf then lf :: unifyLines cr lf rest else lf :: unifyLines cr lf (b :: rest)
    else a :: unifyLines cr lf (b :: rest)

end TerseSchema.Text
