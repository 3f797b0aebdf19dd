import WireModel.Items.Basic

/-!
Sorting by insertion. The run that is in order at the start is found first, turned if it goes down;
then each further item is put behind the last one that it does not stand before, which is looked for
by halving. Where a comparison fails, what was sorted up to there stays sorted.
-/

namespace WireModel.Sorting

variable {m : Type → Type} [Monad m] {α : Type} (isLess : α → α → m Bool)

/-- How many items behind a first one are in order, each before the one in front of it if
`goesDown`, and each not before it otherwise. -/
def runBehind (goesDown : Bool) (first : α) : List α → m Nat
  | [] => return 0
  | item :: rest => do
    if (← isLess item first) = goesDown then return (← runBehind goesDown item rest) + 1
    else return 0

/-- The run at the start, in order, and the items behind it. -/
def firstRun : List α → m (List α × List α)
  | first :: second :: rest => do
    let goesDown ← isLess second first
    let count := (← runBehind isLess goesDown second rest) + 2
    let all := first :: second :: rest
    let run := all.take count
    return (if goesDown then run.reverse else run, all.drop count)
  | items => return (items, [])

/-- The place among sorted items behind the last one that an item does not stand before; it is
between two places, and the fuel is their distance. -/
def placeFor (sorted : List α) (item : α) : Nat → Nat → Nat → m Nat
  | 0, first, _ => return first
  | fuel + 1, first, last => do
    if last ≤ first then return first
    let middle := first + (last - first) / 2
    match sorted[middle]? with
    | some other =>
      if ← isLess item other then placeFor sorted item fuel first middle
      else placeFor sorted item fuel (middle + 1) last
    | none => return first

/-- Sorts the items behind sorted ones into them. After each one the whole row is kept. -/
def insertAll (keep : List α → m Unit) (sorted : List α) : List α → m (List α)
  | [] => return sorted
  | item :: rest => do
    let place ← placeFor isLess sorted item (sorted.length + 1) 0 sorted.length
    let sorted := sorted.take place ++ item :: sorted.drop place
    keep (sorted ++ rest)
    insertAll keep sorted rest

/-- The items in order; items of which neither stands before the other stay in their order. The row
is kept whenever it has changed. -/
def sorted (keep : List α → m Unit) (items : List α) : m (List α) := do
  let (run, rest) ← firstRun isLess items
  keep (run ++ rest)
  insertAll isLess keep run rest

end WireModel.Sorting
