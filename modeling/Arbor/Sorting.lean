/-!
# Sorting with comparisons that may fail

Values of different kinds may refuse to be compared, so a sort can fail part way, and which
comparison fails first depends on the order in which the sort makes them. `Sorting.sortBy`
makes them in the order of a short list's sort in the service's runtime, a binary insertion
sort:

1. the run at the front is measured (`runOf`): the second item is compared with the first,
   and then each next item with the one before it, for as long as the run keeps its direction;
   a strictly falling run is turned round;
2. every later item is put into the sorted front by halving (`insertionPoint`): it is compared
   with the middle item of the range still open and goes after the items it is not less than.

With comparisons that never fail and order the items, the result is the stable sort of the
list; the first failing comparison is the answer otherwise.
-/

set_option autoImplicit false

namespace Arbor

namespace Sorting

variable {α ε : Type}

/-- How many items continue a run after `prev`: each is compared with the one before it, in
order, while the comparison `lt item before` gives `falling`. -/
def runTail (lt : α → α → Except ε Bool) (falling : Bool) : α → List α → Except ε Nat
  | _, [] => pure 0
  | prev, x :: rest => do
    if (← lt x prev) == falling then pure ((← runTail lt falling x rest) + 1) else pure 0

/-- The length of the run at the front of a list, and whether it strictly falls. -/
def runOf (lt : α → α → Except ε Bool) : List α → Except ε (Nat × Bool)
  | a :: b :: rest => do
    let falling ← lt b a
    pure (2 + (← runTail lt falling b rest), falling)
  | xs => pure (xs.length, false)

/-- Where `pivot` goes among the sorted items `xs` in the range from `lo` to `hi`: after every
item it is not less than, found by comparing it with the middle of the range. -/
def insertionPoint (lt : α → α → Except ε Bool) (pivot : α) (xs : List α) (lo hi : Nat) :
    Except ε Nat :=
  if lo < hi then do
    let p := lo + (hi - lo) / 2
    if ← lt pivot (xs.getD p pivot) then insertionPoint lt pivot xs lo p
    else insertionPoint lt pivot xs (p + 1) hi
  else pure lo
termination_by hi - lo

/-- The sorted `sorted` with every item of `rest` put in its place, in order. -/
def insertAll (lt : α → α → Except ε Bool) (sorted : List α) :
    List α → Except ε (List α)
  | [] => pure sorted
  | x :: rest => do
    let i ← insertionPoint lt x sorted 0 sorted.length
    insertAll lt (sorted.take i ++ x :: sorted.drop i) rest

/-- The list sorted by `lt`, or the first failure of a comparison. -/
def sortBy (lt : α → α → Except ε Bool) (xs : List α) : Except ε (List α) := do
  let (n, falling) ← runOf lt xs
  let front := if falling then (xs.take n).reverse else xs.take n
  insertAll lt front (xs.drop n)

end Sorting

end Arbor
