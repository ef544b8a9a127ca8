import Arbor.Forest.Basic
import Arbor.Fault
import Arbor.Json.Key
import Arbor.Json.Display

/-!
# Building the forest of a page

`Forest.build` turns one page of rows into displayed trees.

* A row's *page parent* is the parent of the last row with its id, kept only when that parent is
  the id of some row on the page. A row whose parent is elsewhere is shown at the top of the
  page.
* The rows are then taken in order. A row whose parent link, followed upwards through the links
  still in force, comes back to the row itself closes a cycle: its link is dropped for good and
  the row is shown at the top. `closesCycle` is that walk (`walkUp`). It remembers the ids it
  has met and stops at the first one it meets again, since from there it would only go round a
  loop it has checked already; so it takes at most one more step than there are rows.
* Each row that closes a cycle is reported by its id, written as a text; an id holding an integer
  of more than `maxIntDigits` digits cannot be written, and the build fails with
  `Fault.tooManyDigitsToWrite`.
* What remains is a forest (`Forest.linkOf`): the rows whose link was dropped or never existed
  are shown at the top, in row order, and every other row is a child of its parent, siblings in
  row order. A node shows the id and the label of the last row with its id, and a repeated id
  shows the same node at every place its rows belong.

The ids are of any type with a `BEq`, which decides when two rows have the same id; `build` is
told how an id is shown and when the walk up from a parent has come back to a row (`same`).
For integer ids both are equality. `buildKeyed` builds a page whose ids are any values, compared
as keys (`Key`): an id that cannot be a key, and then a parent that cannot be one, is refused.
There the walk compares ids as values (`Key.equals`), so a NaN id, which is one key with every
other NaN of the page, never comes back to itself: its row never closes a cycle. The page is
built over the positions of the distinct keys (`indexRows`), so that the walk compares numbers.

An empty page gives `Fault.emptyTree`.
-/

set_option autoImplicit false

namespace Arbor

namespace Forest

variable {κ : Type} [BEq κ]

/-- Each row's id with its page parent, the last row of an id first. -/
def pageParents (rows : List (Row κ)) : List (κ × Option κ) :=
  let ids := rows.map (·.id)
  rows.reverse.map fun r => (r.id, r.parent.filter ids.contains)

/-- The parent link of `x` while the ids in `broken` have had theirs dropped. -/
def linkIn (table : List (κ × Option κ)) (broken : List κ) (x : κ) : Option κ :=
  if broken.contains x then none else (table.lookup x).join

/-- The walk up `up` from `current`, with the ids met so far in `seen`: it stops with `true` at
an id `same` as `target`, and with `false` past the last link or at an id met before. It gives
up with `none` once it has taken `fuel` steps without stopping. -/
def walkUp (same : κ → κ → Bool) (up : κ → Option κ) (target : κ) :
    List κ → Option κ → Nat → Option Bool
  | _, none, _ => some false
  | _, some _, 0 => none
  | seen, some c, fuel + 1 =>
    if same c target then some true
    else if seen.contains c then some false
    else walkUp same up target (c :: seen) (up c) fuel

/-- The row `id` would close a cycle by linking to `parent`: the walk up from `parent` comes back
to `id`. Every step but the last meets a new id with a link, one of the rows' ids, so on `n` rows
the walk stops within `n + 1` steps. -/
def closesCycle (same : κ → κ → Bool) (table : List (κ × Option κ)) (broken : List κ)
    (id parent : κ) : Bool :=
  (walkUp same (linkIn table broken) id [] (some parent) (table.length + 1)).getD false

/-- The ids whose link is dropped, taking the rows in order. -/
def breakers (same : κ → κ → Bool) (rows : List (Row κ)) : List κ :=
  let table := pageParents rows
  rows.foldl (fun broken r =>
    match linkIn table broken r.id with
    | none => broken
    | some p => if closesCycle same table broken r.id p then r.id :: broken else broken) []

/-- The parent link of each id once all cycles are broken. -/
def linkOf (same : κ → κ → Bool) (rows : List (Row κ)) : κ → Option κ :=
  linkIn (pageParents rows) (breakers same rows)

/-- The id and the label that the node of `x` shows: those of the last row with id `x`. -/
def shownAs (shown : κ → Json) (rows : List (Row κ)) (x : κ) : Json × Json :=
  match rows.reverse.find? (·.id == x) with
  | some r => (shown r.id, r.label)
  | none => (shown x, .null)

/-- The displayed node of `x` and below it, at most `fuel` levels deep; `linked` pairs each row
with its parent link, so that the children of a node are the rows linked to it, in row order. -/
def expand (shown : κ → Json) (rows : List (Row κ)) (linked : List (Row κ × Option κ)) :
    Nat → κ → Tree
  | 0, x =>
    let (id, label) := shownAs shown rows x
    .mk id label []
  | fuel + 1, x =>
    let (id, label) := shownAs shown rows x
    .mk id label
      ((linked.filter fun p => p.2 == some x).map fun p => expand shown rows linked fuel p.1.id)

/-- The displayed forest of a page of rows, each id shown by `shown`, a walk up the parents
coming back to a row at an id `same` as the row's. -/
def build (shown : κ → Json) (same : κ → κ → Bool) (rows : List (Row κ)) :
    Except Fault (List Tree) :=
  if rows.isEmpty then .error .emptyTree else
  -- the table, the breakers and each row's link are computed once, not at every use
  let table := pageParents rows
  let broken := breakers same rows
  -- each row that closes a cycle is reported by its id, which must be written as a text
  if !broken.all fun x => (shown x).writable then .error .tooManyDigitsToWrite else
  let linked := rows.map fun r => (r, linkIn table broken r.id)
  let tops := linked.filter fun p => p.2 == none
  if tops.isEmpty then .error .emptyTree
  else .ok (tops.map fun p => expand shown rows linked (rows.length + 1) p.1.id)

/-- The distinct keys of a list, in the order of their first occurrence. -/
def distinctKeys (keys : List Key) : List Key :=
  keys.foldl (fun seen k => if seen.contains k then seen else seen ++ [k]) []

/-- The position of a key among `keys`, or the length of `keys` for a key that is not there. -/
def keyIndex (keys : List Key) (k : Key) : Nat := keys.findIdx (· == k)

/-- The rows of a page with each id and parent replaced by the position of its key among the
distinct ids; a parent that is no id gets the position just past them. -/
def indexRows (keys : List Key) (rows : List (Row Json)) : List (Row Nat) :=
  rows.map fun r => ⟨keyIndex keys ⟨r.id⟩, r.label, r.parent.map fun p => keyIndex keys ⟨p⟩⟩

/-- The displayed forest of a page whose ids are any values, compared as keys. An empty page is
refused first; then the first id that cannot be a key; then the first parent that cannot be
one. The rows are built with ids replaced by the positions of their keys, which are one key
exactly when they are one position; the walk up the parents compares positions but never finds
a NaN id the same as itself, and a node shows the id of the last row of its key. A row that
closes a cycle is reported by that id too: ids of one key hold the same integers, since no float
or truth value equals an integer of more digits than `maxIntDigits`. -/
def buildKeyed (rows : List (Row Json)) : Except Fault (List Tree) :=
  if rows.isEmpty then .error .emptyTree else
  match rows.findSome? (·.id.hashFault?), rows.findSome? (·.parent.bind Json.hashFault?) with
  | some f, _ => .error f
  | none, some f => .error f
  | none, none =>
    let keys := distinctKeys (rows.map fun r => ⟨r.id⟩)
    let indexed := indexRows keys rows
    let shown := fun (i : Nat) =>
      ((indexed.zip rows).reverse.find? (·.1.id == i)).elim Json.null (·.2.id)
    let same := fun (i j : Nat) => i == j && (keys.getD i ⟨.null⟩).equals (keys.getD j ⟨.null⟩)
    build shown same indexed

end Forest

end Arbor
