import Arbor.Forest.Basic

/-!
# The subtree of a node

Both backends find the ids of a node and of every node below it by following parent links
downwards, each in its own way.

The memory backend (`subtreeIds`) first indexes the stored nodes by the parent they link to
(`childIndex`), each parent with its children in store order; a node links to the integer its
parent names (`Node.link`), and a parent that names no integer is a key the search never asks
for. It then searches breadth first from the node (`search`): it takes the first id off a queue
and visits its children (`visit`), marking each one it has not seen yet and queueing it, until
the queue is empty. The ids seen are the answer.

The SQL backend (`cteIds`) asks a recursive query. Starting from the node's own id, each round
adds the ids of the rows whose parent is an id found so far and that are not found yet
(`nextRound`), until a round adds none: the least set that holds the node and every child of an
id in it.

Both stop on any data, cycles included: every id they add is a stored id not found before, so
with `n` stored nodes `n + 1` visits or rounds are always enough. That is the fuel each is
given; the walks never run out of it.
-/

set_option autoImplicit false

namespace Arbor

namespace Store

/-- Record `child` under the parent `p` of the index, after the children it already has. -/
def addChild : List (Int × List Int) → Int → Int → List (Int × List Int)
  | [], p, child => [(p, [child])]
  | (q, cs) :: rest, p, child =>
    if q == p then (q, cs ++ [child]) :: rest else (q, cs) :: addChild rest p child

/-- Each parent id that some node links to, with the ids of the nodes linked to it in store
order. -/
def childIndex (nodes : List Node) : List (Int × List Int) :=
  nodes.foldl (fun index n =>
    match n.link with
    | some p => addChild index p n.id
    | none => index) []

/-- The children of `x` in the index. -/
def childrenIn (index : List (Int × List Int)) (x : Int) : List Int := (index.lookup x).getD []

/-- Visit the children `cs`: each one not seen yet is marked seen and queued, in order. -/
def visit : List Int → List Int → List Int → List Int × List Int
  | seen, queue, [] => (seen, queue)
  | seen, queue, c :: cs =>
    if seen.contains c then visit seen queue cs else visit (seen ++ [c]) (queue ++ [c]) cs

/-- The breadth-first search with the ids `seen` so far and the `queue` still to visit: the ids
seen once the queue is empty, or `none` after `fuel` visits. -/
def search (index : List (Int × List Int)) : List Int → List Int → Nat → Option (List Int)
  | seen, [], _ => some seen
  | _, _ :: _, 0 => none
  | seen, x :: queue, fuel + 1 =>
    let (seen, queue) := visit seen queue (childrenIn index x)
    search index seen queue fuel

/-- The ids of `id` and of every node below it, as the memory backend finds them. -/
def subtreeIds (nodes : List Node) (id : Int) : List Int :=
  (search (childIndex nodes) [id] [id] (nodes.length + 1)).getD [id]

/-- One round of the recursive query: the ids of the rows linked to an id in `found`, none of
them in `found` and each once, in row order. -/
def nextRound (nodes : List Node) (found : List Int) : List Int :=
  nodes.foldl (fun new n =>
    if n.link.any found.contains && !(found ++ new).contains n.id then new ++ [n.id]
    else new) []

/-- The rounds of the recursive query from the ids `found`: the ids found once a round adds
none, or `none` after `fuel` rounds. -/
def rounds (nodes : List Node) : List Int → Nat → Option (List Int)
  | _, 0 => none
  | found, fuel + 1 =>
    match nextRound nodes found with
    | [] => some found
    | new => rounds nodes (found ++ new) fuel

/-- The ids of `id` and of every node below it, as the SQL backend's recursive query finds
them. -/
def cteIds (nodes : List Node) (id : Int) : List Int :=
  (rounds nodes [id] (nodes.length + 1)).getD [id]

end Store

end Arbor
