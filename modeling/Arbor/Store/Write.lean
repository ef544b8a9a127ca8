import Arbor.Store.Basic

/-!
# Writes of the store

A write of the store is a program over it (`StoreM`): it reads the store, may fail, and writes
the nodes and the id counter. Each write makes all its checks first, on the store as it found
it, and only then takes an id or writes nodes, which cannot fail; so a write that fails has
written nothing. The SQL backend also runs each write in a transaction (`transaction`), which a
failure rolls back, the id counter included.

* `createM` checks that the store can be reached, the label, that a named parent is stored, and
  that the backend can write the row (`keepFound`); then it takes the next id and appends the
  node.
* `updateM` checks the label, that the node is stored, and for a new parent that it is not the
  node itself, that it is stored and that it is not below the node (`findNewParent`); then it
  rewrites the node's label and parent.
* `deleteM` checks that the node is stored and finds its subtree (`subtreeOf`); then it removes
  every node of the subtree. The memory backend deletes them one at a time and the SQL backend
  in one statement; the ids are stored ones, each once, so either way exactly those nodes go.

`Store.create`, `Store.update` and `Store.delete` are what the writes answer: the result with the
store left, or the fault.
-/

set_option autoImplicit false

namespace Arbor

/-- A program over the store: it may fail, and it leaves a store either way. -/
abbrev StoreM := EStateM Fault Store

namespace Store

/-- A step that reads the store and writes nothing: the answer or the fault of `f`. -/
def read {α : Type} (f : Store → Except Fault α) : StoreM α := fun s =>
  match f s with
  | .ok a => .ok a s
  | .error e => .error e s

/-- Take the next id; the counter moves past it. -/
def takeId : StoreM Int := fun s => .ok s.nextId { s with nextId := s.nextId + 1 }

/-- Write the stored nodes anew. -/
def writeNodes (f : List Node → List Node) : StoreM Unit := fun s =>
  .ok () { s with nodes := f s.nodes }

/-- Run a write as the backend does: the SQL backend in a transaction, which a failure rolls back
to the store it began with. -/
def transaction {α : Type} (w : StoreM α) : StoreM α := fun s =>
  match s.backend, w s with
  | .sql, .error e _ => .error e s
  | _, r => r

/-- Create a node under the node named `parent` (or as a root); the answer is its id. -/
def createM (label : Json) (parent : Option Json) : StoreM Int := transaction do
  let label ← read fun s => do
    s.reach
    validateLabel label
  let found ← read (·.findParent parent)
  let kept ← read (·.keepFound label found)
  let id ← takeId
  writeNodes (· ++ [⟨id, label, kept⟩])
  pure id

/-- Give the node named `ref` a new label and a new parent (none makes it a root). -/
def updateM (ref label : Json) (parent : Option Json) : StoreM Unit := transaction do
  let label ← read fun s => do
    s.reach
    validateLabel label
  let node ← read (·.named ref false (.nodeNotFound "node not found"))
  let found ← read (·.findNewParent ref node parent)
  let kept ← read (·.keepFound label found)
  writeNodes (·.map fun n => if n.id == node.id then ⟨n.id, label, kept⟩ else n)

/-- Delete the node named `ref` with all its descendants; the answer is how many nodes went. -/
def deleteM (ref : Json) : StoreM Nat := transaction do
  let node ← read fun s => do
    s.reach
    s.named ref false (.nodeNotFound "node not found")
  let gone ← read (·.subtreeOf ref node.id)
  writeNodes (·.filter fun n => !gone.contains n.id)
  pure gone.length

end Store

/-- What a program answers when run on `s`: its result with the store it leaves, or its
fault. -/
def StoreM.answer {α : Type} (w : StoreM α) (s : Store) : Except Fault (α × Store) :=
  match w s with
  | .ok a s' => .ok (a, s')
  | .error e _ => .error e

namespace Store

/-- What a create answers: the new node's id and the store, or the fault. -/
def create (s : Store) (label : Json) (parent : Option Json) : Except Fault (Int × Store) :=
  (createM label parent).answer s

/-- What an update answers: the store, or the fault. -/
def update (s : Store) (ref label : Json) (parent : Option Json) : Except Fault Store :=
  ((updateM ref label parent).answer s).map Prod.snd

/-- What a delete answers: how many nodes went and the store, or the fault. -/
def delete (s : Store) (ref : Json) : Except Fault (Nat × Store) :=
  (deleteM ref).answer s

end Store

end Arbor
