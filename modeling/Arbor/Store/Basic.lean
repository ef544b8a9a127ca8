import Arbor.Store.Subtree
import Arbor.Store.Param

/-!
# The node store

A `Store` holds the stored nodes in ascending id order and the next id it hands out. Ids start
at 1 and are never handed out twice, even after the node that had one is deleted.

This module has what the store reads: lookups, pages, and the checks its writes make
(`Arbor.Store.Write` has the writes themselves). The writes check the service's rules in a fixed
order, so that the first broken rule decides the fault:

* a label must not be empty (`Json.isFalsy`) and must have at most 100 parts, code points of a
  text or items of an array or object; a number or truth value has no length and is refused
  (`validateLabel`);
* a parent must be stored;
* a node cannot become its own parent, nor the child of one of its descendants.

A store comes in two backends that answer alike except where the SQL backend's 64-bit columns
show: an id, parent or page size outside the signed 64-bit range that reaches a query is
refused with `intTooLargeForStore` instead of simply not being found, a label holding a lone
surrogate cannot be written as UTF-8, a label that is no text cannot be written at all, and a
page that starts at or after the last row is empty before any query runs. The two find the
subtree of a node each in its own way (`subtreeOf`): the memory backend by a breadth-first
search, the SQL backend by a recursive query.

A page is asked for by values of any kind (`pageOffset`): below 1 is no page, otherwise the
offset is `(page - 1) * pageSize`, computed as the service's arithmetic does. The memory backend
cuts its list of nodes at the offset and the offset plus the page size, which must then be
integers; the SQL backend takes the integer parts of the page size and of the offset.

A node is named by a value of any kind (`Store.locate`). The memory backend finds the node whose
id the value equals as a key: `1.0` and `true` name node 1, a text names no node, and an array
or an object cannot be looked up at all. The SQL backend binds the value as a query parameter
(`Param.ofKey`), so that there the text `"1"` names node 1 as well. A new parent is kept as it
was named by the memory backend and as the integer it names by the SQL backend.

Whether a new parent is the node itself is decided on the two names as given (`Json.eq`), and
whether it lies below the node by comparing its name as a key with the ids of the node's
subtree: on the SQL backend a text naming a descendant is not caught, and the node's parent
link then closes a cycle.

A store can also be unreachable, and then every operation fails with `storeUnavailable`.
-/

set_option autoImplicit false

namespace Arbor

/-- Where the nodes are kept. -/
inductive Backend where
  /-- in the service's own memory -/
  | memory
  /-- in an SQL database with signed 64-bit integer columns and UTF-8 texts -/
  | sql
  deriving DecidableEq, Inhabited

/-- The longest label, in code points. -/
def maxLabelLength : Nat := 100

/-- A label as the store accepts it: not empty, and of at most `maxLabelLength` parts. -/
def validateLabel (label : Json) : Except Fault Json :=
  if label.isFalsy then .error (.invalidInput "label must not be empty")
  else match label.length? with
    | none => .error (.noLength label.kindName)
    | some n =>
      if n > maxLabelLength then
        .error (.invalidInput ("label must be at most " ++ toString maxLabelLength ++
          " characters"))
      else .ok label

/-- The position of the first row of a page, or `none` when the page or its size is below 1. -/
def pageOffset (page pageSize : Json) : Except Fault (Option Num) := do
  if ← Json.relate .lt page (.int 1) then return none
  if ← Json.relate .lt pageSize (.int 1) then return none
  let before ← Json.arith .sub page (.int 1)
  some <$> Json.arith .mul before.toJson pageSize

/-- The stored nodes and the id counter. -/
structure Store where
  backend : Backend
  /-- the stored nodes, ascending by id -/
  nodes : List Node
  /-- the id the next created node gets -/
  nextId : Int
  /-- whether the store can be reached -/
  reachable : Bool
  deriving Inhabited

namespace Store

/-- An empty, reachable store of the given backend. -/
def empty (backend : Backend) : Store := ⟨backend, [], 1, true⟩

/-- An integer on its way into a query: the SQL backend refuses one outside 64 bits. -/
def bind (s : Store) (v : Int) : Except Fault Unit :=
  if s.backend == .sql && !fitsColumn v then .error .intTooLargeForStore else .ok ()

/-- A label on its way into the SQL backend, which keeps texts as UTF-8 and nothing else. -/
def bindLabel (s : Store) (label : Json) : Except Fault Unit :=
  if s.backend == .sql then
    match label with
    | .str t =>
      match Codec.utf8.firstRefused t.points with
      | some (point, first, last) => .error (.notEncodable .utf8 point first last)
      | none => .ok ()
    | _ => .error (.storeUnavailable "Tree store unavailable")
  else .ok ()

/-- Every operation first needs the store to be reachable. -/
def reach (s : Store) : Except Fault Unit :=
  if s.reachable then .ok () else .error (.storeUnavailable "down")

/-- The stored node with id `id`. -/
def find? (s : Store) (id : Int) : Option Node := s.nodes.find? (·.id == id)

/-- Whether a node with id `id` is stored. -/
def contains (s : Store) (id : Int) : Bool := s.nodes.any (·.id == id)

/-- The stored node that `ref` names, if one does; `cached` tells the SQL backend whether its
lookup may be answered from the nodes already loaded. -/
def locate (s : Store) (ref : Json) (cached : Bool) : Except Fault (Option Node) :=
  match s.backend with
  | .memory =>
    match ref.hashFault? with
    | some f => .error f
    | none => .ok (s.nodes.find? fun n => (Json.int n.id).equal ref)
  | .sql => do
    let p ← Param.ofKey ref cached
    pure (s.nodes.find? fun n => p.selects n.id)

/-- The node that `ref` names, or `fault` when none does. -/
def named (s : Store) (ref : Json) (cached : Bool) (fault : Fault) : Except Fault Node := do
  match ← s.locate ref cached with
  | some n => pure n
  | none => throw fault

/-- A parent named `ref` on its way into the store, where it names node `id`: the SQL backend
binds it and keeps the integer, the memory backend keeps it as named. -/
def keepParent (s : Store) (ref : Json) (id : Int) : Except Fault Json :=
  match s.backend with
  | .sql => do
    let _ ← Param.ofJson ref
    pure (.int id)
  | .memory => pure ref

/-- The subtree of the node named `ref`, stored as node `id`: the memory backend searches its
child index breadth first, the SQL backend asks its recursive query, binding `ref` itself. -/
def subtreeOf (s : Store) (ref : Json) (id : Int) : Except Fault (List Int) :=
  match s.backend with
  | .memory => pure (subtreeIds s.nodes id)
  | .sql => do
    let _ ← Param.ofJson ref
    pure (cteIds s.nodes id)

/-- The parent a write names, once found: its name as given and the id of the stored node it
names. -/
def findParent (s : Store) : Option Json → Except Fault (Option (Json × Int))
  | none => pure none
  | some p => do
    let n ← s.named p true (.nodeNotFound "parent node not found")
    pure (some (p, n.id))

/-- The new parent of the node `node`, named `ref`, once checked: it is not the node itself, it
is stored, and it is not below the node. -/
def findNewParent (s : Store) (ref : Json) (node : Node) :
    Option Json → Except Fault (Option (Json × Int))
  | none => pure none
  | some p => do
    if p.eq ref then throw (.invalidInput "node cannot be its own parent")
    let n ← s.named p true (.nodeNotFound "parent node not found")
    let below ← s.subtreeOf ref node.id
    if let some f := p.hashFault? then throw f
    if below.any fun d => (Json.int d).equal p then
      throw (.invalidInput "parent cannot be a descendant of the node")
    pure (some (p, n.id))

/-- A row on its way into the store, once the backend has bound its values: the label first,
then the parent found, kept as the backend keeps it. -/
def keepFound (s : Store) (label : Json) (found : Option (Json × Int)) :
    Except Fault (Option Json) := do
  s.bindLabel label
  match found with
  | none => pure none
  | some (p, k) => some <$> s.keepParent p k

/-- The stored node named `ref`. -/
def get (s : Store) (ref : Json) : Except Fault Node := do
  s.reach
  s.named ref true (.nodeNotFound "node not found")

/-- The rows of page `page` of `pageSize` rows in ascending id order, and the number of stored
nodes. -/
def listPage (s : Store) (page pageSize : Json) : Except Fault (List Node × Nat) := do
  s.reach
  let total := s.nodes.length
  match ← pageOffset page pageSize with
  | none => pure ([], total)
  | some offset =>
    match s.backend with
    | .sql =>
      if offset.ge (.int total) then pure ([], total)
      else
        let limit ← pageSize.toInt
        let start ← offset.truncate
        s.bind limit
        pure ((s.nodes.drop start.toNat).take limit.toNat, total)
    | .memory =>
      match offset, ← Json.arith .add offset.toJson pageSize with
      | .int start, .int stop => pure ((s.nodes.drop start.toNat).take (stop - start).toNat, total)
      | _, _ => throw .sliceIndex

/-- Close the store. The memory backend forgets every node but keeps counting, so no id is handed
out twice; the SQL backend only releases its connections, and the database keeps its rows. -/
def close (s : Store) : Store :=
  match s.backend with
  | .memory => { s with nodes := [] }
  | .sql => s

end Store

end Arbor
