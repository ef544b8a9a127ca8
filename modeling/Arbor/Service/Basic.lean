import Arbor.Store.Write
import Arbor.Cache.Basic
import Arbor.Forest.Build
import Arbor.Page.Codec
import Arbor.Json.Display

/-!
# The tree service

A `Service` joins a node store and a page cache. Reading a page goes through the cache; every
successful change of the store drops the whole cache, because inserting or deleting one row
shifts rows across all later pages. A change that fails leaves the cache as it was, and the
store as the write left it; a change whose dropping of the cache fails keeps the change and
answers with the cache's fault. A change that succeeds is then reported in the log, with the
node's id and its parent or the number of descendants deleted written into the line: one that
holds an integer too long to write fails the report, after the change (`Service.logged`).

A page is asked for by values of any kind. It is valid when the page is at least 1 and the page
size above 0 and at most the largest allowed, checked in that order and compared as the
service compares values (`Json.relate`), so a value that is no number is refused by the
comparison itself.

Every operation answers with the service as it is afterwards, whether it succeeded or not: a
read that misses the cache and then fails has still counted its miss.
-/

set_option autoImplicit false

namespace Arbor

/-- A node store with its page cache and the largest page size it serves. -/
structure Service where
  store : Store
  cache : Cache
  maxPageSize : Json
  deriving Inhabited

/-- The outcome of an operation and the service afterwards. -/
abbrev Outcome (α : Type) := Except Fault α × Service

/-- A page request is valid when the page is at least 1 and the page size between 1 and the
largest allowed, checked in that order. -/
def validatePagination (maxPageSize page pageSize : Json) : Except Fault Unit := do
  if ← Json.relate .lt page (.int 1) then throw (.invalidInput "page must be greater than 0")
  if ← Json.relate .le pageSize (.int 0) then
    throw (.invalidInput "page size must be greater than 0")
  if ← Json.relate .gt pageSize maxPageSize then
    throw (.invalidInput ("page size cannot exceed " ++ (← maxPageSize.shown).toString))

/-- The page computed from the store alone: its rows as a forest (none when the page is empty)
and its pagination. Only the builder's `Fault.emptyTree` stands for an empty forest; any other
fault of the builder is the page's. -/
def Store.pageOf (s : Store) (page pageSize : Json) : Except Fault Page := do
  let (rows, total) ← s.listPage page pageSize
  let data ← match Forest.build Json.int (· == ·) (rows.map Node.row) with
    | .ok trees => pure trees
    | .error .emptyTree => pure []
    | .error e => throw e
  let pagination ← Pagination.compute page pageSize (.int total)
  pure { data, pagination }

/-- The calls between a caller of the service and its cache: the page request, and its own
reading or writing of the cache. A remote cache used by the service has that many levels less
room for nesting (`Cache.deeper`). -/
def cacheCalls : Nat := 2

namespace Service

/-- A service over an empty store. -/
def create (backend : Backend) (cache : Cache) (maxPageSize : Json) : Service :=
  ⟨Store.empty backend, cache.deeper cacheCalls, maxPageSize⟩

/-- Page `page` of `pageSize` rows at clock reading `now`: from the cache when it holds the page,
else computed from the store and then cached. -/
def getPage (sv : Service) (now : Json) (page pageSize : Json) : Outcome Page :=
  match validatePagination sv.maxPageSize page pageSize with
  | .error e => (.error e, sv)
  | .ok () =>
    match sv.cache.get now page pageSize with
    | .error e => (.error e, sv)
    | .ok (some p, cache) => (.ok p, { sv with cache })
    | .ok (none, cache) =>
      let sv := { sv with cache }
      match sv.store.pageOf page pageSize with
      | .error e => (.error e, sv)
      | .ok p =>
        let (cache, stored) := sv.cache.put now page pageSize p
        (stored.map fun _ => p, { sv with cache })

/-- Drop every cached page. -/
def clearCache (sv : Service) : Outcome Unit :=
  match sv.cache.invalidate with
  | .ok cache => (.ok (), { sv with cache })
  | .error e => (.error e, sv)

/-- A write of the store run on the service's store: when it succeeds the service keeps the new
store and drops the cache; when it fails the service keeps the store the write left. -/
def change {α : Type} (sv : Service) (w : StoreM α) : Outcome α :=
  match w sv.store with
  | .error e store => (.error e, { sv with store })
  | .ok a store =>
    let (dropped, sv) := clearCache { sv with store }
    (dropped.map fun _ => a, sv)

/-- An outcome whose success is reported in the log with the values `parts` of its answer
written into the line: a value holding an integer too long to write fails the report, and the
outcome with it, the service staying as it is. -/
def logged {α : Type} (o : Outcome α) (parts : α → List Json) : Outcome α :=
  match o with
  | (.ok a, sv) =>
    if (parts a).all Json.writable then (.ok a, sv) else (.error .tooManyDigitsToWrite, sv)
  | o => o

/-- Create a node under the node named `parent`; the answer is the node as requested, with its
new id. -/
def createNode (sv : Service) (label : Json) (parent : Option Json) : Outcome NodeView :=
  logged (sv.change ((fun id => (⟨.int id, label, parent⟩ : NodeView)) <$>
      Store.createM label parent))
    fun n => [n.id, n.parent.getD .null]

/-- The stored node named `ref`. -/
def getNode (sv : Service) (ref : Json) : Outcome Node := (sv.store.get ref, sv)

/-- Relabel and move the node named `ref`; the answer is the node as requested. -/
def updateNode (sv : Service) (ref : Json) (label : Json) (parent : Option Json) :
    Outcome NodeView :=
  logged (sv.change ((fun () => (⟨ref, label, parent⟩ : NodeView)) <$>
      Store.updateM ref label parent))
    fun n => [n.id, n.parent.getD .null]

/-- Delete the node named `ref` and its descendants; the answer is how many nodes went. -/
def deleteNode (sv : Service) (ref : Json) : Outcome Nat :=
  logged (sv.change (Store.deleteM ref)) fun removed => [ref, .int (removed - 1 : Int)]

end Service

end Arbor
