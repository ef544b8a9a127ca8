import Arbor.Service.Basic

set_option autoImplicit false

/-! # Runs of the tree service

A run is a list of calls, each made when the clock shows its own reading. The calls are those of
the service — read a page, read a node, create, update or delete a node, drop the cache, report
the cache's statistics — with arguments of the types the service's interface declares: pages,
page sizes and ids are integers. Two more calls are made on the service's cache directly: a new
time-to-live, and dropping every entry.
-/

namespace Arbor

/-- A call of the tree service, or one made on its cache directly (the last two). -/
inductive Call where
  | getPage (page pageSize : Int)
  | getNode (id : Int)
  | createNode (label : Json) (parent : Option Int)
  | updateNode (id : Int) (label : Json) (parent : Option Int)
  | deleteNode (id : Int)
  | clearCache
  | cacheStats
  | setTtl (ttl : Json)
  | invalidateCache

namespace Service

/-- The service after the call `c`, made when the clock reads `now`. -/
def call (sv : Service) (now : Json) : Call → Service
  | .getPage p s => (sv.getPage now (.int p) (.int s)).2
  | .getNode i => (sv.getNode (.int i)).2
  | .createNode label parent => (sv.createNode label (parent.map .int)).2
  | .updateNode i label parent => (sv.updateNode (.int i) label (parent.map .int)).2
  | .deleteNode i => (sv.deleteNode (.int i)).2
  | .clearCache => sv.clearCache.2
  | .cacheStats => sv
  | .setTtl ttl => { sv with cache := (sv.cache.setTtl now ttl).1 }
  | .invalidateCache =>
    match sv.cache.invalidate with
    | .ok cache => { sv with cache }
    | .error _ => sv

/-- The service after a run of calls, each made at its own clock reading. -/
def run (sv : Service) (calls : List (Json × Call)) : Service :=
  calls.foldl (fun sv c => sv.call c.1 c.2) sv

@[simp] theorem run_nil (sv : Service) : sv.run [] = sv := rfl

@[simp] theorem run_cons (sv : Service) (c : Json × Call) (calls : List (Json × Call)) :
    sv.run (c :: calls) = (sv.call c.1 c.2).run calls := rfl

end Service

end Arbor
