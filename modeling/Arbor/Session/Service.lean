import Arbor.Session.Cache
import Arbor.Service.Basic

/-!
# Scripted service sessions

A service session runs a script of `ServiceStep`s against one service and a clock: the service's
own operations, a direct listing of the store, and every cache step on the service's cache.
-/

set_option autoImplicit false

namespace Arbor

/-- One step of a service script. -/
inductive ServiceStep where
  | create (label : Json) (parent : Option Json)
  | getNode (ref : Json)
  | update (ref : Json) (label : Json) (parent : Option Json)
  | delete (ref : Json)
  | getPage (page pageSize : Json)
  /-- the store's own listing, past the cache -/
  | listPage (page pageSize : Json)
  | clearCache
  | ping
  /-- a step on the service's cache -/
  | onCache (step : CacheStep)
  deriving Inhabited

/-- A service and the clock reading. -/
structure ServiceSession where
  service : Service
  now : Json
  deriving Inhabited

namespace ServiceSession

/-- The session's answer for an operation of the service. -/
def answer {α : Type} (ss : ServiceSession) (r : Outcome α) (f : α → Json) :
    StepOutcome ServiceSession :=
  ({ ss with service := r.2 }, r.1.map fun a => .value (f a))

/-- Run one step. -/
def run (ss : ServiceSession) : ServiceStep → StepOutcome ServiceSession
  | .create label parent => ss.answer (ss.service.createNode label parent) NodeView.toJson
  | .getNode ref => ss.answer (ss.service.getNode ref) Node.toJson
  | .update ref label parent =>
    ss.answer (ss.service.updateNode ref label parent) NodeView.toJson
  | .delete ref => ss.answer (ss.service.deleteNode ref) fun n => .int n
  | .getPage page pageSize => ss.answer (ss.service.getPage ss.now page pageSize) Page.toJson
  | .listPage page pageSize =>
    (ss, (ss.service.store.listPage page pageSize).map fun (rows, total) =>
      .value (Json.record [("rows", .arr (rows.map Node.toJson)), ("total", .int total)]))
  | .clearCache => ss.answer ss.service.clearCache fun _ => .null
  | .ping => (ss, .ok (.value (.bool true)))
  | .onCache step =>
    let (cs, r) := CacheSession.run ⟨ss.service.cache, ss.now⟩ step
    ({ service := { ss.service with cache := cs.cache }, now := cs.now }, r)

end ServiceSession

end Arbor
