import Arbor.Cache.Basic
import Arbor.Page.Codec

/-!
# Scripted cache sessions

A cache session runs a script of `CacheStep`s against one cache and a clock. Each step answers
with a `Reply` or a fault, and a failing step leaves the session as the step left it, so the
script goes on. Besides the cache's own requests a script can move the clock, make a command of
the remote cache's server fail or heal it, write a raw text to the server, and list what the
server holds.

The clock is moved by adding to it in place (`Json.addAssign`). A clock that is an array stays
one array that every move extends, so a step that answers with it answers with the clock itself
(`Reply.clock`), which is read when the answers are read, at the end of the script.
-/

set_option autoImplicit false

namespace Arbor

/-- One step of a cache script. -/
inductive CacheStep where
  /-- decode the document `value` as a page and store it -/
  | put (page pageSize : Json) (value : Json)
  | read (page pageSize : Json)
  | invalidate
  | setTtl (seconds : Json)
  | stats
  | ttl
  | probe
  /-- move the clock forward by `seconds`, added in place; the answer is the new reading -/
  | advance (seconds : Json)
  /-- set a failure of the server: the command named `command` fails as `refusal` says, or
  nothing fails for none -/
  | breakCommand (command : Json) (refusal : Option Refusal)
  | heal
  /-- write a value straight to the server, under a key and with a time-to-live of any kind -/
  | rawSet (key value ttl : Json)
  /-- everything the server holds, by key -/
  | dump
  deriving Inhabited

/-- A cache and the clock reading. -/
structure CacheSession where
  cache : Cache
  now : Json
  deriving Inhabited

/-- The answer of a step: a value, or the clock itself, read at the end of the script. -/
inductive Reply where
  | value (v : Json)
  | clock
  deriving Inhabited

/-- A reply as read when the clock reads `now`. -/
def Reply.read (now : Json) : Reply → Json
  | .value v => v
  | .clock => now

/-- The reply to moving the clock to `now`: the reading itself, or the clock when it is an array
that later moves extend. -/
def Reply.ofClock : Json → Reply
  | .arr _ => .clock
  | now => .value now

/-- The answer of a step and the session afterwards. -/
abbrev StepOutcome (σ : Type) := σ × Except Fault Reply

/-- What the server holds, ordered by key; keys that refuse to be compared are reported. -/
def Server.dumpJson (s : Server) : Except Fault Json :=
  s.sortedEntries.map fun entries => .arr (entries.map fun (k, st) =>
    Json.record [("key", k.value), ("ttl", st.ttl), ("value", st.value)])

namespace CacheSession

/-- Run one step, answering with a value. -/
def step (ss : CacheSession) : CacheStep → CacheSession × Except Fault Json
  | .put page pageSize value =>
    match Page.ofJson? value with
    | .error e => (ss, .error e)
    | .ok p =>
      let (cache, stored) := ss.cache.put ss.now page pageSize p
      ({ ss with cache }, stored.map fun _ => .null)
  | .read page pageSize =>
    match ss.cache.get ss.now page pageSize with
    | .error e => (ss, .error e)
    | .ok (p, cache) => ({ ss with cache }, .ok (match p with | some p => p.toJson | none => .null))
  | .invalidate =>
    match ss.cache.invalidate with
    | .ok cache => ({ ss with cache }, .ok .null)
    | .error e => (ss, .error e)
  | .setTtl seconds =>
    let (cache, changed) := ss.cache.setTtl ss.now seconds
    ({ ss with cache }, changed.map fun _ => .null)
  | .stats => (ss, ss.cache.stats)
  | .ttl => (ss, .ok ss.cache.ttl)
  | .probe => (ss, ss.cache.probe.map fun _ => .null)
  | .advance seconds =>
    match Json.addAssign ss.now seconds with
    | .error e => (ss, .error e)
    | .ok now => ({ ss with now }, .ok now)
  | .breakCommand c r =>
    match ss.cache.tryServer (·.breakCommand c r) with
    | .ok cache => ({ ss with cache }, .ok .null)
    | .error e => (ss, .error e)
  | .heal => ({ ss with cache := ss.cache.mapServer Server.heal }, .ok .null)
  | .rawSet key value ttl =>
    match ss.cache.tryServer (·.write key value ttl) with
    | .ok cache => ({ ss with cache }, .ok .null)
    | .error e => (ss, .error e)
  | .dump => (ss, match ss.cache.server? with | some s => s.dumpJson | none => .ok (.arr []))

/-- Run one step. -/
def run (ss : CacheSession) (c : CacheStep) : StepOutcome CacheSession :=
  let (ss, r) := ss.step c
  match c with
  | .advance _ => (ss, r.map Reply.ofClock)
  | _ => (ss, r.map Reply.value)

end CacheSession

end Arbor
