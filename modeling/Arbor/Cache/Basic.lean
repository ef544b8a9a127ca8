import Arbor.Cache.Memory
import Arbor.Cache.Remote

/-!
# Page caches

A `Cache` is either the in-memory cache or the remote cache together with its server. Both
answer the same requests: read a page, store a page, drop every page, change the time-to-live,
report statistics, and check on start-up that they can be reached.
-/

set_option autoImplicit false

namespace Arbor

/-- A page cache of either kind. -/
inductive Cache where
  | memory (c : MemoryCache)
  | remote (c : RemoteCache) (server : Server)
  deriving Inhabited

namespace Cache

/-- Read page `page` of `pageSize` rows at clock reading `now`. -/
def get (c : Cache) (now : Json) (page pageSize : Json) : Except Fault (Option Page × Cache) :=
  match c with
  | memory m => do
    let (r, m) ← m.get now page pageSize
    pure (r, memory m)
  | remote r s => do
    let (p, r) ← r.get Server.client s page pageSize
    pure (p, remote r s)

/-- Store page `p` as page `page` of `pageSize` rows at clock reading `now`: the cache
afterwards, and the fault if storing failed. -/
def put (c : Cache) (now : Json) (page pageSize : Json) (p : Page) :
    Cache × Except Fault Unit :=
  match c with
  | memory m => let (m, r) := m.put now page pageSize p; (memory m, r)
  | remote r s =>
    match r.put Server.client s page pageSize p with
    | .ok s => (remote r s, .ok ())
    | .error e => (remote r s, .error e)

/-- Drop every page. -/
def invalidate : Cache → Except Fault Cache
  | memory m => .ok (memory m.invalidate)
  | remote r s => (RemoteCache.invalidate Server.client s).map (remote r)

/-- Change the time-to-live at clock reading `now`: the cache afterwards, and the fault if the
change failed part way. -/
def setTtl (c : Cache) (now : Json) (ttl : Json) : Cache × Except Fault Unit :=
  match c with
  | memory m => let (m, r) := m.setTtl now ttl; (memory m, r)
  | remote r s =>
    match r.setTtl ttl with
    | .ok r => (remote r s, .ok ())
    | .error e => (c, .error e)

/-- The statistics report. -/
def stats : Cache → Except Fault Json
  | memory m => .ok m.stats
  | remote r s => r.stats Server.client s

/-- The time-to-live in force. -/
def ttl : Cache → Json
  | memory m => m.ttl
  | remote r _ => .int r.ttl

/-- Check on start-up that the cache can be reached. -/
def probe : Cache → Except Fault Unit
  | memory _ => .ok ()
  | remote _ s => RemoteCache.probe Server.client s

/-- The name of the cache's kind in reports. -/
def backendName : Cache → String
  | memory _ => "in-memory"
  | remote _ _ => "redis"

/-- The server of a remote cache changed by `f`; an in-memory cache has none. -/
def mapServer (f : Server → Server) : Cache → Cache
  | memory m => memory m
  | remote r s => remote r (f s)

/-- The server of a remote cache changed by `f`, which may refuse; an in-memory cache has no
server and stays as it is. -/
def tryServer (f : Server → Except Fault Server) : Cache → Except Fault Cache
  | memory m => .ok (memory m)
  | remote r s => (f s).map (remote r)

/-- The cache as used `calls` calls deeper: a remote cache writes and reads that many levels of
nesting less deep (`RemoteCache.deeper`). -/
def deeper (calls : Nat) : Cache → Cache
  | memory m => memory m
  | remote r s => remote (r.deeper calls) s

/-- The server of a remote cache. -/
def server? : Cache → Option Server
  | memory _ => none
  | remote _ s => some s

end Cache

end Arbor
