import Arbor.Page.Basic
import Arbor.Cache.Key
import Arbor.Cache.Stats
import Arbor.Number

/-!
# The in-memory page cache

A `MemoryCache` keeps pages under their keys, each with the clock reading at which it expires,
in the order of their latest writes, oldest first. Reading the clock is the caller's: every
operation that looks at time takes the current reading `now`. A reading is a value of any kind,
as is the time-to-live: an expiry is `now + ttl` as the service adds values (`Json.add`), and
readings are compared as the service compares values (`Json.relate`), so texts and arrays serve
as readings too, and a comparison between kinds that refuse it is reported.

* `get` answers a page while `now` is before its expiry, and counts a hit. Otherwise it counts a
  miss, and an entry whose expiry has passed is dropped. Reads never reorder entries; a read
  whose comparison is refused changes nothing.
* `put` stores a page to expire at `now + ttl`. A key already present moves to the newest place.
  A new key into a full cache — one holding at least `capacity` entries — first evicts the
  oldest entry, expired or not; a cache whose capacity is zero or less is always full and has
  nothing to evict, so the write fails. The capacity is a value of any kind, compared as the
  service compares values (`Json.relate`): one that is not a number refuses the comparison, and
  `NaN` is never reached.
* `setTtl` changes the time-to-live and gives every stored entry the expiry `now + ttl`.
* `invalidate` drops every entry.

`get` and `put` first compute the page's key (`cacheKey`); a page or page size whose key cannot
be written is refused before the cache is looked at, and the cache stays as it was.

Writing can fail part way, when `now + ttl` has no value (values that cannot be added, or an
integer too large for a float): `put` has then already made room, and `setTtl` has already
changed the time-to-live. Both return the cache as it is left together with the fault.
-/

set_option autoImplicit false

namespace Arbor

/-- A cached page and the clock reading at which it expires. -/
structure Entry where
  page : Page
  expiresAt : Json
  deriving Inhabited

/-- The in-memory cache. -/
structure MemoryCache where
  /-- the entries under their keys, oldest write first -/
  entries : List (Text × Entry)
  /-- the time-to-live of new entries -/
  ttl : Json
  /-- the most entries kept, compared with the count of entries -/
  capacity : Json
  hits : Nat
  misses : Nat
  deriving Inhabited

namespace MemoryCache

/-- An empty cache. -/
def empty (ttl capacity : Json) : MemoryCache := ⟨[], ttl, capacity, 0, 0⟩

/-- The entry under `key`. -/
def entry? (c : MemoryCache) (key : Text) : Option Entry := c.entries.lookup key

/-- The entries without the one under `key`. -/
def without (entries : List (Text × Entry)) (key : Text) : List (Text × Entry) :=
  entries.filter (·.1 != key)

/-- Read page `page` of `pageSize` rows at clock reading `now`. -/
def get (c : MemoryCache) (now : Json) (page pageSize : Json) :
    Except Fault (Option Page × MemoryCache) := do
  let key ← cacheKey page pageSize
  match c.entry? key with
  | some e => do
    if ← Json.relate .lt now e.expiresAt then pure (some e.page, { c with hits := c.hits + 1 })
    else
      let expired ← Json.relate .ge now e.expiresAt
      let entries := if expired then without c.entries key else c.entries
      pure (none, { c with entries, misses := c.misses + 1 })
  | none => pure (none, { c with misses := c.misses + 1 })

/-- The entries once room is made for `key`: an entry already under `key` moves to the newest
place; otherwise a full cache loses its oldest entry, and an empty one that counts as full has
none to lose. -/
def makeRoom (c : MemoryCache) (key : Text) : Except Fault (List (Text × Entry)) := do
  match c.entry? key with
  | some e => pure (without c.entries key ++ [(key, e)])
  | none =>
    if ← Json.relate .ge (.int c.entries.length) c.capacity then
      match c.entries with
      | [] => throw .evictFromEmpty
      | _ :: rest => pure rest
    else pure c.entries

/-- Store `p` as page `page` of `pageSize` rows at clock reading `now`. Room is made first, so
when the expiry `now + ttl` cannot be computed the cache keeps that change, without the page. -/
def put (c : MemoryCache) (now : Json) (page pageSize : Json) (p : Page) :
    MemoryCache × Except Fault Unit :=
  match cacheKey page pageSize with
  | .error e => (c, .error e)
  | .ok key =>
    match c.makeRoom key with
    | .error e => (c, .error e)
    | .ok entries =>
      match Json.add now c.ttl with
      | .error e => ({ c with entries }, .error e)
      | .ok expiresAt =>
        ({ c with entries := without entries key ++ [(key, ⟨p, expiresAt⟩)] }, .ok ())

/-- Drop every entry. -/
def invalidate (c : MemoryCache) : MemoryCache := { c with entries := [] }

/-- Set the time-to-live to `ttl` and the expiry of every entry to `now + ttl`. The
time-to-live is set first, so when the expiry cannot be computed only the entries keep theirs. -/
def setTtl (c : MemoryCache) (now : Json) (ttl : Json) : MemoryCache × Except Fault Unit :=
  match Json.add now ttl with
  | .error e => ({ c with ttl }, .error e)
  | .ok expiresAt =>
    ({ c with ttl, entries := c.entries.map fun (k, e) => (k, { e with expiresAt }) }, .ok ())

/-- The statistics report. -/
def stats (c : MemoryCache) : Json :=
  Json.record [("backend", .text "in-memory"), ("size", .int c.entries.length),
    ("max_size", c.capacity), ("hits", .int c.hits), ("misses", .int c.misses),
    ("hit_rate", .text (hitRate c.hits c.misses)), ("ttl_seconds", c.ttl)]

end MemoryCache

end Arbor
