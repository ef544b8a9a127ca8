import Arbor.Cache.Server
import Arbor.Cache.Key
import Arbor.Cache.Stats
import Arbor.Page.Codec
import Arbor.Json.Reader
import Arbor.Json.Writer
import Arbor.Number

/-!
# The remote page cache

A `RemoteCache` keeps pages as JSON text on a key-value server, written with a whole number of
seconds to live. It reaches the server through a `Client`, the commands it sends over the
server's state; the service's server is `Server`, reached through `Server.client`. It never lets
an error of the server's own family reach its caller, except when it is set up: reads that fail
count as misses, and writes and invalidations that fail are given up. Any other fault of the
server (`Refusal.fault`) passes through every operation unchanged, and the operation then changes
nothing more. Neither does a page whose key cannot be written (`cacheKey`): `get` and `put`
report it before they send anything.

* `get` counts a hit when the stored value is a text that reads as JSON and decodes as a page.
  A missing value, one that counts as false or is no text at all, a failed read, text that is
  not JSON, or a document with a missing key or a value of the wrong kind counts as a miss. A
  document that is not an object at all, and JSON beyond the reader's limits (an integer of too
  many digits, too deep a nesting), is reported to the caller and counts as neither.
* `put` stores the page's document as JSON text, non-ASCII code points written as they are. A
  document with more than `nesting` arrays and objects open at once, or with an integer of more
  than `maxIntDigits` digits, is reported to the caller and not stored; `get` reads no deeper
  either. How deep that is depends on how deep in the
  service the cache is used: every call between takes a level (`deeper`).
* `invalidate` scans for the keys of the page cache, 100 at a time, and deletes each batch, until
  the scan reports its last batch or the server fails.
* `setTtl` takes the integer the new value converts to, texts included, and at least one.
-/

set_option autoImplicit false

namespace Arbor

/-- The commands of a key-value server as the remote cache sends them, over the server's state
`σ`: each answers, or is refused. An invalidation that starts at state `s` scans at most
`rounds s` batches. -/
structure Client (σ : Type) where
  ping : σ → Except Refusal Unit
  read : σ → Text → Except Refusal (Option Json)
  setex : σ → Text → Int → Text → Except Refusal σ
  scan : σ → Nat → Text → Nat → Except Refusal (Nat × List Text)
  remove : σ → List Text → Except Refusal σ
  info : σ → Except Refusal Text
  dbsize : σ → Except Refusal Nat
  rounds : σ → Nat

/-- The commands of the service's key-value server. An invalidation scans at most two batches more
than the server has keys. -/
def Server.client : Client Server where
  ping := Server.ping
  read := Server.read
  setex := Server.setex
  scan := Server.scan
  remove := Server.remove
  info := Server.info
  dbsize := Server.dbsize
  rounds s := s.entries.length + 2

/-- The remote cache's own state: the time-to-live in seconds, its counters, and how many arrays
and objects it may have open at once when it writes or reads a page. -/
structure RemoteCache where
  ttl : Int
  hits : Nat
  misses : Nat
  nesting : Nat
  deriving Inhabited

namespace RemoteCache

variable {σ : Type} (cl : Client σ)

/-- The most arrays and objects open at once that the cache writes and reads when it is called
directly. -/
def directNesting : Nat := 987

/-- A cache writing entries for the whole seconds that `ttl` converts to (`Json.toInt`). -/
def create (ttl : Json) : Except Fault RemoteCache := do
  pure ⟨← ttl.toInt, 0, 0, directNesting⟩

/-- The cache as used `calls` calls deeper: it writes and reads that many levels less deep. -/
def deeper (c : RemoteCache) (calls : Nat) : RemoteCache := { c with nesting := c.nesting - calls }

/-- The answer of a command: an error of the server's family stays an answer, any other fault is
the caller's. -/
def absorb {α : Type} : Except Refusal α → Except Fault (Except Text α)
  | .ok a => .ok (.ok a)
  | .error (.family e) => .ok (.error e)
  | .error (.fault f) => .error f

/-- Check that the server answers. -/
def probe (server : σ) : Except Fault Unit := do
  match ← absorb (cl.ping server) with
  | .ok () => pure ()
  | .error e => throw (.cacheDegraded (Text.ofString "Redis unreachable: " ++ e))

/-- How a stored value reads: a page, a miss, or a fault to report. -/
def decode (c : RemoteCache) (data : Option Json) : Except Fault (Option Page) :=
  match data with
  | some (.str text) =>
    if text.isEmpty then .ok none else
    match Json.readWithin c.nesting text with
    | .error ⟨.tooManyDigits count, _⟩ => .error (.tooManyDigits count)
    | .error ⟨.tooDeep inObject, _⟩ => .error (.nestingTooDeep inObject)
    | .error _ => .ok none
    | .ok doc =>
      match Page.ofJson? doc with
      | .ok p => .ok (some p)
      | .error (.notAnObject kind) => .error (.notAnObject kind)
      | .error _ => .ok none
  | _ => .ok none

/-- Read page `page` of `pageSize` rows. -/
def get (c : RemoteCache) (server : σ) (page pageSize : Json) :
    Except Fault (Option Page × RemoteCache) := do
  match ← absorb (cl.read server (← cacheKey page pageSize)) with
  | .error _ => pure (none, { c with misses := c.misses + 1 })
  | .ok data =>
    match ← c.decode data with
    | some p => pure (some p, { c with hits := c.hits + 1 })
    | none => pure (none, { c with misses := c.misses + 1 })

/-- Store page `p` as page `page` of `pageSize` rows. The key is computed first and then the
page's JSON text; a page nested too deep to write, or holding an integer too long to write, is
reported. -/
def put (c : RemoteCache) (server : σ) (page pageSize : Json) (p : Page) :
    Except Fault σ := do
  let key ← cacheKey page pageSize
  let doc := p.toJson
  match doc.writeFault c.nesting false with
  | some .tooDeep => throw .writingTooDeep
  | some .tooManyDigits => throw .tooManyDigitsToWrite
  | some .nonFinite | none =>
    match ← absorb (cl.setex server key c.ttl (doc.write false)) with
    | .ok s => pure s
    | .error _ => pure server

/-- Delete the keys of the page cache, batch by batch, for at most `rounds` batches. -/
def sweep (server : σ) (cursor : Nat) : Nat → Except Fault σ
  | 0 => .ok server
  | rounds + 1 => do
    match ← absorb (cl.scan server cursor keyPrefix 100) with
    | .error _ => pure server
    | .ok (next, keys) =>
      let deleted ←
        if keys.isEmpty then pure (.ok server) else absorb (cl.remove server keys)
      match deleted with
      | .error _ => pure server
      | .ok s => if next == 0 then pure s else sweep s next rounds

/-- Delete every key of the page cache. -/
def invalidate (server : σ) : Except Fault σ :=
  sweep cl server 0 (cl.rounds server)

/-- Set the time-to-live to the integer that `ttl` converts to (`Json.toInt`), at least one. -/
def setTtl (c : RemoteCache) (ttl : Json) : Except Fault RemoteCache := do
  pure { c with ttl := max 1 (← ttl.toInt) }

/-- The memory figure and the number of keys, asked in that order; `none` when the server does
not answer. -/
def usage (server : σ) : Except Fault (Option (Text × Nat)) := do
  match ← absorb (cl.info server) with
  | .error _ => pure none
  | .ok m =>
    match ← absorb (cl.dbsize server) with
    | .error _ => pure none
    | .ok n => pure (some (m, n))

/-- The statistics report; without an answer from the server it shows no keys and no memory
figure. -/
def stats (c : RemoteCache) (server : σ) : Except Fault Json := do
  let (size, memory) : Int × Json :=
    match ← usage cl server with
    | some (m, n) => (n, Json.str m)
    | none => (0, Json.text "N/A")
  pure <| Json.record [("backend", .text "redis"), ("db_size", .int size), ("memory_used", memory),
    ("hits", .int c.hits), ("misses", .int c.misses),
    ("hit_rate", .text (hitRate c.hits c.misses)), ("ttl_seconds", .int c.ttl)]

end RemoteCache

end Arbor
