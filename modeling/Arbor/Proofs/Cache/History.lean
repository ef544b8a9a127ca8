import Arbor.Proofs.Cache.Memory

set_option autoImplicit false

/-! # Histories of the in-memory cache

A caller of the in-memory cache makes a sequence of calls (store a page, read a page, drop every
entry, change the time-to-live, ask for the statistics), each at its own clock reading, with
pages and page sizes as the integers of the cache's interface. A `CacheHistory` lists the calls
newest first, so that the most recent call of a kind is the first one found from the front, and
the cache after a history (`MemoryCache.replay`) is the cache after its older calls, changed by
its newest one. A call that fails leaves the cache as the call left it: a put that cannot compute
its expiry has already made room, and a change of the time-to-live that cannot has already set
it.

Every call keeps the capacity (`call_capacity`). With an integer capacity, making room for a
key is one of four things (`makeRoom_int`): an entry already under the key moves to the newest
place; a cache holding fewer entries than its capacity makes no change; a full one evicts its
oldest entry; and a full cache without entries, one of capacity zero or less, cannot make room.
-/

namespace Arbor

/-- A call on the in-memory cache. -/
inductive CacheCall where
  | put (page pageSize : Int) (p : Page)
  | get (page pageSize : Int)
  | invalidate
  | setTtl (ttl : Json)
  | stats

/-- Calls on a cache, each with the clock reading it was made at, newest first. -/
abbrev CacheHistory := List (Json × CacheCall)

namespace MemoryCache

/-- The cache after the call `c` at clock reading `now`. -/
def call (m : MemoryCache) (now : Json) : CacheCall → MemoryCache
  | .put p s pg => (m.put now (.int p) (.int s) pg).1
  | .get p s =>
    match m.get now (.int p) (.int s) with
    | .ok (_, m') => m'
    | .error _ => m
  | .invalidate => m.invalidate
  | .setTtl ttl => (m.setTtl now ttl).1
  | .stats => m

/-- The cache after the calls of a history, from `m` on. -/
def replay (m : MemoryCache) : CacheHistory → MemoryCache
  | [] => m
  | (now, c) :: h => (m.replay h).call now c

/-- The keys of the entries, oldest write first. -/
def keys (m : MemoryCache) : List Text := m.entries.map Prod.fst

variable {m : MemoryCache}

theorem entries_lookup (key : Text) : m.entries.lookup key = m.entry? key := rfl

@[simp] theorem replay_nil : m.replay [] = m := rfl

@[simp] theorem replay_cons (now : Json) (c : CacheCall) (h : CacheHistory) :
    m.replay ((now, c) :: h) = (m.replay h).call now c := rfl

/-- A read that answers had a key for its page, and changes only the counters and, when it drops
an expired entry, the entries. -/
theorem get_ok {now page pageSize : Json} {r : Option Page} {m' : MemoryCache}
    (h : m.get now page pageSize = .ok (r, m')) :
    m'.ttl = m.ttl ∧ m'.capacity = m.capacity ∧ ∃ key, cacheKey page pageSize = .ok key ∧
      (m'.entries = m.entries ∨ m'.entries = without m.entries key) := by
  cases hk : cacheKey page pageSize with
  | error f =>
    rw [get_unkeyed hk] at h
    cases h
  | ok key =>
    suffices hsame : m'.ttl = m.ttl ∧ m'.capacity = m.capacity ∧
        (m'.entries = m.entries ∨ m'.entries = without m.entries key) from
      ⟨hsame.1, hsame.2.1, key, rfl, hsame.2.2⟩
    cases he : m.entry? key with
    | none =>
      rw [get_absent hk he] at h
      cases h
      exact ⟨rfl, rfl, .inl rfl⟩
    | some e =>
      cases hlt : Json.relate .lt now e.expiresAt with
      | error f => simp [get, hk, he, hlt, Bind.bind, Except.bind] at h
      | ok b =>
        cases b with
        | true =>
          rw [get_hit hk he hlt] at h
          cases h
          exact ⟨rfl, rfl, .inl rfl⟩
        | false =>
          cases hge : Json.relate .ge now e.expiresAt with
          | error f => simp [get, hk, he, hlt, hge, Bind.bind, Except.bind] at h
          | ok expired =>
            rw [get_stale hk he hlt hge] at h
            cases h
            cases expired
            · exact ⟨rfl, rfl, .inl rfl⟩
            · exact ⟨rfl, rfl, .inr rfl⟩

theorem put_capacity (now page pageSize : Json) (pg : Page) :
    (m.put now page pageSize pg).1.capacity = m.capacity := by
  unfold put
  split
  · rfl
  · split
    · rfl
    · split <;> rfl

theorem call_capacity (now : Json) (c : CacheCall) : (m.call now c).capacity = m.capacity := by
  cases c with
  | put p s pg => exact put_capacity now (.int p) (.int s) pg
  | get p s =>
    -- the page's key is not computed here: a page of 4300 digits or more has none
    cases hget : m.get now (.int p) (.int s) with
    | ok r =>
      rw [call, hget]
      exact (get_ok hget).2.1
    | error e => rw [call, hget]
  | invalidate => rfl
  | setTtl ttl =>
    simp only [call, setTtl]
    split <;> rfl
  | stats => rfl

/-- Room for `key` in a cache of integer capacity `cap`. -/
theorem makeRoom_int {cap : Int} (hcap : m.capacity = .int cap) (key : Text) :
    m.makeRoom key = match m.entry? key with
      | some e => .ok (without m.entries key ++ [(key, e)])
      | none =>
        if cap ≤ m.entries.length then
          match m.entries with
          | [] => .error .evictFromEmpty
          | _ :: rest => .ok rest
        else .ok m.entries := by
  unfold makeRoom
  cases m.entry? key with
  | some e => rfl
  | none =>
    have hfull : Json.relate .ge (.int m.entries.length) m.capacity =
        .ok (decide (cap ≤ m.entries.length)) := by
      rw [hcap, Json.relate_int, Relation.holds_ge_int]
    simp only [hfull, Bind.bind, Except.bind, decide_eq_true_eq]
    split <;> rfl

end MemoryCache

end Arbor
