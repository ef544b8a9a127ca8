import Arbor.Cache.Basic
import Arbor.Proofs.Number.Basic

set_option autoImplicit false

/-! # Reading and writing the in-memory cache

One lemma for each way a request to a `MemoryCache` can go, so that later proofs never unfold
the cache:

* a read hits (`get_hit`), finds an entry that is no longer fresh (`get_stale`), or finds none
  (`get_absent`); a read of a page without a key fails and changes nothing (`get_unkeyed`), and
  so does a write (`put_unkeyed`);
* room for a write is made by moving the key's entry to the newest place (`makeRoom_present`),
  and whatever room is made holds only entries the cache had (`makeRoom_subset`); with room for
  at least one page it cannot fail (`makeRoom_ok`);
* a write whose room and expiry are found stores the page last (`put_eq`), and a change of the
  time-to-live whose expiry is found gives it to every entry (`setTtl_eq`).
-/

namespace Arbor

namespace MemoryCache

variable {c : MemoryCache} {now page pageSize : Json} {key : Text} {e : Entry} {f : Fault}

theorem without_subset (entries : List (Text × Entry)) (key : Text) :
    without entries key ⊆ entries :=
  List.filter_sublist.subset

theorem mem_entries_of_lookup (h : c.entry? key = some e) : (key, e) ∈ c.entries := by
  obtain ⟨l₁, l₂, hl, -⟩ := List.lookup_eq_some_iff.mp h
  simp [hl]

/-! ## Reads -/

theorem get_unkeyed (hk : cacheKey page pageSize = .error f) : c.get now page pageSize = .error f := by
  simp only [get, hk]
  rfl

theorem get_hit (hk : cacheKey page pageSize = .ok key) (he : c.entry? key = some e)
    (hlt : Json.relate .lt now e.expiresAt = .ok true) :
    c.get now page pageSize = .ok (some e.page, { c with hits := c.hits + 1 }) := by
  simp only [get, hk, bind, Except.bind, he, hlt]
  rfl

theorem get_stale {expired : Bool} (hk : cacheKey page pageSize = .ok key)
    (he : c.entry? key = some e) (hlt : Json.relate .lt now e.expiresAt = .ok false)
    (hge : Json.relate .ge now e.expiresAt = .ok expired) :
    c.get now page pageSize = .ok (none, { c with
      entries := if expired then without c.entries key else c.entries,
      misses := c.misses + 1 }) := by
  simp only [get, hk, bind, Except.bind, he, hlt, hge]
  rfl

theorem get_absent (hk : cacheKey page pageSize = .ok key) (he : c.entry? key = none) :
    c.get now page pageSize = .ok (none, { c with misses := c.misses + 1 }) := by
  simp only [get, hk, bind, Except.bind, he]
  rfl

/-! ## Writes -/

theorem makeRoom_present (he : c.entry? key = some e) :
    c.makeRoom key = .ok (without c.entries key ++ [(key, e)]) := by
  simp only [makeRoom, he]
  rfl

theorem makeRoom_subset {entries : List (Text × Entry)} (h : c.makeRoom key = .ok entries) :
    entries ⊆ c.entries := by
  unfold makeRoom at h
  split at h
  · rename_i e he
    cases h
    intro kv hkv
    rcases List.mem_append.mp hkv with hkv | hkv
    · exact without_subset _ _ hkv
    · simp only [List.mem_singleton] at hkv
      exact hkv ▸ mem_entries_of_lookup he
  · cases hrel : Json.relate .ge (.int c.entries.length) c.capacity with
    | error f => simp [hrel, bind, Except.bind] at h
    | ok full =>
      simp only [hrel, bind, Except.bind] at h
      split at h
      · split at h
        · cases h
        · rename_i rest hrest
          cases h
          simp [hrest]
      · cases h
        exact List.Subset.refl _

/-- A cache with room for at least one page can always make room: a full cache is not empty,
so it has an oldest entry to evict. -/
theorem makeRoom_ok {cap : Int} (hcap : c.capacity = .int cap) (hpos : 1 ≤ cap) :
    ∃ entries, c.makeRoom key = .ok entries := by
  unfold makeRoom
  split
  · exact ⟨_, rfl⟩
  · have hrel : Json.relate .ge (.int c.entries.length) c.capacity =
        .ok (decide (cap ≤ c.entries.length)) := by
      rw [hcap, Json.relate_int, Relation.holds_ge_int]
    simp only [hrel, bind, Except.bind]
    split
    · rename_i hfull
      match hc : c.entries with
      | [] => simp [hc] at hfull; omega
      | _ :: rest => exact ⟨rest, rfl⟩
    · exact ⟨_, rfl⟩

/-! ## Lookups after a write

A write of `e` under `key` drops the entry under `key` and appends `(key, e)`: afterwards `key`
finds `e`, every other key finds what it found before, and keys stay distinct. -/

theorem without_write (entries : List (Text × Entry)) (key : Text) (e : Entry) :
    without (without entries key ++ [(key, e)]) key = without entries key := by
  simp [without, List.filter_append, List.filter_filter]

theorem lookup_cons_eq (entries : List (Text × Entry)) (k k' : Text) (e' : Entry) :
    ((k', e') :: entries).lookup k = if k = k' then some e' else entries.lookup k := by
  rw [List.lookup_cons]
  by_cases hk : k = k'
  · simp [hk]
  · rw [beq_false_of_ne hk, if_neg hk]

theorem lookup_without (entries : List (Text × Entry)) (key k : Text) :
    (without entries key).lookup k = if k = key then none else entries.lookup k := by
  induction entries with
  | nil => simp [without]
  | cons kv entries ih =>
    obtain ⟨k', e'⟩ := kv
    simp only [without, List.filter_cons, bne_iff_ne, ne_eq] at ih ⊢
    rw [lookup_cons_eq]
    by_cases hk' : k' = key
    · -- the entry under `key` is dropped
      subst hk'
      rw [if_neg (fun h => h rfl), ih]
      by_cases hk : k = k' <;> simp [hk]
    · rw [if_pos hk', lookup_cons_eq, ih]
      by_cases hk : k = key
      · simp [hk, Ne.symm hk']
      · simp [hk]

theorem lookup_write (entries : List (Text × Entry)) (key k : Text) (e : Entry) :
    (without entries key ++ [(key, e)]).lookup k = if k = key then some e else entries.lookup k := by
  rw [List.lookup_append, lookup_without, lookup_cons_eq]
  by_cases hk : k = key <;> simp [hk]

theorem nodup_keys_write {entries : List (Text × Entry)} (h : (entries.map Prod.fst).Nodup)
    (key : Text) (e : Entry) : ((without entries key ++ [(key, e)]).map Prod.fst).Nodup := by
  rw [List.map_append, List.nodup_append]
  refine ⟨h.sublist (List.filter_sublist.map _), by simp, ?_⟩
  intro a ha b hb
  obtain ⟨kv, hkv, rfl⟩ := List.mem_map.mp ha
  simp only [without, List.mem_filter, bne_iff_ne] at hkv
  simp only [List.map_cons, List.map_nil, List.mem_singleton] at hb
  exact hb ▸ hkv.2

theorem mem_write {entries : List (Text × Entry)} {key : Text} {e : Entry} {kv : Text × Entry}
    (h : kv ∈ without entries key ++ [(key, e)]) : kv = (key, e) ∨ kv ∈ entries := by
  rcases List.mem_append.mp h with h | h
  · exact .inr (without_subset _ _ h)
  · exact .inl (List.mem_singleton.mp h)

theorem put_unkeyed {p : Page} (hk : cacheKey page pageSize = .error f) :
    c.put now page pageSize p = (c, .error f) := by
  simp only [put, hk]

theorem put_eq {p : Page} {entries : List (Text × Entry)} {expiresAt : Json}
    (hk : cacheKey page pageSize = .ok key) (hroom : c.makeRoom key = .ok entries)
    (hexp : Json.add now c.ttl = .ok expiresAt) :
    c.put now page pageSize p =
      ({ c with entries := without entries key ++ [(key, ⟨p, expiresAt⟩)] }, .ok ()) := by
  simp only [put, hk, hroom, hexp]

/-- A cache with room for the key, because the key is present or the cache is not full, stores
a page whose expiry is found by writing it: the key's old entry, if any, goes. -/
theorem put_of_room {cap : Int} {p : Page} {expiresAt : Json} (hcap : c.capacity = .int cap)
    (hk : cacheKey page pageSize = .ok key) (hroom : c.entry? key = none → c.entries.length < cap)
    (hexp : Json.add now c.ttl = .ok expiresAt) :
    c.put now page pageSize p =
      ({ c with entries := without c.entries key ++ [(key, ⟨p, expiresAt⟩)] }, .ok ()) := by
  cases he : c.entry? key with
  | some e => rw [put_eq hk (makeRoom_present he) hexp, without_write]
  | none =>
    have hfull : Json.relate .ge (.int c.entries.length) c.capacity = .ok false := by
      rw [hcap, Json.relate_int, Relation.holds_ge_int]
      simpa using hroom he
    have hmake : c.makeRoom key = .ok c.entries := by
      simp only [makeRoom, he, hfull, bind, Except.bind]
      rfl
    exact put_eq hk hmake hexp

theorem setTtl_eq {ttl expiresAt : Json} (hexp : Json.add now ttl = .ok expiresAt) :
    c.setTtl now ttl = ({ c with
      ttl := ttl, entries := c.entries.map fun kv => (kv.1, { kv.2 with expiresAt }) },
      .ok ()) := by
  simp only [setTtl, hexp]

end MemoryCache

theorem Cache.get_memory {m m' : MemoryCache} {now page pageSize : Json} {r : Option Page}
    (h : m.get now page pageSize = .ok (r, m')) :
    (Cache.memory m).get now page pageSize = .ok (r, .memory m') := by
  simp only [Cache.get, h]
  rfl

end Arbor
