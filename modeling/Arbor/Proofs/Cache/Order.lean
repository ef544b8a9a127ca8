import Arbor.Proofs.Cache.History
import Arbor.Proofs.Cache.Key
import Mathlib

set_option autoImplicit false

/-! # Capacity and eviction order of the in-memory cache

The entries of the in-memory cache are kept in the order of their latest puts, oldest first, and
only a put moves a key: it goes to the newest place. A read drops at most an expired entry, a
change of the time-to-live rewrites expiries in place, and dropping every entry empties the list.
So over every history the keys stand in the order of their most recent puts (`lastPut`, counted
back from the newest call), every key was put at some time, and there are never more entries
than the capacity, or none when the capacity is zero or less (`PutOrder`, kept by every call:
`PutOrder.call`).

One lemma for each way a put can make room says which keys it leaves: a key already stored moves
to the newest place and nothing is evicted (`put_present`); a new key into a full cache evicts the
oldest entry (`put_full`), into one with room evicts nothing (`put_room`); and a cache of
capacity zero or less has nothing to evict, so every put fails and changes nothing
(`put_empty`). A new key is stored only when its expiry can be computed. A put of a page without
a key, one of more than `maxIntDigits` digits, is refused before the entries are looked at,
whatever the capacity, and puts no key. The main statement is
`cache_keeps_capacity_and_put_order`.
-/

namespace Arbor

/-- The key a call stores under, when it is a put of a page that has a key. -/
def CacheCall.putKey? : CacheCall → Option Text
  | .put p s _ => (cacheKey (.int p) (.int s)).toOption
  | _ => none

theorem CacheCall.putKey?_put {p s : Int} {pg : Page} {key : Text}
    (hk : cacheKey (.int p) (.int s) = .ok key) : (CacheCall.put p s pg).putKey? = some key := by
  simp [CacheCall.putKey?, hk, Except.toOption]

/-- How many calls back in history `h` the key `k` was last put: `0` for the newest call, and
`h.length` when it never was. -/
def lastPut (h : CacheHistory) (k : Text) : Nat := h.findIdx fun x => x.2.putKey? = some k

theorem lastPut_cons (now : Json) (c : CacheCall) (h : CacheHistory) (k : Text) :
    lastPut ((now, c) :: h) k = if c.putKey? = some k then 0 else lastPut h k + 1 := by
  simp only [lastPut, List.findIdx_cons]
  by_cases hk : c.putKey? = some k <;> simp [hk]

namespace MemoryCache

variable {m : MemoryCache} {now page pageSize : Json} {pg : Page} {key : Text}

/-! ## What one put does to the keys -/

theorem keys_without (entries : List (Text × Entry)) (key : Text) :
    (without entries key).map Prod.fst = (entries.map Prod.fst).filter (· != key) := by
  simp [without, List.filter_map, Function.comp_def]

theorem entry?_eq_none_iff : m.entry? key = none ↔ key ∉ m.keys := by
  simp only [← entries_lookup, List.lookup_eq_none_iff, keys, List.mem_map, not_exists, not_and,
    bne_iff_ne, ne_eq]
  constructor
  · intro h kv hkv hk
    exact h kv hkv hk.symm
  · intro h kv hkv hk
    exact h kv hkv hk.symm

/-- Entries none of which is under `key` lose nothing when the entry under `key` is dropped. -/
theorem without_of_not_mem {entries : List (Text × Entry)}
    (h : ∀ kv ∈ entries, kv.1 ≠ key) : without entries key = entries :=
  List.filter_eq_self.mpr fun kv hkv => bne_iff_ne.mpr (h kv hkv)

/-- Storing under a key already stored moves it to the newest place and evicts nothing, whether
or not the expiry can be computed. -/
theorem put_present (hnodup : m.keys.Nodup) (hck : cacheKey page pageSize = .ok key)
    (hk : key ∈ m.keys) : (m.put now page pageSize pg).1.keys = m.keys.erase key ++ [key] := by
  have hentry : m.entry? key ≠ none := fun h => entry?_eq_none_iff.mp h hk
  obtain ⟨e, he⟩ := Option.ne_none_iff_exists'.mp hentry
  rw [hnodup.erase_eq_filter]
  simp only [put, hck, makeRoom_present he]
  cases Json.add now m.ttl with
  | error f => simp [keys, keys_without]
  | ok expiresAt => simp [keys, without_write, keys_without]

/-- Storing under a new key into a cache holding at least `cap` entries evicts the oldest entry,
and then stores the page when its expiry can be computed. -/
theorem put_full (now : Json) (pg : Page) {cap : Int} (hcap : m.capacity = .int cap)
    (hck : cacheKey page pageSize = .ok key) (hk : key ∉ m.keys) (hfull : cap ≤ m.keys.length)
    {kv : Text × Entry} {rest : List (Text × Entry)} (hm : m.entries = kv :: rest) :
    (m.put now page pageSize pg).1.keys = rest.map Prod.fst ++
      if (Json.add now m.ttl).toBool then [key] else [] := by
  have hroom : m.makeRoom key = .ok rest := by
    have hfull' : cap ≤ (m.entries.length : Int) := by simpa [keys] using hfull
    rw [makeRoom_int hcap, entry?_eq_none_iff.mpr hk, hm]
    rw [hm] at hfull'
    simp only [if_pos hfull']
  have hrest : without rest key = rest := by
    refine without_of_not_mem fun kv' hkv' heq => hk ?_
    rw [← heq]
    exact List.mem_map_of_mem (hm ▸ List.mem_cons_of_mem _ hkv')
  simp only [put, hck, hroom]
  cases Json.add now m.ttl with
  | error f => simp [keys, Except.toBool]
  | ok expiresAt => simp [keys, hrest, Except.toBool]

/-- Storing under a new key into a cache with room evicts nothing, and stores the page when its
expiry can be computed. -/
theorem put_room (now : Json) (pg : Page) {cap : Int} (hcap : m.capacity = .int cap)
    (hck : cacheKey page pageSize = .ok key) (hk : key ∉ m.keys)
    (hroom : (m.keys.length : Int) < cap) :
    (m.put now page pageSize pg).1.keys = m.keys ++
      if (Json.add now m.ttl).toBool then [key] else [] := by
  have hmake : m.makeRoom key = .ok m.entries := by
    have hroom' : ¬ cap ≤ (m.entries.length : Int) := by simpa [keys] using hroom
    rw [makeRoom_int hcap, entry?_eq_none_iff.mpr hk]
    simp only [if_neg hroom']
  have hsame : without m.entries key = m.entries := by
    refine without_of_not_mem fun kv hkv heq => hk ?_
    rw [← heq]
    exact List.mem_map_of_mem hkv
  simp only [put, hck, hmake]
  cases Json.add now m.ttl with
  | error f => simp [keys, Except.toBool]
  | ok expiresAt => simp [keys, hsame, Except.toBool]

/-- A cache of capacity zero or less holding no entry has none to evict: every put of a page
with a key fails with `KeyError` and leaves the cache as it was. -/
theorem put_empty {cap : Int} (hcap : m.capacity = .int cap) (hm : m.entries = [])
    (hcap0 : cap ≤ 0) (hck : cacheKey page pageSize = .ok key) :
    m.put now page pageSize pg = (m, .error .evictFromEmpty) := by
  have habsent : m.entry? key = none := by simp [← entries_lookup, hm]
  have hmake : m.makeRoom key = .error .evictFromEmpty := by
    rw [makeRoom_int hcap, habsent]
    simp [hm, hcap0]
  simp only [put, hck, hmake]

/-! ## The order of the keys over a history -/

/-- What every history keeps of a cache of capacity `cap`: distinct keys, no more of them than the
capacity (none when it is zero or less), each put at some time, and in the order of their most
recent puts, oldest first. -/
structure PutOrder (cap : Int) (h : CacheHistory) (m : MemoryCache) : Prop where
  capacity : m.capacity = .int cap
  nodup : m.keys.Nodup
  bound : (m.keys.length : Int) ≤ max cap 0
  wasPut : ∀ k ∈ m.keys, lastPut h k < h.length
  order : (m.keys.map (lastPut h)).Pairwise (· > ·)

theorem PutOrder.empty (ttl : Json) (cap : Int) :
    PutOrder cap [] (MemoryCache.empty ttl (.int cap)) where
  capacity := rfl
  nodup := List.nodup_nil
  bound := by
    simp only [keys, MemoryCache.empty, List.map_nil, List.length_nil]
    omega
  wasPut := by simp [keys, MemoryCache.empty]
  order := List.Pairwise.nil

namespace PutOrder

variable {cap : Int} {h : CacheHistory}

/-- Keys taken in order from the old ones, none of them put by the newest call `c`, keep their
order: each was put one call further back. -/
theorem shift (hm : PutOrder cap h m) (now : Json) (c : CacheCall) {sub : List Text}
    (hsub : sub.Sublist m.keys) (hc : ∀ k ∈ sub, c.putKey? ≠ some k) :
    (∀ k ∈ sub, lastPut ((now, c) :: h) k = lastPut h k + 1) ∧
      (∀ k ∈ sub, lastPut ((now, c) :: h) k < ((now, c) :: h).length) ∧
      (sub.map (lastPut ((now, c) :: h))).Pairwise (· > ·) := by
  have hshift : ∀ k ∈ sub, lastPut ((now, c) :: h) k = lastPut h k + 1 := fun k hk => by
    rw [lastPut_cons, if_neg (hc k hk)]
  refine ⟨hshift, fun k hk => ?_, ?_⟩
  · have hwas := hm.wasPut k (hsub.subset hk)
    rw [hshift k hk, List.length_cons]
    omega
  · have hord := hm.order
    rw [List.pairwise_map] at hord ⊢
    refine (hord.sublist hsub).imp_of_mem fun ha hb hab => ?_
    rw [hshift _ ha, hshift _ hb]
    omega

/-- A call that keeps a part of the keys, in order, and puts none of them keeps the invariant. -/
theorem of_sublist (hm : PutOrder cap h m) (now : Json) (c : CacheCall) {m' : MemoryCache}
    (hcap : m'.capacity = .int cap) (hsub : m'.keys.Sublist m.keys)
    (hc : ∀ k ∈ m'.keys, c.putKey? ≠ some k) : PutOrder cap ((now, c) :: h) m' := by
  obtain ⟨-, hwas, hord⟩ := hm.shift now c hsub hc
  have hlen := hsub.length_le
  have hbound := hm.bound
  exact ⟨hcap, hm.nodup.sublist hsub, by omega, hwas, hord⟩

/-- A put under `key` that keeps a part `sub` of the keys, in order, and stores its key last
keeps the invariant, when the keys fit the capacity. -/
theorem of_stored (hm : PutOrder cap h m) (now : Json) {p s : Int} {pg : Page} {m' : MemoryCache}
    (hck : cacheKey (.int p) (.int s) = .ok key) (hcap : m'.capacity = .int cap)
    {sub : List Text} (hsub : sub.Sublist m.keys) (hkey : key ∉ sub)
    (hkeys : m'.keys = sub ++ [key]) (hbound : (sub.length : Int) + 1 ≤ max cap 0) :
    PutOrder cap ((now, .put p s pg) :: h) m' := by
  have hc : ∀ k ∈ sub, (CacheCall.put p s pg).putKey? ≠ some k := fun k hk heq => by
    rw [CacheCall.putKey?_put hck] at heq
    exact hkey (Option.some.inj heq ▸ hk)
  obtain ⟨hshift, hwas, hord⟩ := hm.shift now (.put p s pg) hsub hc
  have hnew : lastPut ((now, .put p s pg) :: h) key = 0 := by
    rw [lastPut_cons, if_pos (CacheCall.putKey?_put hck)]
  refine ⟨hcap, ?_, ?_, ?_, ?_⟩
  · rw [hkeys, List.nodup_append]
    refine ⟨hm.nodup.sublist hsub, List.pairwise_singleton _ _, fun a ha b hb heq => hkey ?_⟩
    rw [List.mem_singleton.mp hb] at heq
    exact heq ▸ ha
  · rw [hkeys]
    simpa using hbound
  · -- the new key was put by the newest call
    intro k hk
    rw [hkeys, List.mem_append, List.mem_singleton] at hk
    rcases hk with hk | rfl
    · exact hwas k hk
    · simp [hnew]
  · rw [hkeys, List.map_append, List.pairwise_append]
    refine ⟨hord, List.pairwise_singleton _ _, fun a ha b hb => ?_⟩
    obtain ⟨k, hk, rfl⟩ := List.mem_map.mp ha
    simp only [List.map_cons, List.map_nil, List.mem_singleton] at hb
    rw [hb, hnew, hshift k hk]
    omega

/-- A put under `key` that keeps a part `sub` of the keys, in order, without its key, and stores
its key last when its expiry is computed, keeps the invariant when the keys fit. -/
theorem of_put (hm : PutOrder cap h m) (now : Json) {p s : Int} {pg : Page} {m' : MemoryCache}
    (hck : cacheKey (.int p) (.int s) = .ok key) (hcap : m'.capacity = .int cap)
    {sub : List Text} (hsub : sub.Sublist m.keys) (hkey : key ∉ sub) (stored : Bool)
    (hkeys : m'.keys = sub ++ if stored then [key] else [])
    (hbound : (sub.length : Int) + 1 ≤ max cap 0) :
    PutOrder cap ((now, .put p s pg) :: h) m' := by
  cases stored with
  | false =>
    simp only [Bool.false_eq_true, ↓reduceIte, List.append_nil] at hkeys
    refine hm.of_sublist now _ hcap (hkeys ▸ hsub) fun k hk heq => hkey ?_
    rw [CacheCall.putKey?_put hck] at heq
    rw [hkeys] at hk
    exact Option.some.inj heq ▸ hk
  | true => exact hm.of_stored now hck hcap hsub hkey hkeys hbound

/-- A put under `key` keeps the invariant: the key moves to the newest place, and a full cache
first evicts its oldest entry. -/
theorem put (hm : PutOrder cap h m) (now : Json) {p s : Int} (pg : Page)
    (hck : cacheKey (.int p) (.int s) = .ok key) :
    PutOrder cap ((now, .put p s pg) :: h) (m.put now (.int p) (.int s) pg).1 := by
  have hcap : (m.put now (.int p) (.int s) pg).1.capacity = .int cap :=
    (put_capacity now _ _ pg).trans hm.capacity
  by_cases hk : key ∈ m.keys
  · -- the key moves to the newest place
    refine hm.of_stored now hck hcap List.erase_sublist hm.nodup.not_mem_erase
      (put_present hm.nodup hck hk) ?_
    have hlen := List.length_erase_of_mem hk
    have hpos : 0 < m.keys.length := List.length_pos_of_mem hk
    have := hm.bound
    omega
  · by_cases hfull : cap ≤ m.keys.length
    · match he : m.entries with
      | [] =>
        -- a full cache without entries has capacity zero or less: the put changes nothing
        have hnil : m.keys = [] := by simp [keys, he]
        have hcap0 : cap ≤ 0 := by simpa [hnil] using hfull
        rw [put_empty hm.capacity he hcap0 hck]
        exact hm.of_sublist now _ hm.capacity (List.Sublist.refl _) (by simp [hnil])
      | kv :: rest =>
        -- the oldest entry is evicted
        have hsub : (rest.map Prod.fst).Sublist m.keys := by
          simp only [keys, he, List.map_cons]
          exact List.sublist_cons_self _ _
        have hlen : m.keys.length = rest.length + 1 := by simp [keys, he]
        refine hm.of_put now hck hcap hsub (fun hr => hk (hsub.subset hr)) _
          (put_full now pg hm.capacity hck hk hfull he) ?_
        have := hm.bound
        simp only [List.length_map]
        omega
    · -- a cache with room evicts nothing
      have hroom : (m.keys.length : Int) < cap := by omega
      refine hm.of_put now hck hcap (List.Sublist.refl _) hk _
        (put_room now pg hm.capacity hck hk hroom) ?_
      have := hm.bound
      omega

/-- **Every call keeps the invariant.** A put moves its key to the newest place, evicting the
oldest entry from a full cache; every other call, and a put refused for want of a key, keeps a
part of the keys in their order. -/
theorem call (hm : PutOrder cap h m) (now : Json) (c : CacheCall) :
    PutOrder cap ((now, c) :: h) (m.call now c) := by
  have hcap : (m.call now c).capacity = .int cap := (call_capacity now c).trans hm.capacity
  cases c with
  | put p s pg =>
    cases hck : cacheKey (.int p) (.int s) with
    | ok key => exact hm.put now pg hck
    | error f =>
      have hsame : m.call now (.put p s pg) = m := by
        simp only [MemoryCache.call, put_unkeyed hck]
      rw [hsame]
      exact hm.of_sublist now _ hm.capacity (List.Sublist.refl _)
        (by simp [CacheCall.putKey?, hck, Except.toOption])
  | get p s =>
    -- a read keeps the keys, or drops the one it found expired
    refine hm.of_sublist now _ hcap ?_ (by simp [CacheCall.putKey?])
    simp only [MemoryCache.call]
    split
    · rename_i r m' hget
      obtain ⟨-, -, key, -, he | he⟩ := get_ok hget
      · simp [keys, he]
      · simp only [keys, he, keys_without]
        exact List.filter_sublist
    · exact List.Sublist.refl _
  | invalidate =>
    exact hm.of_sublist now _ hcap (by simp [keys, MemoryCache.call, invalidate])
      (by simp [CacheCall.putKey?])
  | setTtl d =>
    -- a new time-to-live rewrites expiries in place
    refine hm.of_sublist now _ hcap ?_ (by simp [CacheCall.putKey?])
    simp only [MemoryCache.call, setTtl]
    split <;> simp [keys, Function.comp_def]
  | stats => exact hm.of_sublist now _ hcap (List.Sublist.refl _) (by simp [CacheCall.putKey?])

/-- Every history keeps the invariant, from an empty cache on. The induction is on the history. -/
theorem replay (ttl : Json) (cap : Int) (h : CacheHistory) :
    PutOrder cap h ((MemoryCache.empty ttl (.int cap)).replay h) := by
  induction h with
  | nil => exact PutOrder.empty ttl cap
  | cons x h ih =>
    obtain ⟨now, c⟩ := x
    exact ih.call now c

end PutOrder

end MemoryCache

open MemoryCache in
/-- **The in-memory cache keeps its capacity and evicts in the order of puts.** Over every history
of calls from an empty cache with any time-to-live and capacity `cap`, at any clock readings:

* the cache never holds more entries than `cap`, expired ones included, and none when `cap` is
  zero or less;
* every stored key was put, and the keys stand in the order of their most recent puts, oldest
  first, so reads and changes of the time-to-live never reorder them;
* a put under a stored key evicts nothing and moves the key to the newest place;
* a put under a new key into a cache holding `cap` entries evicts exactly the entry whose most
  recent put is the oldest, and stores the new key when its expiry can be computed;
* when `cap` is zero or less every put of a page with a key fails with `KeyError` and changes
  nothing;
* a put of a page or page size of more than `maxIntDigits` digits fails with `ValueError`, which
  writing its key raises, and changes nothing, whatever the capacity. -/
theorem cache_keeps_capacity_and_put_order (ttl : Json) (cap : Int) (h : CacheHistory) :
    let m := (MemoryCache.empty ttl (.int cap)).replay h
    (m.entries.length : Int) ≤ max cap 0 ∧
      (∀ k ∈ m.keys, lastPut h k < h.length) ∧
      (m.keys.map (lastPut h)).Pairwise (· > ·) ∧
      (∀ now page pageSize pg key, cacheKey page pageSize = .ok key → key ∈ m.keys →
        (m.put now page pageSize pg).1.keys = m.keys.erase key ++ [key]) ∧
      (∀ now page pageSize pg key, cacheKey page pageSize = .ok key → key ∉ m.keys → 0 < cap →
        (m.entries.length : Int) = cap →
        ∃ oldest rest, m.keys = oldest :: rest ∧ (∀ k ∈ rest, lastPut h k < lastPut h oldest) ∧
          (m.put now page pageSize pg).1.keys =
            rest ++ if (Json.add now m.ttl).toBool then [key] else []) ∧
      (cap ≤ 0 → ∀ now page pageSize pg key, cacheKey page pageSize = .ok key →
        m.put now page pageSize pg = (m, .error .evictFromEmpty)) ∧
      (∀ now (p s : Int) pg, (fitsNumeral p && fitsNumeral s) = false →
        m.put now (.int p) (.int s) pg = (m, .error .tooManyDigitsToWrite)) := by
  intro m
  have hm : PutOrder cap h m := PutOrder.replay ttl cap h
  have hlen : m.keys.length = m.entries.length := List.length_map _
  refine ⟨by simpa [hlen] using hm.bound, hm.wasPut, hm.order,
    fun _ _ _ _ _ hck hk => put_present hm.nodup hck hk, ?_, ?_, ?_⟩
  · intro now page pageSize pg key hck hk hpos hfull
    match he : m.entries with
    | [] =>
      rw [he] at hfull
      simp at hfull
      omega
    | kv :: rest =>
      have hkeys : m.keys = kv.1 :: rest.map Prod.fst := by simp [keys, he]
      refine ⟨kv.1, rest.map Prod.fst, hkeys, ?_,
        put_full _ _ hm.capacity hck hk (by omega) he⟩
      -- the first key was put before every other: the keys stand in the order of their puts
      have hord := hm.order
      rw [hkeys, List.map_cons, List.pairwise_cons] at hord
      intro k hk'
      exact hord.1 _ (List.mem_map_of_mem hk')
  · intro hcap0 now page pageSize pg key hck
    have hnil : m.entries = [] := by
      have hbound := hm.bound
      rw [← List.length_eq_zero_iff]
      omega
    exact put_empty hm.capacity hnil hcap0 hck
  · intro now p s pg hps
    exact put_unkeyed (cacheKey_int_of_wide hps)

/-- A cache of capacity zero refuses a put of the page `10 ^ maxIntDigits` for its digits before
it can fail to evict: writing the key raises `ValueError`, not `KeyError`. -/
theorem zero_capacity_refuses_wide_page_first :
    (MemoryCache.empty (.int 300) (.int 0)).put (.int 1000) (.int (10 ^ maxIntDigits)) (.int 1)
      default = (MemoryCache.empty (.int 300) (.int 0), .error .tooManyDigitsToWrite) :=
  MemoryCache.put_unkeyed (cacheKey_int_of_wide (by rw [fitsNumeral_pow]; rfl))

/- Eviction follows the puts, not the reads: page 1 is read after page 2 is put, and is still the
one evicted for page 3. -/
example : ((MemoryCache.empty (.int 300) (.int 2)).replay
    [(.int 3, .put 3 10 default), (.int 2, .get 1 10), (.int 1, .put 2 10 default),
      (.int 0, .put 1 10 default)]).keys =
    [pageKey 2 10, pageKey 3 10] := by decide +kernel

end Arbor
