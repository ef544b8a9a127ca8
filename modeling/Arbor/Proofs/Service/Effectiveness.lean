import Arbor.Proofs.Cache.Latest
import Arbor.Proofs.Service.Transparency

set_option autoImplicit false

/-! # The cache answers exactly the reads it should

Which reads of a service with an in-memory cache are answered from the cache is decided by a
small record kept beside the store, `Recency`: for each page and page size, the clock reading of
the latest read of it that was computed from the store and gave a page, since the cache was last
dropped. A read at `now` of a page whose latest such fill `c` has `now < c + ttl` is *fresh*
(`Recency.fresh`); a successful change of the store and a dropped cache forget every fill. A read
of a page whose number or size has more than `maxIntDigits` digits has no key: it fails before
the cache (`Service.getPage_wide`) and is no fill.

The main statement `cache_hit_iff_recent_fill` says that, over a run whose clock never moves
backwards and reads numbers a float can hold, with no new time-to-live and room in the cache for
every page read, a valid read of a page with a key is answered from the cache (`Service.AnsweredFromCache`) exactly
when it is fresh, and otherwise is computed from the store, counted as a miss and its page stored
(`Service.Recomputed`).

The invariant that carries it is `Mirrors`: every entry of the cache is the latest fill of its
page, expiring at `c + ttl`; a filled page without an entry has expired by the latest clock
reading; and the entries' keys are distinct keys of pages read. Distinct keys of pages read are
as many as the cache has room for, so storing never evicts (`length_lt_of_owned`).

A read that misses and fails is no fill: it stores nothing, so the same read right after misses
again (`failed_read_is_not_cached`).
-/

namespace Arbor

/-! ## Which reads are fresh -/

/-- The store, and for each page and page size the clock reading of the latest read of it, since
the cache was last dropped, that was computed from the store and gave a page. -/
structure Recency where
  store : Store
  filledAt : Int × Int → Option Json

namespace Recency

/-- No page read yet, over an empty store. -/
def start (backend : Backend) : Recency := ⟨Store.empty backend, fun _ => none⟩

/-- Whether page `key` is fresh at `now`: its latest fill `c` has `now < c + ttl`. -/
def fresh (r : Recency) (ttl now : Json) (key : Int × Int) : Bool :=
  match r.filledAt key with
  | none => false
  | some c =>
    match Json.add c ttl >>= Json.relate .lt now with
    | .ok b => b
    | .error _ => false

/-- After a change of the store: on success the new store, with no page fresh. -/
def changed (r : Recency) (res : Except Fault Store) : Recency :=
  match res with
  | .ok store => ⟨store, fun _ => none⟩
  | .error _ => r

/-- The recency after the call `c` at clock reading `now`. A valid read that is not fresh is
computed from the store, and is a fill when the store gives a page. -/
def step (maxPageSize ttl : Json) (r : Recency) (now : Json) : Call → Recency
  | .getPage p s =>
    match validatePagination maxPageSize (.int p) (.int s) with
    | .error _ => r
    | .ok () =>
      -- a page without a key is refused before the cache, a fresh one is answered by it
      if (fitsNumeral p && fitsNumeral s) && !r.fresh ttl now (p, s) then
        match r.store.pageOf (.int p) (.int s) with
        | .ok _ => { r with filledAt := Function.update r.filledAt (p, s) (some now) }
        | .error _ => r
      else r
  | .getNode _ => r
  | .createNode label parent => r.changed ((r.store.create label (parent.map .int)).map Prod.snd)
  | .updateNode i label parent => r.changed (r.store.update (.int i) label (parent.map .int))
  | .deleteNode i => r.changed ((r.store.delete (.int i)).map Prod.snd)
  | .clearCache => { r with filledAt := fun _ => none }
  | .cacheStats => r
  | .setTtl _ => r
  | .invalidateCache => { r with filledAt := fun _ => none }

/-- The recency after a run of calls. -/
def run (maxPageSize ttl : Json) (r : Recency) (calls : List (Json × Call)) : Recency :=
  calls.foldl (fun r c => r.step maxPageSize ttl c.1 c.2) r

@[simp] theorem run_nil (maxPageSize ttl : Json) (r : Recency) : r.run maxPageSize ttl [] = r :=
  rfl

@[simp] theorem run_cons (maxPageSize ttl : Json) (r : Recency) (c : Json × Call)
    (calls : List (Json × Call)) :
    r.run maxPageSize ttl (c :: calls) = (r.step maxPageSize ttl c.1 c.2).run maxPageSize ttl calls :=
  rfl

theorem fresh_of_filled {r : Recency} {ttl now c e : Json} {key : Int × Int} {b : Bool}
    (hc : r.filledAt key = some c) (he : Json.add c ttl = .ok e)
    (hb : Json.relate .lt now e = .ok b) : r.fresh ttl now key = b := by
  simp only [fresh, hc, he, bind, Except.bind, hb]

end Recency

/-- The page and page size of a call that is a valid page read. -/
def Call.pageRead? (maxPageSize : Json) : Call → Option (Int × Int)
  | .getPage p s =>
    if (validatePagination maxPageSize (.int p) (.int s)).toBool then some (p, s) else none
  | _ => none

/-- The pages and page sizes of the valid page reads of a run. -/
def pagesRead (maxPageSize : Json) (calls : List (Json × Call)) : List (Int × Int) :=
  calls.filterMap fun c => c.2.pageRead? maxPageSize

@[simp] theorem pagesRead_nil (maxPageSize : Json) : pagesRead maxPageSize [] = [] := rfl

theorem pagesRead_cons (maxPageSize : Json) (c : Json × Call) (calls : List (Json × Call)) :
    pagesRead maxPageSize (c :: calls) =
      (c.2.pageRead? maxPageSize).toList ++ pagesRead maxPageSize calls := by
  simp only [pagesRead, List.filterMap_cons]
  cases c.2.pageRead? maxPageSize <;> rfl

theorem pagesRead_append (maxPageSize : Json) (calls more : List (Json × Call)) :
    pagesRead maxPageSize (calls ++ more) = pagesRead maxPageSize calls ++ pagesRead maxPageSize more :=
  List.filterMap_append

/-! ## How a read is answered -/

namespace Service

/-- The read of page `p` of `s` rows at `now` is answered from the cache: the answer is the page of
the cache's entry, and the only change is one more hit. -/
def AnsweredFromCache (sv : Service) (now : Json) (p s : Int) : Prop :=
  ∃ m e, sv.cache = .memory m ∧ m.entry? (pageKey p s) = some e ∧
    sv.getPage now (.int p) (.int s) =
      (.ok e.page, { sv with cache := .memory { m with hits := m.hits + 1 } })

/-- The read of page `p` of `s` rows at `now` is computed from the store: the answer is the store's
page, the cache counts one more miss and no hit, and the page, when there is one, is stored to
expire at `now + ttl`. -/
def Recomputed (sv : Service) (now : Json) (p s : Int) : Prop :=
  ∃ m m', sv.cache = .memory m ∧
    sv.getPage now (.int p) (.int s) =
      (sv.store.pageOf (.int p) (.int s), { sv with cache := .memory m' }) ∧
    m'.hits = m.hits ∧ m'.misses = m.misses + 1 ∧
    ∀ pg, sv.store.pageOf (.int p) (.int s) = .ok pg →
      ∃ e, Json.add now m.ttl = .ok e ∧ m'.entry? (pageKey p s) = some ⟨pg, e⟩

/-- A read is answered from the cache or computed from the store, never both: only the first
counts a hit. -/
theorem not_answered_of_recomputed {sv : Service} {now : Json} {p s : Int}
    (h : sv.Recomputed now p s) : ¬ sv.AnsweredFromCache now p s := by
  rintro ⟨m, e, hc, -, hans⟩
  obtain ⟨m₁, m', hc₁, hrec, hhits, -⟩ := h
  have hm : m₁ = m := by rw [hc] at hc₁; exact (Cache.memory.inj hc₁).symm
  subst hm
  have hsv := congrArg Prod.snd (hans.symm.trans hrec)
  have hm' : { m₁ with hits := m₁.hits + 1 } = m' := Cache.memory.inj (congrArg Service.cache hsv)
  rw [← hm'] at hhits
  exact absurd hhits (by simp)

end Service

/-! ## The invariant -/

/-- Adding a time-to-live a float can hold to a clock reading a float can hold gives a number. -/
theorem expiry_isNum {c ttl e : Json} (hc : c.FloatLike) (httl : ttl.FloatLike)
    (he : Json.add c ttl = .ok e) : ∃ n, Num.ofJson? e = some n := by
  obtain ⟨n, hn⟩ := hc.add httl
  rw [hn] at he
  cases he
  exact ⟨n, Num.ofJson?_toJson n⟩

/-- The entries of a cache hold what the recency `r` says they should, with `last` the latest
clock reading and `seen` the pages read so far. -/
structure Mirrors (ttl : Json) (last : Option Json) (seen : List (Int × Int))
    (entries : List (Text × Entry)) (r : Recency) : Prop where
  nodup : (entries.map Prod.fst).Nodup
  /-- every key is the key of a page read -/
  owned : ∀ kv ∈ entries, ∃ p s, kv.1 = pageKey p s ∧ (p, s) ∈ seen
  readings : ∀ key c, r.filledAt key = some c → c.FloatLike
  latest : ∀ l, last = some l → l.FloatLike
  /-- an entry is the latest fill of its page, expiring `ttl` after it -/
  filled : ∀ p s e, entries.lookup (pageKey p s) = some e →
    ∃ c, r.filledAt (p, s) = some c ∧ Json.add c ttl = .ok e.expiresAt
  /-- a filled page without an entry has expired by the latest reading -/
  expired : ∀ p s c, r.filledAt (p, s) = some c →
    entries.lookup (pageKey p s) = none →
    ∃ e l, Json.add c ttl = .ok e ∧ last = some l ∧ Json.relate .ge l e = .ok true

namespace Mirrors

variable {ttl now : Json} {last : Option Json} {seen : List (Int × Int)}
  {entries : List (Text × Entry)} {r : Recency}

theorem seen_mono (h : Mirrors ttl last seen entries r) {seen' : List (Int × Int)}
    (hsub : seen ⊆ seen') : Mirrors ttl last seen' entries r := by
  refine ⟨h.nodup, ?_, h.readings, h.latest, h.filled, h.expired⟩
  intro kv hkv
  obtain ⟨p, s, hkey, hps⟩ := h.owned kv hkv
  exact ⟨p, s, hkey, hsub hps⟩

/-- Without entries and fills there is nothing to hold, whatever the store. -/
theorem empty (hlast : ∀ l, last = some l → l.FloatLike) (st : Store) :
    Mirrors ttl last seen [] ⟨st, fun _ => none⟩ := by
  refine ⟨List.nodup_nil, ?_, ?_, hlast, ?_, ?_⟩ <;> simp

/-- A later clock reading keeps the invariant: a page that had expired by the latest reading has
expired by any reading at or after it. -/
theorem later (h : Mirrors ttl last seen entries r) (httl : ttl.FloatLike) (hnow : now.FloatLike)
    (hle : ∀ l, last = some l → Json.relate .le l now = .ok true) :
    Mirrors ttl (some now) seen entries r := by
  refine ⟨h.nodup, h.owned, h.readings, ?_, h.filled, ?_⟩
  · rintro l ⟨⟩
    exact hnow
  · intro p s c hc habsent
    obtain ⟨e, l, he, hl, hge⟩ := h.expired p s c hc habsent
    obtain ⟨xl, hxl, -⟩ := h.latest l hl
    obtain ⟨xt, hxt, -⟩ := hnow
    obtain ⟨xe, hxe⟩ := expiry_isNum (h.readings _ c hc) httl he
    exact ⟨e, now, he, rfl, Json.relate_ge_of_le hxl hxt hxe hge (hle l hl)⟩

/-- A page without an entry is not fresh: it was never filled, or it has expired. -/
theorem fresh_false_of_absent (h : Mirrors ttl (some now) seen entries r) (httl : ttl.FloatLike)
    {p s : Int} (habsent : entries.lookup (pageKey p s) = none) :
    r.fresh ttl now (p, s) = false := by
  cases hc : r.filledAt (p, s) with
  | none => simp [Recency.fresh, hc]
  | some c =>
    obtain ⟨e, l, he, hl, hge⟩ := h.expired p s c hc habsent
    cases hl
    obtain ⟨xt, hxt, -⟩ := h.latest now rfl
    obtain ⟨xe, hxe⟩ := expiry_isNum (h.readings _ c hc) httl he
    exact Recency.fresh_of_filled hc he (Json.relate_lt_of_ge hxt hxe hge)

/-- Dropping an entry whose expiry the latest reading has passed keeps the invariant. -/
theorem drop (h : Mirrors ttl (some now) seen entries r) {p s : Int} {e : Entry}
    (he : entries.lookup (pageKey p s) = some e)
    (hpast : Json.relate .ge now e.expiresAt = .ok true) :
    Mirrors ttl (some now) seen (MemoryCache.without entries (pageKey p s)) r := by
  refine ⟨h.nodup.sublist (List.filter_sublist.map _), fun kv hkv =>
    h.owned kv (MemoryCache.without_subset _ _ hkv), h.readings, h.latest, ?_, ?_⟩
  · intro p' s' e' he'
    rw [MemoryCache.lookup_without] at he'
    split at he'
    · cases he'
    · exact h.filled p' s' e' he'
  · intro p' s' c hc habsent
    rw [MemoryCache.lookup_without] at habsent
    split at habsent
    · -- the dropped entry: its page's latest fill expires at the entry's expiry
      rename_i hkey
      obtain ⟨rfl, rfl⟩ := pageKey_inj hkey
      obtain ⟨c', hc', hexp⟩ := h.filled p' s' e he
      rw [hc] at hc'
      cases hc'
      exact ⟨e.expiresAt, now, hexp, rfl, hpast⟩
    · exact h.expired p' s' c hc habsent

/-- Writing the page read at `now` as the latest fill of its page keeps the invariant. -/
theorem write (h : Mirrors ttl (some now) seen entries r) {p s : Int} (hmem : (p, s) ∈ seen)
    (hnow : now.FloatLike) {e : Json} (hexp : Json.add now ttl = .ok e) (pg : Page) :
    Mirrors ttl (some now) seen
      (MemoryCache.without entries (pageKey p s) ++
        [(pageKey p s, ⟨pg, e⟩)])
      { r with filledAt := Function.update r.filledAt (p, s) (some now) } := by
  have hother : ∀ p' s' : Int, pageKey p' s' ≠ pageKey p s →
      (p', s') ≠ (p, s) := by
    rintro p' s' hkey ⟨⟩
    exact hkey rfl
  refine ⟨MemoryCache.nodup_keys_write h.nodup _ _, ?_, ?_, h.latest, ?_, ?_⟩
  · intro kv hkv
    rcases MemoryCache.mem_write hkv with rfl | hold
    · exact ⟨p, s, rfl, hmem⟩
    · exact h.owned kv hold
  · intro key c hc
    dsimp only at hc
    by_cases hkey : key = (p, s)
    · subst hkey
      simp only [Function.update_self, Option.some.injEq] at hc
      exact hc ▸ hnow
    · rw [Function.update_of_ne hkey] at hc
      exact h.readings key c hc
  · intro p' s' e' he'
    dsimp only
    rw [MemoryCache.lookup_write] at he'
    split at he'
    · rename_i hkey
      obtain ⟨rfl, rfl⟩ := pageKey_inj hkey
      cases he'
      exact ⟨now, Function.update_self _ _ _, hexp⟩
    · rename_i hkey
      rw [Function.update_of_ne (hother p' s' hkey)]
      exact h.filled p' s' e' he'
  · intro p' s' c hc habsent
    dsimp only at hc
    rw [MemoryCache.lookup_write] at habsent
    split at habsent
    · cases habsent
    · rename_i hkey
      rw [Function.update_of_ne (hother p' s' hkey)] at hc
      exact h.expired p' s' c hc habsent

/-! ## Reading and storing -/

variable {m : MemoryCache}

/-- A read of the cache at the latest reading `now` hits exactly when its page is fresh. On a miss
the cache counts it, drops the entry if it has expired, and keeps the invariant. -/
theorem read (h : Mirrors ttl (some now) seen m.entries r) (httl : ttl.FloatLike)
    (hnow : now.FloatLike) {p s : Int} (hp : fitsNumeral p = true) (hs : fitsNumeral s = true) :
    (r.fresh ttl now (p, s) = true ∧ ∃ e, m.entry? (pageKey p s) = some e ∧
      m.get now (.int p) (.int s) = .ok (some e.page, { m with hits := m.hits + 1 })) ∨
    (r.fresh ttl now (p, s) = false ∧ ∃ m', m.get now (.int p) (.int s) = .ok (none, m') ∧
      m'.ttl = m.ttl ∧ m'.capacity = m.capacity ∧ m'.hits = m.hits ∧
      m'.misses = m.misses + 1 ∧ Mirrors ttl (some now) seen m'.entries r) := by
  have hk := cacheKey_int_of_fits hp hs
  cases he : m.entry? (pageKey p s) with
  | none =>
    exact .inr ⟨h.fresh_false_of_absent httl he, _, MemoryCache.get_absent hk he, rfl, rfl, rfl,
      rfl, h⟩
  | some e =>
    -- the entry is the latest fill, so freshness and the hit ask the same comparison
    obtain ⟨c, hc, hexp⟩ := h.filled p s e he
    obtain ⟨xe, hxe⟩ := expiry_isNum (h.readings _ c hc) httl hexp
    obtain ⟨xt, hxt, -⟩ := hnow
    have hlt := Json.relate_of_num (r := .lt) hxt hxe
    have hfresh := Recency.fresh_of_filled hc hexp hlt
    cases hb : ((xt.compare? xe).map Relation.lt.holds).getD false
    · rw [hb] at hlt hfresh
      have hge := Json.relate_of_num (r := .ge) hxt hxe
      refine .inr ⟨hfresh, _, MemoryCache.get_stale hk he hlt hge, rfl, rfl, rfl, rfl, ?_⟩
      split
      · rename_i hpast
        exact h.drop he (hge.trans (congrArg Except.ok hpast))
      · exact h
    · rw [hb] at hlt hfresh
      exact .inl ⟨hfresh, e, rfl, MemoryCache.get_hit hk he hlt⟩

/-- Storing the page read at `now` never evicts when the cache has room for every page read, and
makes it the latest fill of its page. -/
theorem put (h : Mirrors ttl (some now) seen m.entries r) (hmttl : m.ttl = ttl) {cap : Int}
    (hcap : m.capacity = .int cap) (hroom : (seen.dedup.length : Int) ≤ cap) {p s : Int}
    (hp : fitsNumeral p = true) (hs : fitsNumeral s = true) (hmem : (p, s) ∈ seen)
    (httl : ttl.FloatLike) (hnow : now.FloatLike) (pg : Page) :
    ∃ e, Json.add now ttl = .ok e ∧
      m.put now (.int p) (.int s) pg =
        ({ m with entries := MemoryCache.without m.entries (pageKey p s) ++
                               [(pageKey p s, ⟨pg, e⟩)] }, .ok ()) ∧
      Mirrors ttl (some now) seen (MemoryCache.without m.entries (pageKey p s) ++
          [(pageKey p s, ⟨pg, e⟩)])
        { r with filledAt := Function.update r.filledAt (p, s) (some now) } := by
  obtain ⟨n, hn⟩ := hnow.add httl
  have hspace : m.entry? (pageKey p s) = none → m.entries.length < cap := by
    intro habsent
    have hlt := length_lt_of_owned h.nodup h.owned habsent hmem
    omega
  refine ⟨n.toJson, hn, MemoryCache.put_of_room hcap (cacheKey_int_of_fits hp hs) hspace (hmttl ▸ hn), ?_⟩
  exact h.write hmem hnow hn pg

end Mirrors

/-- A service over the recency's store, with an in-memory cache whose entries mirror it. -/
structure Tracks (ttl : Json) (last : Option Json) (seen : List (Int × Int)) (maxPageSize : Json)
    (cap : Int) (sv : Service) (r : Recency) : Prop where
  store : sv.store = r.store
  maxPageSize : sv.maxPageSize = maxPageSize
  cache : ∃ m, sv.cache = .memory m ∧ m.ttl = ttl ∧ m.capacity = .int cap ∧
    Mirrors ttl last seen m.entries r

namespace Tracks

variable {ttl now maxPageSize : Json} {last : Option Json} {seen : List (Int × Int)} {cap : Int}
  {sv : Service} {r : Recency}

theorem later (h : Tracks ttl last seen maxPageSize cap sv r) (httl : ttl.FloatLike)
    (hnow : now.FloatLike) (hle : ∀ l, last = some l → Json.relate .le l now = .ok true) :
    Tracks ttl (some now) seen maxPageSize cap sv r := by
  obtain ⟨hstore, hmax, m, hcache, hmttl, hcap, hm⟩ := h
  exact ⟨hstore, hmax, m, hcache, hmttl, hcap, hm.later httl hnow hle⟩

theorem seen_mono (h : Tracks ttl last seen maxPageSize cap sv r) {seen' : List (Int × Int)}
    (hsub : seen ⊆ seen') : Tracks ttl last seen' maxPageSize cap sv r := by
  obtain ⟨hstore, hmax, m, hcache, hmttl, hcap, hm⟩ := h
  exact ⟨hstore, hmax, m, hcache, hmttl, hcap, hm.seen_mono hsub⟩

/-- Dropping every entry, whatever the store becomes, leaves nothing fresh. -/
theorem dropped (h : Tracks ttl last seen maxPageSize cap sv r) (st : Store) :
    ∃ m, sv.cache = .memory m ∧
      Tracks ttl last seen maxPageSize cap
        { sv with store := st, cache := .memory { m with entries := [] } } ⟨st, fun _ => none⟩ := by
  obtain ⟨-, hmax, m, hcache, hmttl, hcap, hm⟩ := h
  exact ⟨m, hcache, rfl, hmax, _, rfl, hmttl, hcap, Mirrors.empty hm.latest st⟩

/-- An atomic write of the store, reported in the log, keeps a service and its recency in step,
whether it succeeds or fails. -/
theorem change {α : Type} (h : Tracks ttl last seen maxPageSize cap sv r) {w : StoreM α}
    (hw : w.Atomic) (parts : α → List Json) {res : Except Fault Store}
    (hres : (w.answer sv.store).map Prod.snd = res) :
    Tracks ttl last seen maxPageSize cap (Service.logged (sv.change w) parts).2
      (r.changed res) := by
  rw [Service.logged_snd]
  subst hres
  cases hw' : w sv.store with
  | error f s' =>
    rw [Service.change_of_atomic hw hw']
    simpa [StoreM.answer, hw', Recency.changed, Except.map] using h
  | ok a st =>
    obtain ⟨m, hcache, hdrop⟩ := h.dropped st
    rw [Service.change_ok hcache hw']
    simpa [StoreM.answer, hw', Recency.changed, Except.map] using hdrop

/-- A valid read of a fresh page is answered from the cache, any other valid read is recomputed,
and the read keeps a service and its recency in step. The clock reading `now` is the latest, and
the page read is among the pages read. -/
theorem getPage (h : Tracks ttl (some now) seen maxPageSize cap sv r) (httl : ttl.FloatLike)
    (hnow : now.FloatLike) (hroom : (seen.dedup.length : Int) ≤ cap) {p s : Int}
    (hmem : (p, s) ∈ seen) (hp : fitsNumeral p = true) (hs : fitsNumeral s = true)
    (hvalid : validatePagination maxPageSize (.int p) (.int s) = .ok ()) :
    ((r.fresh ttl now (p, s) = true → sv.AnsweredFromCache now p s) ∧
      (r.fresh ttl now (p, s) = false → sv.Recomputed now p s)) ∧
    Tracks ttl (some now) seen maxPageSize cap (sv.getPage now (.int p) (.int s)).2
      (r.step maxPageSize ttl now (.getPage p s)) := by
  obtain ⟨hstore, hmax, m, hcache, hmttl, hcap, hm⟩ := h
  have hv : validatePagination sv.maxPageSize (.int p) (.int s) = .ok () := hmax ▸ hvalid
  rcases hm.read httl hnow hp hs with ⟨hfresh, e, he, hget⟩ |
    ⟨hfresh, m', hget, httl', hcap', hhits, hmisses, hm'⟩
  · -- a hit: the answer is the entry's page and the recency stays
    have hans : sv.getPage now (.int p) (.int s) =
        (.ok e.page, { sv with cache := .memory { m with hits := m.hits + 1 } }) := by
      simp only [Service.getPage, hv, hcache, Cache.get_memory hget]
    have hstep : r.step maxPageSize ttl now (.getPage p s) = r := by
      simp [Recency.step, hvalid, hfresh, hp, hs]
    refine ⟨⟨fun _ => ⟨m, e, hcache, he, hans⟩, fun hf => by simp [hfresh] at hf⟩, ?_⟩
    rw [hans, hstep]
    exact ⟨hstore, hmax, _, rfl, hmttl, hcap, hm⟩
  · -- a miss: the store's page is computed, and stored when there is one
    have hnothit : r.fresh ttl now (p, s) = true → sv.AnsweredFromCache now p s := by
      intro hf
      simp [hfresh] at hf
    cases hpg : sv.store.pageOf (.int p) (.int s) with
    | error f =>
      have hans : sv.getPage now (.int p) (.int s) = (.error f, { sv with cache := .memory m' }) := by
        simp only [Service.getPage, hv, hcache, Cache.get_memory hget, hpg]
      have hstep : r.step maxPageSize ttl now (.getPage p s) = r := by
        simp [Recency.step, hvalid, hfresh, hp, hs, ← hstore, hpg]
      refine ⟨⟨hnothit, fun _ => ⟨m, m', hcache, by rw [hans, hpg], hhits, hmisses, ?_⟩⟩, ?_⟩
      · intro pg hpg'
        simp [hpg] at hpg'
      · rw [hans, hstep]
        exact ⟨hstore, hmax, m', rfl, httl'.trans hmttl, hcap'.trans hcap, hm'⟩
    | ok pg =>
      obtain ⟨e, hexp, hput, hm''⟩ :=
        Mirrors.put hm' (httl'.trans hmttl) (hcap'.trans hcap) hroom hp hs hmem httl hnow pg
      have hans : sv.getPage now (.int p) (.int s) =
          (.ok pg, { sv with cache := .memory (m'.put now (.int p) (.int s) pg).1 }) := by
        simp only [Service.getPage, hv, hcache, Cache.get_memory hget, hpg, Cache.put, hput]
        rfl
      have hstep : r.step maxPageSize ttl now (.getPage p s) =
          { r with filledAt := Function.update r.filledAt (p, s) (some now) } := by
        simp [Recency.step, hvalid, hfresh, hp, hs, ← hstore, hpg]
      have hstored : (m'.put now (.int p) (.int s) pg).1.hits = m.hits ∧
          (m'.put now (.int p) (.int s) pg).1.misses = m.misses + 1 := by
        rw [hput]
        exact ⟨hhits, hmisses⟩
      refine ⟨⟨hnothit, fun _ => ⟨m, _, hcache, by rw [hans, hpg], hstored.1, hstored.2, ?_⟩⟩, ?_⟩
      · intro pg' hpg'
        rw [hpg, Except.ok.injEq] at hpg'
        subst hpg'
        refine ⟨e, hmttl ▸ hexp, ?_⟩
        simp [hput, MemoryCache.entry?, MemoryCache.lookup_write]
      · rw [hans, hstep, hput]
        exact ⟨hstore, hmax, _, rfl, httl'.trans hmttl, hcap'.trans hcap, hm''⟩

/-- Every call but a new time-to-live keeps a service and its recency in step, the clock reading
`now` being at or after the latest. -/
theorem call (h : Tracks ttl last seen maxPageSize cap sv r) (httl : ttl.FloatLike)
    (hnow : now.FloatLike) (hle : ∀ l, last = some l → Json.relate .le l now = .ok true)
    {c : Call} (hc : ∀ x, c ≠ .setTtl x)
    (hroom : ((seen ++ (c.pageRead? maxPageSize).toList).dedup.length : Int) ≤ cap) :
    Tracks ttl (some now) (seen ++ (c.pageRead? maxPageSize).toList) maxPageSize cap
      (sv.call now c) (r.step maxPageSize ttl now c) := by
  have h' := h.later httl hnow hle
  cases c with
  | getPage p s =>
    cases hv : validatePagination maxPageSize (.int p) (.int s) with
    | error f =>
      -- an invalid read changes nothing
      have hsv : sv.call now (.getPage p s) = sv := by
        simp [Service.call, Service.getPage, h.maxPageSize, hv]
      simpa [Call.pageRead?, hv, hsv, Recency.step, Except.toBool] using h'
    | ok u =>
      have hread : (Call.getPage p s).pageRead? maxPageSize = some (p, s) := by
        simp [Call.pageRead?, hv, Except.toBool]
      rw [hread] at hroom ⊢
      have h'' := h'.seen_mono (List.subset_append_left seen [(p, s)])
      cases hps : fitsNumeral p && fitsNumeral s with
      | false =>
        -- a page without a key fails before the cache, and nothing changes
        obtain ⟨m, hcache, -⟩ := h.cache
        have hsv : sv.call now (.getPage p s) = sv :=
          congrArg Prod.snd (Service.getPage_wide hcache (h.maxPageSize ▸ hv) hps)
        have hstep : r.step maxPageSize ttl now (.getPage p s) = r := by
          simp [Recency.step, hv, hps]
        rw [hsv, hstep]
        exact h''
      | true =>
        obtain ⟨hp, hs⟩ := Bool.and_eq_true_iff.mp hps
        exact (getPage h'' httl hnow hroom (by simp) hp hs hv).2
  | getNode i => simpa [Call.pageRead?, Service.call, Service.getNode, Recency.step] using h'
  | createNode label parent =>
    simp only [Call.pageRead?, Option.toList, List.append_nil, Service.call, Service.createNode,
      Recency.step]
    refine h'.change ((Store.createM_atomic label _).map _) _ ?_
    rw [StoreM.answer_map_snd, h.store]
    rfl
  | updateNode i label parent =>
    simp only [Call.pageRead?, Option.toList, List.append_nil, Service.call, Service.updateNode,
      Recency.step]
    refine h'.change ((Store.updateM_atomic _ label _).map _) _ ?_
    rw [StoreM.answer_map_snd, h.store]
    rfl
  | deleteNode i =>
    simp only [Call.pageRead?, Option.toList, List.append_nil, Service.call, Service.deleteNode,
      Recency.step]
    exact h'.change (Store.deleteM_atomic _) _ (by rw [h.store]; rfl)
  | clearCache =>
    obtain ⟨m, hcache, hdrop⟩ := h'.dropped sv.store
    simpa [Call.pageRead?, Service.call, Service.clearCache, hcache, Cache.invalidate,
      MemoryCache.invalidate, Recency.step, h.store] using hdrop
  | cacheStats => simpa [Call.pageRead?, Service.call, Recency.step] using h'
  | setTtl x => exact absurd rfl (hc x)
  | invalidateCache =>
    obtain ⟨m, hcache, hdrop⟩ := h'.dropped sv.store
    simpa [Call.pageRead?, Service.call, hcache, Cache.invalidate, MemoryCache.invalidate,
      Recency.step, h.store] using hdrop

/-- A run whose clock never moves backwards and reads numbers a float can hold, with no new
time-to-live and room in the cache for every page it reads, keeps a service and its recency in
step. The induction is on the run; the latest reading and the pages read grow with it. -/
theorem run (h : Tracks ttl last seen maxPageSize cap sv r) (httl : ttl.FloatLike)
    {calls : List (Json × Call)} (hnum : ∀ c ∈ calls, c.1.FloatLike)
    (hmono : (last.toList ++ calls.map Prod.fst).IsChain fun a b => Json.relate .le a b = .ok true)
    (hnoTtl : ∀ c ∈ calls, ∀ x, c.2 ≠ .setTtl x)
    (hroom : ((seen ++ pagesRead maxPageSize calls).dedup.length : Int) ≤ cap) :
    Tracks ttl (last.toList ++ calls.map Prod.fst).getLast? (seen ++ pagesRead maxPageSize calls)
      maxPageSize cap (sv.run calls) (r.run maxPageSize ttl calls) := by
  induction calls generalizing sv r last seen with
  | nil =>
    cases last <;> simpa using h
  | cons c calls ih =>
    obtain ⟨now, call⟩ := c
    have hle : ∀ l, last = some l → Json.relate .le l now = .ok true := by
      rintro l rfl
      exact (List.isChain_cons_cons.mp hmono).1
    have hseen : seen ++ pagesRead maxPageSize ((now, call) :: calls) =
        (seen ++ (call.pageRead? maxPageSize).toList) ++ pagesRead maxPageSize calls := by
      rw [pagesRead_cons, List.append_assoc]
    rw [hseen] at hroom ⊢
    have hfirst : (((seen ++ (call.pageRead? maxPageSize).toList).dedup.length : Nat) : Int) ≤ cap :=
      le_trans (Int.ofNat_le.mpr (dedup_length_le (List.subset_append_left _ _))) hroom
    have hstep := h.call httl (hnum _ List.mem_cons_self) hle
      (hnoTtl _ List.mem_cons_self) hfirst
    have hrest : ((some now).toList ++ calls.map Prod.fst).IsChain
        fun a b => Json.relate .le a b = .ok true :=
      hmono.right_of_append
    have hlast : (last.toList ++ ((now, call) :: calls).map Prod.fst).getLast? =
        ((some now).toList ++ calls.map Prod.fst).getLast? := by
      simp only [List.map_cons, List.getLast?_append_cons]
      rfl
    rw [hlast]
    exact ih hstep (fun c hc => hnum c (List.mem_cons_of_mem _ hc)) hrest
      (fun c hc => hnoTtl c (List.mem_cons_of_mem _ hc)) hroom

end Tracks

/-- A new service over an empty store with an empty in-memory cache is in step with a recency that
has read nothing. -/
theorem Tracks.start (backend : Backend) (ttl maxPageSize : Json) (cap : Int) :
    Tracks ttl none [] maxPageSize cap
      (Service.create backend (.memory (.empty ttl (.int cap))) maxPageSize)
      (Recency.start backend) :=
  ⟨rfl, rfl, _, rfl, rfl, rfl, Mirrors.empty (by simp) _⟩

/-- **The cache answers exactly the fresh reads.** Take any run from an empty store and an empty
in-memory cache, followed by a valid read of page `p` of `s` rows at `now`, both of at most
`maxIntDigits` digits. Let the clock never
move backwards and read numbers a float can hold, let the time-to-live be such a number and never
change, and let the cache have room for every page read. Then the read is answered from the cache
exactly when the page is fresh: its latest read since the last successful change of the store or
dropped cache that was computed from the store and gave a page was at `c` with `now < c + ttl`.
Otherwise it is computed from the store, counts one miss, and stores the page it gives. -/
theorem cache_hit_iff_recent_fill (backend : Backend) (ttl maxPageSize : Json) (cap : Int)
    (calls : List (Json × Call)) (now : Json) (p s : Int) (httl : ttl.FloatLike)
    (hnum : ∀ c ∈ calls ++ [(now, Call.getPage p s)], c.1.FloatLike)
    (hmono : ((calls ++ [(now, Call.getPage p s)]).map Prod.fst).IsChain
      fun a b => Json.relate .le a b = .ok true)
    (hnoTtl : ∀ c ∈ calls, ∀ x, c.2 ≠ .setTtl x)
    (hroom : ((pagesRead maxPageSize (calls ++ [(now, Call.getPage p s)])).dedup.length : Int) ≤ cap)
    (hvalid : validatePagination maxPageSize (.int p) (.int s) = .ok ())
    (hp : fitsNumeral p = true) (hs : fitsNumeral s = true) :
    let sv := (Service.create backend (.memory (.empty ttl (.int cap))) maxPageSize).run calls
    let r := (Recency.start backend).run maxPageSize ttl calls
    (sv.AnsweredFromCache now p s ↔ r.fresh ttl now (p, s) = true) ∧
      (r.fresh ttl now (p, s) = false → sv.Recomputed now p s) := by
  intro sv r
  have hreads : pagesRead maxPageSize (calls ++ [(now, Call.getPage p s)]) =
      pagesRead maxPageSize calls ++ [(p, s)] := by
    simp [pagesRead_append, pagesRead_cons, Call.pageRead?, hvalid, Except.toBool]
  rw [hreads] at hroom
  have hclock := List.isChain_append.mp (by simpa using hmono)
  -- the run keeps the service in step with the recency
  have hrun := (Tracks.start backend ttl maxPageSize cap).run httl
    (fun c hc => hnum c (List.mem_append_left _ hc)) (by simpa using hclock.1) hnoTtl
    (le_trans (Int.ofNat_le.mpr (dedup_length_le (List.subset_append_left _ _))) hroom)
  have hnow : now.FloatLike := hnum _ (List.mem_append_right _ List.mem_cons_self)
  have hle : ∀ l, (none.toList ++ calls.map Prod.fst).getLast? = some l →
      Json.relate .le l now = .ok true := by
    intro l hl
    exact hclock.2.2 l (by simpa using hl) now rfl
  -- and then the read itself
  have hread := ((hrun.later httl hnow hle).seen_mono (List.subset_append_left _ _)).getPage
    httl hnow (by simpa using hroom) (by simp) hp hs hvalid
  obtain ⟨hhit, hmiss⟩ := hread.1
  refine ⟨⟨fun hans => ?_, hhit⟩, hmiss⟩
  cases hfresh : r.fresh ttl now (p, s)
  · exact absurd hans (Service.not_answered_of_recomputed (hmiss hfresh))
  · rfl

/-- A run that creates a node and reads its page, and a second read of that page a second later. -/
theorem cache_hit_iff_recent_fill_second_read :
    (Json.float 300.0).FloatLike ∧
      (∀ c ∈ [(Json.float 1000.0, Call.createNode (.text "a") none), (.float 1001.0, .getPage 1 10)] ++
        [(Json.float 1002.0, Call.getPage 1 10)], c.1.FloatLike) ∧
      (([(Json.float 1000.0, Call.createNode (.text "a") none), (.float 1001.0, .getPage 1 10)] ++
        [(Json.float 1002.0, Call.getPage 1 10)]).map Prod.fst).IsChain
          (fun a b => Json.relate .le a b = .ok true) ∧
      (∀ c ∈ [(Json.float 1000.0, Call.createNode (.text "a") none), (.float 1001.0, .getPage 1 10)],
        ∀ x, c.2 ≠ .setTtl x) ∧
      ((pagesRead (.int 100) ([(Json.float 1000.0, Call.createNode (.text "a") none),
        (.float 1001.0, .getPage 1 10)] ++ [(Json.float 1002.0, Call.getPage 1 10)])).dedup.length : Int) ≤
          1000 ∧
      validatePagination (.int 100) (.int 1) (.int 10) = .ok () ∧
      fitsNumeral 1 = true ∧ fitsNumeral 10 = true ∧
      let sv := (Service.create .sql (.memory (.empty (.float 300.0) (.int 1000))) (.int 100)).run
        [(.float 1000.0, .createNode (.text "a") none), (.float 1001.0, .getPage 1 10)]
      let r := (Recency.start .sql).run (.int 100) (.float 300.0)
        [(.float 1000.0, .createNode (.text "a") none), (.float 1001.0, .getPage 1 10)]
      (sv.AnsweredFromCache (.float 1002.0) 1 10 ↔ r.fresh (.float 300.0) (.float 1002.0) (1, 10)) ∧
        (r.fresh (.float 300.0) (.float 1002.0) (1, 10) = false →
          sv.Recomputed (.float 1002.0) 1 10) := by
  have hnum : ∀ c ∈ [(Json.float 1000.0, Call.createNode (.text "a") none),
      (.float 1001.0, .getPage 1 10)] ++ [(Json.float 1002.0, Call.getPage 1 10)], c.1.FloatLike := by
    simp [Json.floatLike_float]
  have hmono : (([(Json.float 1000.0, Call.createNode (.text "a") none),
      (.float 1001.0, .getPage 1 10)] ++ [(Json.float 1002.0, Call.getPage 1 10)]).map Prod.fst).IsChain
        (fun a b => Json.relate .le a b = .ok true) :=
    .cons_cons rfl (.cons_cons rfl (.singleton _))
  have hnoTtl : ∀ c ∈ [(Json.float 1000.0, Call.createNode (.text "a") none),
      (.float 1001.0, .getPage 1 10)], ∀ x, c.2 ≠ .setTtl x := by
    simp
  have hroom : ((pagesRead (.int 100) ([(Json.float 1000.0, Call.createNode (.text "a") none),
      (.float 1001.0, .getPage 1 10)] ++ [(Json.float 1002.0, Call.getPage 1 10)])).dedup.length : Int) ≤
        1000 := by
    decide +kernel
  have h1 : fitsNumeral 1 = true := fitsNumeral_of_lt (by decide)
  have h10 : fitsNumeral 10 = true := fitsNumeral_of_lt (by decide)
  exact ⟨Json.floatLike_float _, hnum, hmono, hnoTtl, hroom, rfl, h1, h10,
    cache_hit_iff_recent_fill .sql _ _ _ _ _ _ _ (Json.floatLike_float _) hnum hmono hnoTtl hroom
      rfl h1 h10⟩

/-- A read that misses and fails is no fill. On the SQL store a page size of `2 ^ 63` is valid
under a largest page size of `2 ^ 64` but cannot be bound as a limit, so the first read of that
page counts a miss and fails; the same read right after, at the same clock reading and well within
the time-to-live, is not answered from the cache but fails again. -/
theorem failed_read_is_not_cached :
    let sv₁ := (Service.create .sql (.memory (.empty (.int 300) (.int 1000))) (.int (2 ^ 64))).run
      [(.int 1000, .createNode (.text "a") none)]
    let sv₂ := sv₁.call (.int 1000) (.getPage 1 (2 ^ 63))
    (sv₁.getPage (.int 1000) (.int 1) (.int (2 ^ 63))).1.toBool = false ∧
      (sv₂.getPage (.int 1000) (.int 1) (.int (2 ^ 63))).1.toBool = false ∧
      ¬ sv₂.AnsweredFromCache (.int 1000) 1 (2 ^ 63) := by
  intro sv₁ sv₂
  -- the run passes through the digit check of the log, which only the kernel evaluates
  have hfail : (sv₂.getPage (.int 1000) (.int 1) (.int (2 ^ 63))).1.toBool = false := by
    decide +kernel
  refine ⟨by decide +kernel, hfail, ?_⟩
  rintro ⟨m, e, -, -, hans⟩
  rw [hans] at hfail
  cases hfail

end Arbor
