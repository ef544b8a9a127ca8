import Arbor.Proofs.Cache.Key
import Arbor.Proofs.Cache.Memory
import Arbor.Proofs.Service.Run
import Arbor.Proofs.Service.Change
import Mathlib

set_option autoImplicit false

/-! # Reading through the cache is transparent

A page read through the in-memory cache is the page the store gives at that moment. The
invariant that carries this is `Service.Coherent`: the cache is an in-memory cache with room for
a page and a time-to-live a float can hold, and every entry expires at a number and holds the
page that the store gives for the requests with its key (`EntryAgrees`). The key texts of
distinct pages are distinct (`pageKey_inj`), so an entry speaks for one request.

Every call keeps the invariant (`Service.call_coherent`): a read stores only the store's own
page, a successful change of the store drops every entry, a failed change leaves store and cache
as they were, since every write of the store is atomic, and a new time-to-live moves expiries
only. From a coherent service a request for a page with a key, whose number and size have at most
`maxIntDigits` digits, answers as the store does (`Service.getPage_coherent`), which gives the
main statement `cached_page_matches_store` for every run whose clock readings and time-to-live
settings are numbers a float can hold (`Timely`). A request for any other page passes the checks
of the request and then fails, as the cache cannot name it (`Service.getPage_wide`).

That condition is needed: an integer time-to-live too large for a float cannot be added to a
float clock reading, and then storing the first page read fails although the store's page is
there (`cached_page_fails_with_huge_ttl`).
-/

namespace Arbor

/-- A cached entry agrees with the store `st`: it expires at a number, and it holds the page that
the store gives for each request by integers whose key it has. -/
structure EntryAgrees (st : Store) (kv : Text × Entry) : Prop where
  expiry : ∃ n, Num.ofJson? kv.2.expiresAt = some n
  page : ∀ p s : Int, pageKey p s = kv.1 → st.pageOf (.int p) (.int s) = .ok kv.2.page

/-- An in-memory cache that answers for the store `st`. -/
structure MemoryCache.Coherent (m : MemoryCache) (st : Store) : Prop where
  room : ∃ cap : Int, m.capacity = .int cap ∧ 1 ≤ cap
  ttl : m.ttl.FloatLike
  entries : ∀ kv ∈ m.entries, EntryAgrees st kv

/-- A service whose cache is an in-memory cache that answers for its store. -/
def Service.Coherent (sv : Service) : Prop :=
  ∃ m, sv.cache = .memory m ∧ m.Coherent sv.store

/-- The page computed without the cache: the request checked, then the store's page. -/
def Service.uncachedPage (sv : Service) (page pageSize : Json) : Except Fault Page := do
  validatePagination sv.maxPageSize page pageSize
  sv.store.pageOf page pageSize

namespace MemoryCache.Coherent

variable {m : MemoryCache} {st : Store}

theorem mono {m' : MemoryCache} (h : m.Coherent st) (hcap : m'.capacity = m.capacity)
    (httl : m'.ttl = m.ttl) (hsub : m'.entries ⊆ m.entries) : m'.Coherent st :=
  ⟨hcap ▸ h.room, httl ▸ h.ttl, fun kv hkv => h.entries kv (hsub hkv)⟩

/-- A cache without entries answers for any store. -/
theorem cleared (h : m.Coherent st) (st' : Store) :
    ({ m with entries := [] } : MemoryCache).Coherent st' :=
  ⟨h.room, h.ttl, fun _ hkv => absurd hkv List.not_mem_nil⟩

/-- Reading a page with a key from a coherent cache at a numeric clock reading answers, keeps it
coherent, and answers with the store's own page when it hits. -/
theorem get (h : m.Coherent st) {now : Json} {x : Num} (hx : Num.ofJson? now = some x)
    {p s : Int} (hp : fitsNumeral p = true) (hs : fitsNumeral s = true) :
    ∃ r m', m.get now (.int p) (.int s) = .ok (r, m') ∧ m'.Coherent st ∧
      ∀ pg, r = some pg → st.pageOf (.int p) (.int s) = .ok pg := by
  have hck := cacheKey_int_of_fits hp hs
  cases he : m.entry? (pageKey p s) with
  | none => exact ⟨none, _, get_absent hck he, h.mono rfl rfl (List.Subset.refl _), by simp⟩
  | some e =>
    have agree := h.entries _ (mem_entries_of_lookup he)
    obtain ⟨n, hn⟩ := agree.expiry
    cases hlt : ((x.compare? n).map Relation.lt.holds).getD false
    · refine ⟨none, _, get_stale hck he (by rw [Json.relate_of_num hx hn, hlt])
        (Json.relate_of_num hx hn), h.mono rfl rfl ?_, by simp⟩
      split
      · exact without_subset _ _
      · exact List.Subset.refl _
    · refine ⟨some e.page, _, get_hit hck he (by rw [Json.relate_of_num hx hn, hlt]),
        h.mono rfl rfl (List.Subset.refl _), ?_⟩
      rintro pg ⟨⟩
      exact agree.page p s rfl

/-- Storing the store's own page, of a page with a key, keeps the cache coherent, and storing
cannot fail. -/
theorem put {now : Json} (h : m.Coherent st) (hnow : now.FloatLike) {p s : Int}
    (hp : fitsNumeral p = true) (hs : fitsNumeral s = true) {pg : Page}
    (hpg : st.pageOf (.int p) (.int s) = .ok pg) :
    ∃ m', m.put now (.int p) (.int s) pg = (m', .ok ()) ∧ m'.Coherent st := by
  obtain ⟨cap, hcap, hpos⟩ := h.room
  obtain ⟨entries, hroom⟩ : ∃ entries, m.makeRoom (pageKey p s) = .ok entries :=
    makeRoom_ok hcap hpos
  obtain ⟨n, hn⟩ := hnow.add h.ttl
  refine ⟨_, put_eq (cacheKey_int_of_fits hp hs) hroom hn, h.room, h.ttl, ?_⟩
  intro kv hkv
  rcases List.mem_append.mp hkv with hold | hnew
  · exact h.entries kv (makeRoom_subset hroom (without_subset _ _ hold))
  · simp only [List.mem_singleton] at hnew
    subst hnew
    refine ⟨⟨n, Num.ofJson?_toJson n⟩, fun p' s' hkey => ?_⟩
    obtain ⟨rfl, rfl⟩ := pageKey_inj hkey
    exact hpg

end MemoryCache.Coherent

namespace Service

variable {sv : Service} {now : Json}

/-- A coherent service answers a request for a page with a key as the store does, and stays
coherent. -/
theorem getPage_coherent (h : sv.Coherent) (hnow : now.FloatLike) {p s : Int}
    (hp : fitsNumeral p = true) (hs : fitsNumeral s = true) :
    (sv.getPage now (.int p) (.int s)).1 = sv.uncachedPage (.int p) (.int s) ∧
    (sv.getPage now (.int p) (.int s)).2.Coherent := by
  obtain ⟨m, hcache, hm⟩ := h
  obtain ⟨x, hx, -⟩ := id hnow
  unfold getPage uncachedPage
  cases hv : validatePagination sv.maxPageSize (.int p) (.int s) with
  | error f => exact ⟨rfl, m, hcache, hm⟩
  | ok u =>
    obtain ⟨r, m', hget, hm', hhit⟩ := hm.get hx hp hs
    simp only [hcache, Cache.get_memory hget]
    cases r with
    | some pg => exact ⟨by simp [hhit pg rfl]; rfl, m', rfl, hm'⟩
    | none =>
      cases hpg : sv.store.pageOf (.int p) (.int s) with
      | error f => exact ⟨by simp; rfl, m', rfl, hm'⟩
      | ok pg =>
        -- a miss stores the store's page, which cannot fail in a coherent cache
        obtain ⟨m'', hput, hm''⟩ := hm'.put hnow hp hs hpg
        simp only [Cache.put, hput]
        exact ⟨rfl, m'', rfl, hm''⟩

/-- A request that passes its checks, for a page without a key, fails as an in-memory cache
cannot name it, and leaves the service as it was. -/
theorem getPage_wide {m : MemoryCache} (hcache : sv.cache = .memory m) {p s : Int}
    (hv : validatePagination sv.maxPageSize (.int p) (.int s) = .ok ())
    (hps : (fitsNumeral p && fitsNumeral s) = false) :
    sv.getPage now (.int p) (.int s) = (.error .tooManyDigitsToWrite, sv) := by
  have hget : m.get now (.int p) (.int s) = .error .tooManyDigitsToWrite :=
    MemoryCache.get_unkeyed (cacheKey_int_of_wide hps)
  simp [getPage, hv, hcache, Cache.get, hget, bind, Except.bind]

/-- An atomic write keeps a service coherent, and so does its report in the log: a failed write
leaves store and cache as they were, and one that succeeds drops every entry. -/
theorem change_coherent {α : Type} (h : sv.Coherent) {w : StoreM α} (hw : w.Atomic)
    (parts : α → List Json) : (logged (sv.change w) parts).2.Coherent := by
  obtain ⟨m, hcache, hm⟩ := h
  rw [logged_snd]
  cases hr : w sv.store with
  | error f s' =>
    rw [change_of_atomic hw hr]
    exact ⟨m, hcache, hm⟩
  | ok a st =>
    rw [change_ok hcache hr]
    exact ⟨{ m with entries := [] }, rfl, hm.cleared _⟩

theorem clearCache_coherent (h : sv.Coherent) : sv.clearCache.2.Coherent := by
  obtain ⟨m, hcache, hm⟩ := h
  refine ⟨{ m with entries := [] }, ?_, hm.cleared _⟩
  simp [clearCache, hcache, Cache.invalidate, MemoryCache.invalidate]

theorem setTtl_coherent {ttl : Json} (h : sv.Coherent) (hnow : now.FloatLike)
    (httl : ttl.FloatLike) :
    ({ sv with cache := (sv.cache.setTtl now ttl).1 } : Service).Coherent := by
  obtain ⟨m, hcache, hm⟩ := h
  obtain ⟨n, hn⟩ := hnow.add httl
  refine ⟨{ m with ttl,
                   entries := m.entries.map fun kv => (kv.1, { kv.2 with expiresAt := n.toJson }) },
    by simp only [hcache, Cache.setTtl, MemoryCache.setTtl_eq hn], hm.room, httl, ?_⟩
  intro kv hkv
  obtain ⟨kv', hkv', rfl⟩ := List.mem_map.mp hkv
  exact ⟨⟨n, Num.ofJson?_toJson n⟩, (hm.entries kv' hkv').page⟩

/-- Every call made at a clock reading a float can hold keeps a service coherent, when a new
time-to-live is such a number too. -/
theorem call_coherent (h : sv.Coherent) {c : Call} (hnow : now.FloatLike)
    (httl : ∀ ttl, c = .setTtl ttl → ttl.FloatLike) : (sv.call now c).Coherent := by
  cases c with
  | getPage p s =>
    cases hps : fitsNumeral p && fitsNumeral s with
    | true =>
      obtain ⟨hp, hs⟩ := Bool.and_eq_true_iff.mp hps
      exact (getPage_coherent h hnow hp hs).2
    | false =>
      -- a page without a key fails after its checks, or at them, and changes nothing
      show (sv.getPage now (.int p) (.int s)).2.Coherent
      cases hv : validatePagination sv.maxPageSize (.int p) (.int s) with
      | error f => simp [getPage, hv]; exact h
      | ok u =>
        obtain ⟨m, hcache, hm⟩ := h
        rw [getPage_wide hcache hv hps]
        exact ⟨m, hcache, hm⟩
  | getNode i => exact h
  | createNode label parent =>
    exact change_coherent h ((Store.createM_atomic label _).map _) _
  | updateNode i label parent =>
    exact change_coherent h ((Store.updateM_atomic _ label _).map _) _
  | deleteNode i => exact change_coherent h (Store.deleteM_atomic _) _
  | clearCache => exact clearCache_coherent h
  | cacheStats => exact h
  | setTtl ttl => exact setTtl_coherent h hnow (httl ttl rfl)
  | invalidateCache =>
    obtain ⟨m, hcache, hm⟩ := h
    refine ⟨{ m with entries := [] }, ?_, hm.cleared _⟩
    simp [call, hcache, Cache.invalidate, MemoryCache.invalidate]

end Service

/-- The clock readings of a run and the time-to-live settings among its calls are numbers a float
can hold. -/
def Timely (calls : List (Json × Call)) : Prop :=
  ∀ c ∈ calls, c.1.FloatLike ∧ ∀ ttl, c.2 = .setTtl ttl → ttl.FloatLike

namespace Service

variable {sv : Service}

/-- A timely run keeps a service coherent. -/
theorem run_coherent (h : sv.Coherent) {calls : List (Json × Call)} (hcalls : Timely calls) :
    (sv.run calls).Coherent := by
  induction calls generalizing sv with
  | nil => exact h
  | cons c calls ih =>
    have hc := hcalls c List.mem_cons_self
    exact ih (call_coherent h hc.1 hc.2) fun c' hc' => hcalls c' (List.mem_cons_of_mem _ hc')

/-- A new service over an empty store, with an empty in-memory cache that has room for a page
and a time-to-live a float can hold, is coherent. -/
theorem create_coherent (backend : Backend) {ttl : Json} {cap : Int} (maxPageSize : Json)
    (httl : ttl.FloatLike) (hcap : 1 ≤ cap) :
    (Service.create backend (.memory (.empty ttl (.int cap))) maxPageSize).Coherent :=
  ⟨_, rfl, ⟨cap, rfl, hcap⟩, httl, fun _ hkv => absurd hkv List.not_mem_nil⟩

end Service

/-- **Reading through the cache is transparent.** After any timely run of calls from an empty
store and an empty in-memory cache with room for a page, a request for page `p` of `s` rows,
both of at most `maxIntDigits` digits, answers with the document of the page computed from the
store, or fails as that computation fails. -/
theorem cached_page_matches_store (backend : Backend) (ttl maxPageSize : Json) (cap : Int)
    (calls : List (Json × Call)) (now : Json) (p s : Int) (hcap : 1 ≤ cap)
    (httl : ttl.FloatLike) (hcalls : Timely calls) (hnow : now.FloatLike)
    (hp : fitsNumeral p = true) (hs : fitsNumeral s = true) :
    let sv := (Service.create backend (.memory (.empty ttl (.int cap))) maxPageSize).run calls
    (sv.getPage now (.int p) (.int s)).1.map Page.toJson =
      (sv.uncachedPage (.int p) (.int s)).map Page.toJson := by
  intro sv
  have h := Service.run_coherent (Service.create_coherent backend maxPageSize httl hcap) hcalls
  rw [(Service.getPage_coherent h hnow hp hs).1]

/-- A run that creates a node and reads the first page, and then a read of that page. -/
theorem cached_page_matches_store_after_read :
    (1 : Int) ≤ 1000 ∧ (Json.float 300.0).FloatLike ∧
      Timely [(.float 1000.0, .createNode (.text "a") none), (.float 1001.0, .getPage 1 10)] ∧
      (Json.float 1002.0).FloatLike ∧ fitsNumeral 1 = true ∧ fitsNumeral 10 = true ∧
      let sv := (Service.create .sql (.memory (.empty (.float 300.0) (.int 1000))) (.int 100)).run
        [(.float 1000.0, .createNode (.text "a") none), (.float 1001.0, .getPage 1 10)]
      (sv.getPage (.float 1002.0) (.int 1) (.int 10)).1.map Page.toJson =
        (sv.uncachedPage (.int 1) (.int 10)).map Page.toJson := by
  have timely : Timely [(.float 1000.0, .createNode (.text "a") none),
      (.float 1001.0, .getPage 1 10)] := by
    simp [Timely, Json.floatLike_float]
  have h1 : fitsNumeral 1 = true := fitsNumeral_of_lt (by decide)
  have h10 : fitsNumeral 10 = true := fitsNumeral_of_lt (by decide)
  exact ⟨by decide, Json.floatLike_float _, timely, Json.floatLike_float _, h1, h10,
    cached_page_matches_store .sql _ _ _ _ _ _ _ (by decide) (Json.floatLike_float _) timely
      (Json.floatLike_float _) h1 h10⟩

/-- With a time-to-live of `2 ^ 1024` seconds given as an integer and a float clock, storing the
first page read fails: the expiry cannot be computed, though the store's page can. -/
theorem cached_page_fails_with_huge_ttl :
    let sv := Service.create .memory (.memory (.empty (.int (2 ^ 1024)) (.int 1000))) (.int 100)
    (sv.getPage (.float 1000.0) (.int 1) (.int 10)).1.toBool = false ∧
      (sv.uncachedPage (.int 1) (.int 10)).toBool = true := by
  decide +kernel

end Arbor
