import Arbor.Proofs.Store.Page
import Arbor.Proofs.Page.Count
import Arbor.Proofs.Service.Transparency

/-!
# Paging through the forest

A service built over an empty store with an empty in-memory cache answers every page, through
its cache, and the pages read one after another show every stored node once
(`paging_shows_forest_once`). The store it reaches by any run of its calls is one that a run of
store operations reaches from the empty store (`Service.run_store`), so it is sound, and the
cache answers as the store does (`Service.getPage_coherent`). Page `p` of `k` rows then shows the
window of the stored nodes after the first `(p - 1) * k` (`Store.pageRows`) as that window's
forest: a row whose parent is not on the page is at the top, every other row is a child of its
parent, and the rows are taken in ascending id order. The pagination counts `⌈n / k⌉` pages for
`n` stored rows.

Four limits come from the arithmetic around the store. The SQL backend binds the page size as a
64-bit limit and refuses a larger one. The page count divides as floats do, so once the page size
is `2 ^ 1075` times the number of rows or more, the quotient rounds to zero and so does the count,
while the first page still shows every row. A page number of more than `maxIntDigits` digits has
no cache key. An integer time-to-live too large for a float cannot be added to the clock, so the
first page read cannot be stored (`paging_breaks_outside_its_bounds`).
-/

set_option autoImplicit false

namespace Arbor

/-! ## The checks on a page -/

/-- A page of at least 1 and a page size between 1 and the largest allowed pass the checks. -/
theorem validatePagination_int {maxPageSize p k : Int} (hp : 1 ≤ p) (hk : 1 ≤ k)
    (hmax : k ≤ maxPageSize) :
    validatePagination (.int maxPageSize) (.int p) (.int k) = .ok () := by
  have hpage : ¬ p < 1 := by omega
  have hsize : ¬ k ≤ 0 := by omega
  have hlarge : ¬ maxPageSize < k := by omega
  simp [validatePagination, Json.relate_int, hpage, hsize, hlarge, Bind.bind, Except.bind, pure,
    Except.pure]

/-! ## One page of the store -/

namespace Store

variable {st : Store}

/-- **One page of a sound store.** Page `p` of `k` rows shows the forest of its rows, and its
pagination counts the stored rows and the pages. -/
theorem pageOf_rows (h : st.Sound) (hreach : st.reachable = true) {p k : Int} (hp : 1 ≤ p)
    (hk : 1 ≤ k) (hbind : st.backend = .sql → k < 2 ^ 63) (hn : st.nodes.length ≤ 2 ^ 53)
    (hsub : st.nodes.length = 0 ∨ k < 2 * 2 ^ 1074 * st.nodes.length) :
    st.pageOf (.int p) (.int k) =
      .ok ⟨pageForest (st.pageRows p k), ⟨.int p, .int k, .int st.nodes.length,
        .int ⌈(st.nodes.length : ℚ) / k⌉, .bool (decide (p < ⌈(st.nodes.length : ℚ) / k⌉)),
        .bool (decide (1 < p))⟩⟩ := by
  have hcompute := Pagination.compute_int (p := p) (by omega) hn hsub
  by_cases hempty : st.pageRows p k = []
  · -- no row: the builder refuses, and the page shows nothing
    simp only [pageOf, listPage_window hreach hp hk hbind, hcompute, hempty, Bind.bind,
      Except.bind, pure, Except.pure]
    rfl
  · have hrows := st.pageRows_sublist p k
    simp only [pageOf, listPage_window hreach hp hk hbind,
      build_ofPage (nodup_of_sublist h hrows) (ends_of_sublist h hrows) hempty, hcompute,
      Bind.bind, Except.bind, pure, Except.pure]

/-- **What one page shows.** The page counts the stored rows and `⌈n / k⌉` pages; it shows
nothing exactly when it comes after the last page; its trees are rooted at the rows whose parent
is not on the page, in order, each shows every child of each of its nodes in order, and together
they show every row of the page once, with its label. -/
theorem pageForest_shows (h : st.Sound) {p k : Int} (hp : 1 ≤ p) (hk : 1 ≤ k) :
    (pageForest (st.pageRows p k) = [] ↔ ⌈(st.nodes.length : ℚ) / k⌉ < p) ∧
      (pageForest (st.pageRows p k)).map Tree.id =
        ((st.pageRows p k).filter (·.atTop (st.pageRows p k))).map (fun m => .int m.id) ∧
      (∀ t ∈ pageForest (st.pageRows p k), Shows (st.pageRows p k) t) ∧
      ((pageForest (st.pageRows p k)).flatMap Tree.nodes).Perm
        ((st.pageRows p k).map Node.shown) := by
  have hrows := st.pageRows_sublist p k
  have hnodup := nodup_of_sublist h hrows
  have hends := ends_of_sublist h hrows
  refine ⟨?_, pageForest_ids hnodup, shows_pageForest hnodup hends,
    pageForest_nodes_perm hnodup hends⟩
  -- no tree, no row, and no row exactly after the last page
  rw [pageForest_eq_nil_iff hnodup hends, pageRows_eq_nil_iff hp hk, pageCount_lt_iff (by omega)]

/-! ## All pages of the store -/

/-- Pages `1` to `T` hold the first `T` pages' worth of stored rows, in order. The induction is on
the number of pages. -/
theorem flatMap_pageRows (s : Store) {k : Int} (hk : 0 ≤ k) (T : Nat) :
    (List.range T).flatMap (fun (i : Nat) => s.pageRows (i + 1) k) =
      s.nodes.take (T * k.toNat) := by
  induction T with
  | zero => simp
  | succ T ih =>
    have hoff : (((T : Int) + 1 - 1) * k).toNat = T * k.toNat := by
      rw [Int.add_sub_cancel, Int.toNat_mul (Int.natCast_nonneg T) hk, Int.toNat_natCast]
    rw [List.range_succ, List.flatMap_append, ih, List.flatMap_singleton, pageRows, hoff,
      ← List.take_add, Nat.succ_mul]

/-- `⌈n / k⌉` pages of `k` rows have room for the `n` rows. -/
theorem length_le_pageCount_mul {n : Nat} {k : Int} (hk : 0 < k) :
    n ≤ ⌈(n : ℚ) / k⌉.toNat * k.toNat := by
  have hkq : (0 : ℚ) < k := by exact_mod_cast hk
  have hceil := Int.le_ceil ((n : ℚ) / k)
  have hpages : 0 ≤ ⌈(n : ℚ) / k⌉ := Int.ceil_nonneg (div_nonneg (Nat.cast_nonneg n) hkq.le)
  rw [div_le_iff₀ hkq] at hceil
  have hroom : (n : Int) ≤ ⌈(n : ℚ) / k⌉ * k := by exact_mod_cast hceil
  have hcast : ((⌈(n : ℚ) / k⌉.toNat * k.toNat : Nat) : Int) = ⌈(n : ℚ) / k⌉ * k := by
    push_cast
    rw [Int.toNat_of_nonneg hpages, Int.toNat_of_nonneg hk.le]
  omega

/-- The rows of pages `1` to `⌈n / k⌉` are the stored rows, in order. -/
theorem pageRows_cover (s : Store) {k : Int} (hk : 1 ≤ k) :
    ((List.range ⌈(s.nodes.length : ℚ) / k⌉.toNat).map fun (i : Nat) => (i + 1 : Int)).flatMap
      (s.pageRows · k) = s.nodes := by
  rw [List.flatMap_map, flatMap_pageRows s (by omega),
    List.take_of_length_le (length_le_pageCount_mul (by omega))]

/-- A page number up to `⌈n / k⌉` is at most `n`. -/
theorem le_of_mem_pages {n : Nat} {k p : Int} (hk : 1 ≤ k)
    (hp : p ∈ (List.range ⌈(n : ℚ) / k⌉.toNat).map fun (i : Nat) => (i + 1 : Int)) :
    1 ≤ p ∧ p ≤ n := by
  obtain ⟨i, hi, rfl⟩ := List.mem_map.mp hp
  have hpages : ⌈(n : ℚ) / k⌉ ≤ n := by
    rw [Int.ceil_le, div_le_iff₀ (by exact_mod_cast (show (0 : Int) < k by omega))]
    have : (n : ℚ) ≤ n * k := le_mul_of_one_le_right (Nat.cast_nonneg n) (by exact_mod_cast hk)
    exact_mod_cast this
  have := List.mem_range.mp hi
  omega

end Store

/-- A traversal in which every step succeeds succeeds with every step's result. -/
theorem mapM_except_ok {α β ε : Type} {f : α → Except ε β} {g : α → β} {l : List α}
    (h : ∀ a ∈ l, f a = .ok (g a)) : l.mapM f = .ok (l.map g) := by
  induction l with
  | nil => rfl
  | cons a l ih =>
    rw [List.mapM_cons, h a List.mem_cons_self, ih fun b hb => h b (List.mem_cons_of_mem a hb)]
    rfl

/-! ## The store a run of the service reaches -/

namespace Service

variable {sv : Service}

/-- A read of a page changes the cache only. -/
theorem getPage_frame (sv : Service) (now page pageSize : Json) :
    (sv.getPage now page pageSize).2.store = sv.store ∧
      (sv.getPage now page pageSize).2.maxPageSize = sv.maxPageSize := by
  unfold getPage
  split
  · exact ⟨rfl, rfl⟩
  · split
    · exact ⟨rfl, rfl⟩
    · exact ⟨rfl, rfl⟩
    · dsimp only
      split <;> exact ⟨rfl, rfl⟩

/-- A change keeps the largest page size, and leaves the store its write leaves when the write
succeeds and the service's own store when it fails. -/
theorem change_store (sv : Service) {α : Type} {w : StoreM α} (hw : w.Atomic) :
    (sv.change w).2.store = (match w.answer sv.store with
      | .ok r => r.2
      | .error _ => sv.store) ∧ (sv.change w).2.maxPageSize = sv.maxPageSize := by
  cases h : w sv.store with
  | error e s' => simp [change_of_atomic hw h, StoreM.answer, h]
  | ok a st =>
    have hkept : (sv.change w).2.store = st ∧ (sv.change w).2.maxPageSize = sv.maxPageSize := by
      simp only [change, h]
      unfold clearCache
      split <;> exact ⟨rfl, rfl⟩
    simpa [StoreM.answer, h] using hkept

/-- Each call leaves the store that one operation of the store leaves, and keeps the largest page
size. -/
theorem call_store (sv : Service) (now : Json) (c : Call) :
    ∃ op, (sv.call now c).store = (sv.store.apply op).1 ∧
      (sv.call now c).maxPageSize = sv.maxPageSize := by
  cases c with
  | getPage p s => exact ⟨.get 0, getPage_frame sv now _ _⟩
  | getNode i => exact ⟨.get 0, rfl, rfl⟩
  | createNode label parent =>
    refine ⟨.create label parent, ?_⟩
    obtain ⟨hstore, hmax⟩ := change_store sv ((Store.createM_atomic label
      (parent.map .int)).map fun id => (⟨.int id, label, parent.map .int⟩ : NodeView))
    simp only [call, createNode, logged_snd, hstore, hmax, StoreM.answer_map, Store.apply,
      Store.create]
    cases (Store.createM label (parent.map .int)).answer sv.store <;> simp [Except.map]
  | updateNode i label parent =>
    refine ⟨.update i label parent, ?_⟩
    obtain ⟨hstore, hmax⟩ := change_store sv ((Store.updateM_atomic (.int i) label
      (parent.map .int)).map fun () => (⟨.int i, label, parent.map .int⟩ : NodeView))
    simp only [call, updateNode, logged_snd, hstore, hmax, StoreM.answer_map, Store.apply,
      Store.update]
    cases (Store.updateM (.int i) label (parent.map .int)).answer sv.store <;> simp [Except.map]
  | deleteNode i =>
    refine ⟨.delete i, ?_⟩
    obtain ⟨hstore, hmax⟩ := change_store sv (Store.deleteM_atomic (.int i))
    simp only [call, deleteNode, logged_snd, hstore, hmax, Store.apply, Store.delete]
    cases (Store.deleteM (.int i)).answer sv.store <;> simp
  | clearCache =>
    refine ⟨.get 0, ?_⟩
    simp only [call, Service.clearCache, Store.apply]
    split <;> exact ⟨rfl, rfl⟩
  | cacheStats => exact ⟨.get 0, rfl, rfl⟩
  | setTtl ttl => exact ⟨.get 0, rfl, rfl⟩
  | invalidateCache =>
    refine ⟨.get 0, ?_⟩
    simp only [call, Store.apply]
    split <;> exact ⟨rfl, rfl⟩

/-- **The store a run reaches is a store a run of its operations reaches.** The induction is on
the run, one call at a time. -/
theorem run_store (sv : Service) (calls : List (Json × Call)) :
    (∃ ops, (sv.run calls).store = (sv.store.runOps ops).1) ∧
      (sv.run calls).maxPageSize = sv.maxPageSize := by
  induction calls generalizing sv with
  | nil => exact ⟨⟨[], rfl⟩, rfl⟩
  | cons c calls ih =>
    obtain ⟨op, hop, hmax⟩ := call_store sv c.1 c.2
    obtain ⟨⟨ops, hops⟩, hmax'⟩ := ih (sv.call c.1 c.2)
    refine ⟨⟨op :: ops, ?_⟩, ?_⟩
    · rw [run_cons, hops, hop, Store.runOps_cons]
    · rw [run_cons, hmax', hmax]

/-- The store of a service built over an empty store, after any run, is sound, can be reached and
keeps its backend. -/
theorem run_store_sound (backend : Backend) (cache : Cache) (maxPageSize : Json)
    (calls : List (Json × Call)) :
    let sv := (Service.create backend cache maxPageSize).run calls
    sv.store.Sound ∧ sv.store.reachable = true ∧ sv.store.backend = backend ∧
      sv.maxPageSize = maxPageSize := by
  intro sv
  obtain ⟨⟨ops, hops⟩, hmax⟩ := run_store (Service.create backend cache maxPageSize) calls
  obtain ⟨hsound, -⟩ := Store.runOps_sound (Store.empty_sound backend) ops
  obtain ⟨hbackend, hreach⟩ := Store.runOps_keeps (Store.empty backend) ops
  exact ⟨hops ▸ hsound, hops ▸ hreach, hops ▸ hbackend, hmax⟩

end Service

/-! ## Reading pages one after another -/

/-- Read the pages `pages` of `pageSize` rows one after another at clock reading `now`, up to the
first that fails. -/
def Service.readPages (sv : Service) (now : Json) (pageSize : Int) :
    List Int → Except Fault (List Page) × Service
  | [] => (.ok [], sv)
  | p :: ps =>
    match sv.getPage now (.int p) (.int pageSize) with
    | (.error e, sv) => (.error e, sv)
    | (.ok page, sv) =>
      let (rest, sv) := sv.readPages now pageSize ps
      (rest.map (page :: ·), sv)

namespace Service

variable {sv : Service} {now : Json}

/-- A coherent service reads pages with keys one after another as the store gives them. The
induction is on the pages; each read keeps the service coherent, its store and its largest page
size. -/
theorem readPages_coherent (h : sv.Coherent) (hnow : now.FloatLike) {k : Int}
    (hk : fitsNumeral k = true) {ps : List Int} (hps : ∀ p ∈ ps, fitsNumeral p = true) :
    (sv.readPages now k ps).1 = ps.mapM fun p => sv.uncachedPage (.int p) (.int k) := by
  induction ps generalizing sv with
  | nil => rfl
  | cons p ps ih =>
    obtain ⟨hpage, hcoh⟩ := getPage_coherent h hnow (hps p List.mem_cons_self) hk
    obtain ⟨hstore, hmax⟩ := getPage_frame sv now (.int p) (.int k)
    have hrest := ih hcoh fun q hq => hps q (List.mem_cons_of_mem p hq)
    -- the next reads see the same store and the same checks
    have hsame : (fun q : Int => (sv.getPage now (.int p) (.int k)).2.uncachedPage (.int q) (.int k))
        = fun q => sv.uncachedPage (.int q) (.int k) := by
      funext q
      simp only [uncachedPage, hstore, hmax]
    rw [hsame] at hrest
    rw [List.mapM_cons]
    rcases hg : sv.getPage now (.int p) (.int k) with ⟨r, sv'⟩
    rw [hg] at hpage hrest
    subst hpage
    cases hu : sv.uncachedPage (.int p) (.int k) with
    | error e => simp [readPages, hg, hu, bind, Except.bind]
    | ok page =>
      simp only [readPages, hg, hu, hrest]
      cases ps.mapM (fun q => sv.uncachedPage (.int q) (.int k)) <;> rfl

end Service

/-! ## Paging a store reached by any run of the service -/

/-- **Paging shows the whole forest exactly once.** Build a service over an empty store of either
backend, with an empty in-memory cache that has room for a page and a time-to-live a float can
hold, and run any calls on it at clock readings a float can hold. With `n` stored nodes (at most
`2 ^ 53`) and a page size `k` between 1 and the largest allowed, of at most `maxIntDigits` digits,
the stored nodes are in ascending id order and every page `p ≥ 1` of at most `maxIntDigits`
digits, read through the cache, is answered: it counts `n` rows and `⌈n / k⌉` pages, a next page
iff `p < ⌈n / k⌉` and a previous one iff `p > 1`; it is empty iff `p > ⌈n / k⌉`; it shows the
stored nodes after the first `(p - 1) * k`, at most `k` of them, each once with its label, rooted
at those whose parent is not on the page, each below its parent, all in ascending id order. Pages
`1` to `⌈n / k⌉`, read one after another, together show every stored node once. On the SQL store
the page size fits 64 bits, and with rows stored it is below `2 ^ 1075 * n`, where `n / k` still
rounds to a positive float. -/
theorem paging_shows_forest_once (backend : Backend) (ttl : Json) (cap maxPageSize k : Int)
    (calls : List (Json × Call)) (now : Json) (hcap : 1 ≤ cap) (httl : ttl.FloatLike)
    (hcalls : Timely calls) (hnow : now.FloatLike) (hk : 1 ≤ k) (hmax : k ≤ maxPageSize)
    (hkfit : fitsNumeral k = true) (hbind : backend = .sql → k < 2 ^ 63) :
    let sv := (Service.create backend (.memory (.empty ttl (.int cap))) (.int maxPageSize)).run
      calls
    let n := sv.store.nodes.length
    n ≤ 2 ^ 53 → (n = 0 ∨ k < 2 * 2 ^ 1074 * n) →
      sv.store.nodes.Pairwise (fun a b => a.id < b.id) ∧
      (∀ p, 1 ≤ p → fitsNumeral p = true →
        ∃ page, (sv.getPage now (.int p) (.int k)).1 = .ok page ∧
          page.pagination = ⟨.int p, .int k, .int n, .int ⌈(n : ℚ) / k⌉,
            .bool (decide (p < ⌈(n : ℚ) / k⌉)), .bool (decide (1 < p))⟩ ∧
          (page.data = [] ↔ ⌈(n : ℚ) / k⌉ < p) ∧
          page.data.map Tree.id =
            ((sv.store.pageRows p k).filter (·.atTop (sv.store.pageRows p k))).map
              (fun m => .int m.id) ∧
          (∀ t ∈ page.data, Shows (sv.store.pageRows p k) t) ∧
          (page.data.flatMap Tree.nodes).Perm ((sv.store.pageRows p k).map Node.shown)) ∧
      ∃ all, (sv.readPages now k ((List.range ⌈(n : ℚ) / k⌉.toNat).map
          fun (i : Nat) => (i + 1 : Int))).1 = .ok all ∧
        (all.flatMap fun page => page.data.flatMap Tree.nodes).Perm
          (sv.store.nodes.map Node.shown) := by
  intro sv n hn hsub
  have hstore : sv.store.Sound ∧ sv.store.reachable = true ∧ sv.store.backend = backend ∧
      sv.maxPageSize = .int maxPageSize := Service.run_store_sound backend _ _ calls
  obtain ⟨hsound, hreach, hbackend, hmaxsv⟩ := hstore
  have hcoh : sv.Coherent :=
    Service.run_coherent (Service.create_coherent backend (.int maxPageSize) httl hcap) hcalls
  have hbind' : sv.store.backend = .sql → k < 2 ^ 63 := fun hsql => hbind (hbackend ▸ hsql)
  -- through the cache, every page with a key is the store's own page
  have hpage : ∀ p, 1 ≤ p → fitsNumeral p = true →
      sv.uncachedPage (.int p) (.int k) = .ok ⟨pageForest (sv.store.pageRows p k),
        ⟨.int p, .int k, .int n, .int ⌈(n : ℚ) / k⌉, .bool (decide (p < ⌈(n : ℚ) / k⌉)),
          .bool (decide (1 < p))⟩⟩ := by
    intro p hp _
    simp only [Service.uncachedPage, hmaxsv, validatePagination_int hp hk hmax,
      Store.pageOf_rows hsound hreach hp hk hbind' hn hsub]
    rfl
  refine ⟨hsound.ascending, fun p hp hpfit => ?_, ?_⟩
  · obtain ⟨hempty, hids, hshows, hperm⟩ := Store.pageForest_shows hsound (k := k) hp hk
    refine ⟨_, (Service.getPage_coherent hcoh hnow hpfit hkfit).1.trans (hpage p hp hpfit),
      rfl, hempty, hids, hshows, hperm⟩
  · -- read one after another, the pages are the store's, and their rows are all the rows
    have hfit : ∀ p ∈ (List.range ⌈(n : ℚ) / k⌉.toNat).map (fun (i : Nat) => (i + 1 : Int)),
        fitsNumeral p = true := fun p hp =>
      have hbounds := Store.le_of_mem_pages hk hp
      fitsNumeral_of_lt (by omega)
    refine ⟨_, (Service.readPages_coherent hcoh hnow hkfit hfit).trans
      (mapM_except_ok fun p hp => hpage p (Store.le_of_mem_pages hk hp).1 (hfit p hp)), ?_⟩
    rw [List.flatMap_map]
    refine (List.Perm.flatMap_left _ fun p hp =>
      (Store.pageForest_shows hsound (Store.le_of_mem_pages hk hp).1 hk).2.2.2).trans ?_
    rw [← List.map_flatMap, Store.pageRows_cover sv.store hk]

/-- One node created on the memory store, read two to a page through the cache: the first page
shows it at the top. -/
theorem one_node_on_first_page :
    let sv := (Service.create .memory (.memory (.empty (.float 300.0) (.int 1000))) (.int 10)).run
      [(.float 1000.0, .createNode (.text "a") none)]
    ∃ page, (sv.getPage (.float 1001.0) (.int 1) (.int 2)).1 = .ok page ∧
      (page.data.map Tree.id).map Json.intValue? = [some 1] := by
  intro sv
  have timely : Timely [(.float 1000.0, .createNode (.text "a") none)] := by
    simp [Timely, Json.floatLike_float]
  obtain ⟨-, hpages, -⟩ := paging_shows_forest_once .memory (.float 300.0) 1000 10 2
    [(.float 1000.0, .createNode (.text "a") none)] (.float 1001.0) (by decide)
    (Json.floatLike_float _) timely (Json.floatLike_float _) (by decide) (by decide)
    (fitsNumeral_of_lt (by decide)) (by decide) (by decide +kernel) (.inr (by decide +kernel))
  obtain ⟨page, hpage, -, -, hids, -⟩ := hpages 1 le_rfl (fitsNumeral_of_lt (by decide))
  exact ⟨page, hpage, by rw [hids]; decide +kernel⟩

/-- Outside its bounds paging breaks, after one node is created. On the SQL store a page size of
`2 ^ 63` passes the checks but cannot be bound as a limit, so the page fails. On the memory store,
one row read `2 ^ 1075` to a page gives a quotient that rounds to zero: the page counts no pages,
yet shows the row's tree. A page number of `10 ^ maxIntDigits` passes the checks but has no cache
key, and with a time-to-live of `2 ^ 1024` seconds the expiry of the first page read cannot be
computed: both reads fail. -/
theorem paging_breaks_outside_its_bounds :
    let after (backend : Backend) (ttl : Json) (maxPageSize : Int) :=
      (Service.create backend (.memory (.empty ttl (.int 1000))) (.int maxPageSize)).run
        [(.float 1000.0, .createNode (.text "a") none)]
    (validatePagination (.int (2 ^ 64)) (.int 1) (.int (2 ^ 63))).toBool = true ∧
      ((after .sql (.float 300.0) (2 ^ 64)).getPage (.float 1001.0) (.int 1)
        (.int (2 ^ 63))).1.toBool = false ∧
      ((after .memory (.float 300.0) (2 ^ 1076)).getPage (.float 1001.0) (.int 1)
        (.int (2 ^ 1075))).1.toOption.map
        (fun page => (page.pagination.totalPages.intValue?, page.data.length)) = some (some 0, 1) ∧
      (validatePagination (.int 100) (.int (10 ^ maxIntDigits)) (.int 1)).toBool = true ∧
      ((after .memory (.float 300.0) 100).getPage (.float 1001.0) (.int (10 ^ maxIntDigits))
        (.int 1)).1.toBool = false ∧
      ((after .memory (.int (2 ^ 1024)) 100).getPage (.float 1001.0) (.int 1)
        (.int 10)).1.toBool = false := by
  decide +kernel

end Arbor
