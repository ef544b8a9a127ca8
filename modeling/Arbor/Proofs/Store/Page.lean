import Arbor.Proofs.Store.Run
import Arbor.Proofs.Forest.Page
import Arbor.Proofs.Number.Basic

/-!
# The rows of a page

Page `page` of `pageSize` rows is the window of the stored nodes that skips the first
`(page - 1) * pageSize` of them and keeps at most `pageSize` (`Store.pageRows`), on both backends
(`listPage_window`). The SQL backend answers an offset at or past the last row without binding
the limit, which gives the same empty window, and refuses a limit beyond 64 bits.

Every run of operations keeps the backend and keeps the store reachable (`runOps_keeps`), and
rows taken in order from a sound store form a page whose climbs all end (`ends_of_sublist`): a
climb among the rows of the page is a climb of the store.
-/

set_option autoImplicit false

namespace Arbor

namespace Store

variable {s : Store}

/-! ## What every run keeps -/

/-- One operation keeps the backend and whether the store can be reached. -/
theorem apply_keeps (s : Store) (op : StoreOp) :
    (s.apply op).1.backend = s.backend ∧ (s.apply op).1.reachable = s.reachable := by
  cases op with
  | create label parent =>
    cases hc : s.create label (parent.map .int) with
    | error e => simp only [apply, hc, and_self]
    | ok r =>
      obtain ⟨id, s'⟩ := r
      obtain ⟨-, -, -, rfl⟩ := create_ok hc
      simp only [apply, hc, and_self]
  | get i => exact ⟨rfl, rfl⟩
  | listPage p ps => exact ⟨rfl, rfl⟩
  | update i label parent =>
    cases hu : s.update (.int i) label (parent.map .int) with
    | error e => simp only [apply, hu, and_self]
    | ok s' =>
      obtain ⟨nodes, rfl⟩ := update_frame hu
      simp only [apply, hu, and_self]
  | delete i =>
    cases hd : s.delete (.int i) with
    | error e => simp only [apply, hd, and_self]
    | ok r =>
      obtain ⟨count, s'⟩ := r
      obtain ⟨nodes, rfl⟩ := delete_frame hd
      simp only [apply, hd, and_self]
  | close =>
    simp only [apply]
    unfold Store.close
    split <;> exact ⟨rfl, rfl⟩

/-- A run keeps the backend and whether the store can be reached. The induction is on the run. -/
theorem runOps_keeps (s : Store) (ops : List StoreOp) :
    (s.runOps ops).1.backend = s.backend ∧ (s.runOps ops).1.reachable = s.reachable := by
  induction ops generalizing s with
  | nil => exact ⟨rfl, rfl⟩
  | cons op ops ih =>
    rw [runOps_cons]
    obtain ⟨hback, hreach⟩ := apply_keeps s op
    obtain ⟨hback', hreach'⟩ := ih (s.apply op).1
    exact ⟨hback'.trans hback, hreach'.trans hreach⟩

end Store

/-! ## The window of a page -/

theorem Num.ge_int (a b : Int) : (Num.int a).ge (.int b) = decide (b ≤ a) := by
  simp only [Num.ge, Num.compare?_int]
  rcases lt_trichotomy a b with h | rfl | h
  · simp [compare_lt_iff_lt.mpr h, Int.not_le.mpr h]
  · simp
  · simp [compare_gt_iff_gt.mpr h, h.le]

/-- A page and a page size of at least 1 give the offset of the page's first row. -/
theorem pageOffset_int {p k : Int} (hp : 1 ≤ p) (hk : 1 ≤ k) :
    pageOffset (.int p) (.int k) = .ok (some (.int ((p - 1) * k))) := by
  have hpage : Json.relate .lt (.int p) (.int 1) = .ok false := by
    rw [Json.relate_int, Relation.holds_lt_int]
    simp only [Except.ok.injEq, decide_eq_false_iff_not, Int.not_lt]
    exact hp
  have hsize : Json.relate .lt (.int k) (.int 1) = .ok false := by
    rw [Json.relate_int, Relation.holds_lt_int]
    simp only [Except.ok.injEq, decide_eq_false_iff_not, Int.not_lt]
    exact hk
  simp [pageOffset, hpage, hsize, Json.arith, Num.ofJson?, Arith.apply, Num.sub, Num.mul,
    Num.toJson, Bind.bind, Except.bind]

namespace Store

variable {s : Store}

/-- The rows of page `p` of `k` rows: the stored nodes after the first `(p - 1) * k`, at most `k`
of them. -/
def pageRows (s : Store) (p k : Int) : List Node := (s.nodes.drop ((p - 1) * k).toNat).take k.toNat

/-- **The rows of a page.** On a reachable store, page `p` of `k` rows is the window of the stored
nodes after the first `(p - 1) * k`, of at most `k` nodes; the SQL backend binds the limit, so
there `k` must fit 64 bits. -/
theorem listPage_window (hreach : s.reachable = true) {p k : Int} (hp : 1 ≤ p) (hk : 1 ≤ k)
    (hbind : s.backend = .sql → k < 2 ^ 63) :
    s.listPage (.int p) (.int k) = .ok (s.pageRows p k, s.nodes.length) := by
  have hoff := pageOffset_int hp hk
  cases hb : s.backend with
  | sql =>
    have hfits : s.bind k = .ok () := by
      have := hbind hb
      simp [Store.bind, hb, fitsColumn]
      omega
    by_cases hpast : (s.nodes.length : Int) ≤ (p - 1) * k
    · -- past the last row the backend answers at once, and the window is empty too
      have hempty : s.nodes.drop ((p - 1) * k).toNat = [] := List.drop_eq_nil_of_le (by omega)
      simp [listPage, pageRows, reach, hreach, hoff, hb, Num.ge_int, hpast, hempty, Bind.bind,
        Except.bind, pure, Except.pure]
    · simp [listPage, pageRows, reach, hreach, hoff, hb, Num.ge_int, hpast, Json.toInt, Num.ofJson?,
        Num.truncate, hfits, Bind.bind, Except.bind, pure, Except.pure]
  | memory =>
    -- the memory backend slices from the offset to the offset plus the page size
    have hstop : (p - 1) * k + k - (p - 1) * k = k := by omega
    simp [listPage, pageRows, reach, hreach, hoff, hb, Json.arith, Num.ofJson?, Arith.apply, Num.add,
      Num.toJson, hstop, Bind.bind, Except.bind, pure, Except.pure]

/-! ## A window of a sound store -/

section Window

variable {page : List Node}

/-- Rows taken in order from a sound store have distinct ids. -/
theorem nodup_of_sublist (h : s.Sound) (hsub : page.Sublist s.nodes) : (page.map (·.id)).Nodup :=
  List.pairwise_map.mpr ((h.ascending.sublist hsub).imp ne_of_lt)

/-- A link among the rows of a page is the stored link. -/
theorem parentOf_of_ofPage (h : s.Sound) (hsub : page.Sublist s.nodes) {x y : Int}
    (hxy : (Store.ofPage page).parentOf x = some y) : s.parentOf x = some y := by
  rw [parentOf_ofPage] at hxy
  obtain ⟨n, hfind, hfilter⟩ := Option.bind_eq_some_iff.mp hxy
  obtain ⟨hlink, -⟩ := Option.filter_eq_some_iff.mp hfilter
  have hbeq := List.find?_some hfind
  have hid : n.id = x := beq_iff_eq.mp hbeq
  have hstored : s.find? x = some n :=
    hid ▸ find?_of_mem h.ascending (hsub.subset (List.mem_of_find?_eq_some hfind))
  rw [parentOf, hstored, Option.bind_some, hlink]

/-- A climb among the rows of a page is a climb of the store. The induction is on its length. -/
theorem climb_of_ofPage (h : s.Sound) (hsub : page.Sublist s.nodes) {start : Option Int}
    {k : Nat} {y : Int} (hclimb : (Store.ofPage page).climb start k = some y) :
    s.climb start k = some y := by
  induction k generalizing y with
  | zero => exact hclimb
  | succ k ih =>
    obtain ⟨c, hc, hcy⟩ := climb_succ_eq_some hclimb
    rw [climb_succ_of_some (ih hc)]
    exact parentOf_of_ofPage h hsub hcy

/-- **Every climb among the rows of a window ends**, as the store's climb from the same row does. -/
theorem ends_of_sublist (h : s.Sound) (hsub : page.Sublist s.nodes) :
    ∀ m ∈ page, (Store.ofPage page).Ends m.id := by
  intro m hm
  refine ⟨s.nodes.length, ?_⟩
  cases hclimb : (Store.ofPage page).climb (some m.id) s.nodes.length with
  | none => rfl
  | some y =>
    have hstore := climb_of_ofPage h hsub hclimb
    rw [h.rooted m (hsub.subset hm)] at hstore
    cases hstore

theorem pageRows_sublist (s : Store) (p k : Int) : (s.pageRows p k).Sublist s.nodes :=
  (List.take_sublist _ _).trans (List.drop_sublist _ _)

/-- A page has no row exactly when the rows before it are all the stored rows. -/
theorem pageRows_eq_nil_iff {p k : Int} (hp : 1 ≤ p) (hk : 1 ≤ k) :
    s.pageRows p k = [] ↔ (s.nodes.length : Int) ≤ (p - 1) * k := by
  have hbefore : 0 ≤ (p - 1) * k := Int.mul_nonneg (by omega) (by omega)
  rw [pageRows, List.take_eq_nil_iff, List.drop_eq_nil_iff]
  omega

end Window

end Store

end Arbor
