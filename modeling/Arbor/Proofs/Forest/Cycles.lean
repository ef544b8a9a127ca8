import Arbor.Proofs.Forest.Page
import Arbor.Proofs.Cache.Key
import Mathlib.Dynamics.PeriodicPts.Defs
import Mathlib.Data.List.Perm.Subperm

set_option autoImplicit false

/-! # Cycles on a page and the forest that breaks them

The rows of a page may repeat ids and their parents may point anywhere: off the page, at the row
itself, or round a cycle of any length. `Forest.build` still answers, and what it answers can be
said without following its passes.

A node `x` has a *page parent* (`Forest.pageParent`): the parent of the last row with id `x`,
kept when it is the id of some row. The page parents may close cycles. The *breaker* of a cycle is
the id of the earliest row, in row order, whose id lies on the cycle (`Forest.IsBreaker`); dropping
the breakers' links leaves the *reference links* (`Forest.refLink`), which close no cycle. The
*reference forest* (`Forest.RefTree`, `Forest.RefTrees`) shows at the top the rows without a
reference link, in row order; the node of `x` shows the label of the last row with id `x`, and its
children are the nodes of the rows linked to `x`, in row order.

The builder drops exactly the breakers' links (`mem_breakers_iff`): taking the rows in order, the
first row of a cycle finds the cycle still whole and closes it, and every later row of the cycle
finds it broken at that row. The walk the builder takes is bounded by the number of rows, which is
enough because a cycle holds distinct ids (`minimalPeriod_le_length`). With the reference links
acyclic, no walk up them is longer than the page (`iterate_refLink_le_length`), so the builder's
depth bound never cuts a tree, and the builder answers the reference forest (`build_eq_refForest`,
`forest_breaks_each_cycle_at_its_first_row`) once every breaker's id can be written into the report
of its cycle: a breaker of more than `maxIntDigits` digits fails the build
(`build_of_wide_breaker`). When the ids are distinct, the page relinked by its reference links is
one whose climbs end, with the same forest, so every node is shown once (`refForest_nodes_perm`).
-/

namespace Arbor

namespace Forest

/-! ## Walks up a link function -/

/-- One step up the link function `link`: from an id to its link, and from nowhere to nowhere. -/
def up (link : Int → Option Int) (o : Option Int) : Option Int := o.bind link

section Walks

variable {link : Int → Option Int}

@[simp] theorem up_none : up link none = none := rfl

@[simp] theorem up_some (x : Int) : up link (some x) = link x := rfl

@[simp] theorem iterate_up_none (k : Nat) : (up link)^[k] none = none := by
  induction k with
  | zero => rfl
  | succ k ih => rw [Function.iterate_succ_apply, up_none, ih]

theorem iterate_up_succ (x : Int) (k : Nat) :
    (up link)^[k + 1] (some x) = (up link)^[k] (link x) := rfl

/-- A walk that arrives somewhere after `j` steps was somewhere after each earlier step. -/
theorem iterate_up_of_le {x z : Int} {i j : Nat} (hij : i ≤ j)
    (h : (up link)^[j] (some x) = some z) : ∃ w, (up link)^[i] (some x) = some w := by
  obtain ⟨d, rfl⟩ := Nat.exists_eq_add_of_le hij
  rw [Nat.add_comm, Function.iterate_add_apply] at h
  cases hw : (up link)^[i] (some x) with
  | none => rw [hw, iterate_up_none] at h; cases h
  | some w => exact ⟨w, rfl⟩

/-- The builder's walk `reaches` asks whether the walk up `link` meets `target` within `fuel`
steps, the start counting as met. -/
theorem reaches_iff (target : Int) (start : Option Int) (fuel : Nat) :
    Forest.reaches (· == ·) link target start fuel = true ↔
      ∃ i < fuel, (up link)^[i] start = some target := by
  induction fuel generalizing start with
  | zero => cases start <;> simp [Forest.reaches]
  | succ fuel ih =>
    cases start with
    | none => simp [Forest.reaches]
    | some x =>
      rw [Forest.reaches, Bool.or_eq_true, beq_iff_eq, ih]
      constructor
      · rintro (rfl | ⟨i, hi, h⟩)
        · exact ⟨0, Nat.zero_lt_succ _, rfl⟩
        · exact ⟨i + 1, by omega, h⟩
      · rintro ⟨i, hi, h⟩
        cases i with
        | zero => exact .inl (Option.some.inj h)
        | succ i => exact .inr ⟨i, by omega, h⟩

/-- Two places of a walk that hold the same id close a loop of the steps between them. -/
theorem iterate_up_loop {x w : Int} {i j : Nat} (hij : i < j)
    (hw : (up link)^[i] (some x) = some w) (h : (up link)^[i] (some x) = (up link)^[j] (some x)) :
    (up link)^[(j - i - 1) + 1] (some w) = some w := by
  rw [← hw, ← Function.iterate_add_apply, show j - i - 1 + 1 + i = j by omega, ← h]

/-- A walk that arrives somewhere after one or more steps leaves its start by a link. -/
theorem exists_link_of_iterate_succ {x z : Int} {k : Nat}
    (h : (up link)^[k + 1] (some x) = some z) :
    ∃ p, link x = some p ∧ (up link)^[k] (some p) = some z := by
  rw [iterate_up_succ] at h
  cases hp : link x with
  | none => rw [hp, iterate_up_none] at h; cases h
  | some p =>
    rw [hp] at h
    exact ⟨p, rfl, h⟩

/-- A walk that leaves the ids passes an id without a link. The induction is on its length. -/
theorem exists_last_of_iterate_none {y : Int} {n : Nat} (h : (up link)^[n] (some y) = none) :
    ∃ k z, (up link)^[k] (some y) = some z ∧ link z = none := by
  induction n generalizing y with
  | zero => cases h
  | succ n ih =>
    rw [iterate_up_succ] at h
    cases hy : link y with
    | none => exact ⟨0, y, rfl, hy⟩
    | some p =>
      rw [hy] at h
      obtain ⟨k, z, hz, hnone⟩ := ih h
      exact ⟨k + 1, z, by rw [iterate_up_succ, hy]; exact hz, hnone⟩

/-- **Pigeonhole for walks.** A walk whose first `n` places are distinct ids among `ids` has
`n ≤ ids.length`. -/
theorem length_le_of_walk_injOn {ids : List Int} {x : Int} {n : Nat}
    (hin : ∀ i < n, ∃ z ∈ ids, (up link)^[i] (some x) = some z)
    (hinj : ∀ i < n, ∀ j < n, (up link)^[i] (some x) = (up link)^[j] (some x) → i = j) :
    n ≤ ids.length := by
  have hnodup : ((List.range n).map fun i => (up link)^[i] (some x)).Nodup :=
    List.nodup_range.map_on fun i hi j hj h =>
      hinj i (List.mem_range.mp hi) j (List.mem_range.mp hj) h
  have hsub : ((List.range n).map fun i => (up link)^[i] (some x)) ⊆ ids.map some := by
    intro o ho
    obtain ⟨i, hi, rfl⟩ := List.mem_map.mp ho
    obtain ⟨z, hz, hw⟩ := hin i (List.mem_range.mp hi)
    rw [hw]
    exact List.mem_map_of_mem hz
  simpa using (hnodup.subperm hsub).length_le

end Walks

/-! ## The reference forest -/

variable (rows : List (Row Int))

/-- The last row with id `x`: the row whose label the node of `x` shows. -/
def lastRow (x : Int) : Option (Row Int) := rows.reverse.find? (·.id == x)

/-- The label the node of `x` shows: that of the last row with id `x`. -/
def labelOf (x : Int) : Json := ((lastRow rows x).map (·.label)).getD .null

/-- The page parent of `x`: the parent of the last row with id `x`, when it is the id of a row. -/
def pageParent (x : Int) : Option Int :=
  (lastRow rows x).bind fun r => r.parent.filter (rows.map (·.id)).contains

/-- `z` lies above `x`: some number of page-parent links lead from `x` to `z`. -/
def Above (x z : Int) : Prop := ∃ k, (up (pageParent rows))^[k] (some x) = some z

/-- `x` lies on a cycle of page parents. -/
def OnCycle (x : Int) : Prop := some x ∈ Function.periodicPts (up (pageParent rows))

open Classical in
/-- The earliest row of `pre` whose id lies above `x`. -/
noncomputable def firstAbove (pre : List (Row Int)) (x : Int) : Option (Row Int) :=
  pre.find? fun r => Above rows x r.id

/-- `x` breaks its cycle among the rows `pre`: it lies on a cycle, and the earliest row of `pre`
whose id lies on that cycle has id `x`. -/
def BreakerAmong (pre : List (Row Int)) (x : Int) : Prop :=
  OnCycle rows x ∧ (firstAbove rows pre x).map (·.id) = some x

/-- The breaker of a cycle: the id of the earliest row whose id lies on the cycle. -/
def IsBreaker (x : Int) : Prop := BreakerAmong rows rows x

open Classical in
/-- The link of `x` in the reference forest: none for a breaker, the page parent otherwise. -/
noncomputable def refLink (x : Int) : Option Int :=
  if IsBreaker rows x then none else pageParent rows x

mutual

/-- `t` is the node of `x` in the reference forest: it shows `x` with the label of its last row,
and its children are the nodes of the rows whose reference link is `x`, in row order. -/
inductive RefTree : Int → Tree → Prop
  | node (x : Int) (cs : List Tree)
      (kids : RefTrees (rows.filter fun r => refLink rows r.id == some x) cs) :
      RefTree x (.mk (.int x) (labelOf rows x) cs)

/-- `ts` are the nodes of the rows `rs` in the reference forest, in order. -/
inductive RefTrees : List (Row Int) → List Tree → Prop
  | nil : RefTrees [] []
  | cons (r : Row Int) (rs : List (Row Int)) (t : Tree) (ts : List Tree)
      (head : RefTree r.id t) (tail : RefTrees rs ts) : RefTrees (r :: rs) (t :: ts)

end

/-! ## Rows and page parents -/

variable {rows}

theorem lastRow_eq_some {x : Int} {r : Row Int} (h : lastRow rows x = some r) :
    r ∈ rows ∧ r.id = x := by
  unfold lastRow at h
  have hid := List.find?_some h
  exact ⟨List.mem_reverse.mp (List.mem_of_find?_eq_some h), beq_iff_eq.mp hid⟩

/-- A page parent links a row id to a row id. -/
theorem pageParent_eq_some {x p : Int} (h : pageParent rows x = some p) :
    x ∈ rows.map (·.id) ∧ p ∈ rows.map (·.id) := by
  obtain ⟨r, hr, hfilter⟩ := Option.bind_eq_some_iff.mp h
  obtain ⟨hmem, rfl⟩ := lastRow_eq_some hr
  obtain ⟨-, hcontains⟩ := Option.filter_eq_some_iff.mp hfilter
  exact ⟨List.mem_map_of_mem hmem, List.contains_iff_mem.mp hcontains⟩

/-- A walk up the page parents from a row id meets only row ids. -/
theorem iterate_pageParent_mem {x z : Int} {k : Nat} (hx : x ∈ rows.map (·.id))
    (h : (up (pageParent rows))^[k] (some x) = some z) : z ∈ rows.map (·.id) := by
  induction k generalizing x with
  | zero => exact Option.some.inj h ▸ hx
  | succ k ih =>
    obtain ⟨p, hp, hrest⟩ := exists_link_of_iterate_succ h
    exact ih (pageParent_eq_some hp).2 hrest

/-! ## Cycles of page parents -/

theorem above_refl (x : Int) : Above rows x x := ⟨0, rfl⟩

theorem Above.trans {x y z : Int} (hxy : Above rows x y) (hyz : Above rows y z) :
    Above rows x z := by
  obtain ⟨i, hi⟩ := hxy
  obtain ⟨j, hj⟩ := hyz
  exact ⟨j + i, by rw [Function.iterate_add_apply, hi, hj]⟩

/-- An id on a cycle has a page parent. -/
theorem OnCycle.exists_pageParent {x : Int} (hx : OnCycle rows x) :
    ∃ p, pageParent rows x = some p := by
  obtain ⟨n, hn, hper⟩ := hx
  obtain ⟨m, rfl⟩ := Nat.exists_eq_add_of_lt hn
  have hloop : (up (pageParent rows))^[m + 1] (some x) = some x := by
    simpa using hper.eq
  obtain ⟨p, hp, -⟩ := exists_link_of_iterate_succ hloop
  exact ⟨p, hp⟩

theorem OnCycle.mem {x : Int} (hx : OnCycle rows x) : x ∈ rows.map (·.id) := by
  obtain ⟨p, hp⟩ := hx.exists_pageParent
  exact (pageParent_eq_some hp).1

/-- Everything above an id on a cycle lies on the same cycle. -/
theorem OnCycle.of_above {x z : Int} (hx : OnCycle rows x) (hz : Above rows x z) :
    OnCycle rows z := by
  obtain ⟨k, hk⟩ := hz
  obtain ⟨n, hn, hper⟩ := hx
  exact ⟨n, hn, hk ▸ hper.apply_iterate k⟩

/-- Going round a cycle comes back: an id on a cycle lies above everything above it. -/
theorem OnCycle.above_back {x z : Int} (hx : OnCycle rows x) (hz : Above rows x z) :
    Above rows z x := by
  obtain ⟨k, hk⟩ := hz
  obtain ⟨n, hn, hper⟩ := hx
  -- `n * (k + 1)` steps from `x` come back to `x`, and pass `z` after `k` of them
  have hback : (up (pageParent rows))^[n * (k + 1)] (some x) = some x := (hper.mul_const _).eq
  have hle : k ≤ n * (k + 1) := by
    calc k ≤ k + 1 := Nat.le_succ k
      _ ≤ n * (k + 1) := Nat.le_mul_of_pos_left _ hn
  refine ⟨n * (k + 1) - k, ?_⟩
  rw [← hk, ← Function.iterate_add_apply, Nat.sub_add_cancel hle, hback]

/-- Two ids of one cycle have everything else above them alike. -/
theorem OnCycle.above_iff {x z : Int} (hx : OnCycle rows x) (hz : Above rows x z) (w : Int) :
    Above rows z w ↔ Above rows x w :=
  ⟨hz.trans, (hx.above_back hz).trans⟩

/-- **A cycle holds distinct ids**, so it is no longer than the page. -/
theorem minimalPeriod_le_length {x : Int} (hx : OnCycle rows x) :
    Function.minimalPeriod (up (pageParent rows)) (some x) ≤ rows.length := by
  have hlen : (rows.map (·.id)).length = rows.length := List.length_map _
  rw [← hlen]
  refine length_le_of_walk_injOn (fun i hi => ?_) fun i hi j hj h =>
    Function.iterate_injOn_Iio_minimalPeriod hi hj h
  obtain ⟨w, hw⟩ := iterate_up_of_le hi.le
    (Function.iterate_minimalPeriod (f := up (pageParent rows)) (x := some x))
  exact ⟨w, iterate_pageParent_mem hx.mem hw, hw⟩

/-! ## The builder's links -/

variable (rows) in
/-- The page-parent links with those of the ids in `broken` dropped. -/
def keptLink (broken : List Int) (x : Int) : Option Int :=
  if x ∈ broken then none else pageParent rows x

/-- The builder's link of `x` while the ids in `broken` have had theirs dropped. -/
theorem linkIn_pageParents (broken : List Int) :
    Forest.linkIn (Forest.pageParents rows) broken = keptLink rows broken := by
  funext x
  have htable : Forest.pageParents rows =
      rows.reverse.map fun r => (r.id, r.parent.filter (rows.map (·.id)).contains) := rfl
  have hlookup : ((Forest.pageParents rows).lookup x).join = pageParent rows x := by
    rw [htable, lookup_map_eq_find?]
    unfold pageParent lastRow
    cases rows.reverse.find? (·.id == x) <;> rfl
  simp only [Forest.linkIn, keptLink, List.contains_iff_mem, hlookup]

theorem length_pageParents : (Forest.pageParents rows).length = rows.length := by
  simp [Forest.pageParents]

/-- A walk up the kept links that arrives somewhere is the walk up the page parents, and it
passes no dropped id on the way. -/
theorem iterate_keptLink_of_some {broken : List Int} {s : Option Int} {n : Nat} {z : Int}
    (h : (up (keptLink rows broken))^[n] s = some z) :
    (up (pageParent rows))^[n] s = some z ∧
      ∀ i < n, ∀ w, (up (pageParent rows))^[i] s = some w → w ∉ broken := by
  induction n generalizing s with
  | zero => exact ⟨h, fun i hi => absurd hi (Nat.not_lt_zero i)⟩
  | succ n ih =>
    cases s with
    | none => simp at h
    | some a =>
      rw [iterate_up_succ] at h ⊢
      by_cases ha : a ∈ broken
      · simp [keptLink, ha] at h
      · rw [keptLink, if_neg ha] at h
        obtain ⟨hwalk, hpast⟩ := ih h
        refine ⟨hwalk, fun i hi w hw => ?_⟩
        cases i with
        | zero => exact Option.some.inj hw ▸ ha
        | succ i => exact hpast i (by omega) w hw

/-- A walk up the page parents that passes no dropped id is also the walk up the kept links. -/
theorem iterate_keptLink_eq {broken : List Int} {s : Option Int} {n : Nat}
    (h : ∀ i < n, ∀ w, (up (pageParent rows))^[i] s = some w → w ∉ broken) :
    (up (keptLink rows broken))^[n] s = (up (pageParent rows))^[n] s := by
  induction n generalizing s with
  | zero => rfl
  | succ n ih =>
    cases s with
    | none => simp
    | some a =>
      rw [iterate_up_succ, iterate_up_succ, keptLink, if_neg (h 0 (Nat.zero_lt_succ n) a rfl)]
      exact ih fun i hi w hw => h (i + 1) (by omega) w hw

/-! ## Earliest rows on a cycle -/

open Classical in
theorem firstAbove_append_singleton (pre : List (Row Int)) (r : Row Int) (x : Int) :
    firstAbove rows (pre ++ [r]) x =
      (firstAbove rows pre x).or (if Above rows x r.id then some r else none) := by
  simp only [firstAbove, List.find?_append, List.find?_singleton, decide_eq_true_eq]

theorem firstAbove_eq_some {pre : List (Row Int)} {x : Int} {q : Row Int}
    (h : firstAbove rows pre x = some q) : q ∈ pre ∧ Above rows x q.id := by
  classical
  unfold firstAbove at h
  have hq := List.find?_some h
  exact ⟨List.mem_of_find?_eq_some h, of_decide_eq_true hq⟩

/-- Ids with everything above them alike have the same earliest row above them. -/
theorem firstAbove_congr {pre : List (Row Int)} {x z : Int}
    (h : ∀ w, Above rows z w ↔ Above rows x w) :
    firstAbove rows pre z = firstAbove rows pre x := by
  unfold firstAbove
  congr 1
  funext r
  exact decide_eq_decide.mpr (h r.id)

/-- No id above an id on a cycle is a breaker among `pre` when no row of `pre` lies on the
cycle. -/
theorem not_breakerAmong_of_firstAbove {pre : List (Row Int)} {x z : Int} (hx : OnCycle rows x)
    (hfirst : firstAbove rows pre x = none) (hz : Above rows x z) : ¬ BreakerAmong rows pre z := by
  rintro ⟨-, hbreak⟩
  rw [firstAbove_congr (hx.above_iff hz), hfirst] at hbreak
  cases hbreak

/-- The earliest row of `pre` on the cycle of `x`, if there is one, has a breaker's id. -/
theorem breakerAmong_of_firstAbove {pre : List (Row Int)} {x : Int} {q : Row Int}
    (hx : OnCycle rows x) (hfirst : firstAbove rows pre x = some q) :
    Above rows x q.id ∧ BreakerAmong rows pre q.id := by
  have hq := (firstAbove_eq_some hfirst).2
  refine ⟨hq, hx.of_above hq, ?_⟩
  rw [firstAbove_congr (hx.above_iff hq), hfirst]
  rfl

/-- Taking one row more adds at most that row's id to the breakers: it is one exactly when it
lies on a cycle that no earlier row lies on. -/
theorem breakerAmong_append_singleton (pre : List (Row Int)) (r : Row Int) (y : Int) :
    BreakerAmong rows (pre ++ [r]) y ↔ BreakerAmong rows pre y ∨
      (y = r.id ∧ OnCycle rows r.id ∧ firstAbove rows pre r.id = none) := by
  unfold BreakerAmong
  rw [firstAbove_append_singleton]
  cases hfirst : firstAbove rows pre y with
  | some q =>
    -- an earlier row lies on the cycle of `y`, so `r` changes nothing
    constructor
    · exact fun h => .inl h
    · rintro (h | ⟨rfl, -, hnone⟩)
      · exact h
      · rw [hfirst] at hnone
        cases hnone
  | none =>
    by_cases habove : Above rows y r.id
    · simp only [Option.none_or, if_pos habove, Option.map_some, Option.some.injEq]
      constructor
      · rintro ⟨hy, rfl⟩
        exact .inr ⟨rfl, hy, hfirst⟩
      · rintro (⟨-, h⟩ | ⟨rfl, hy, -⟩)
        · cases h
        · exact ⟨hy, rfl⟩
    · simp only [Option.none_or, if_neg habove, Option.map_none, reduceCtorEq, and_false,
        false_or, false_iff, not_and]
      rintro rfl -
      exact absurd (above_refl _) habove

/-! ## The breakers the builder finds -/

/-- When no id of the cycle of `x` is dropped, the walk up the kept links from the page parent of
`x` comes back to `x` within the builder's bound. -/
theorem reaches_of_whole_cycle {broken : List Int} {x p : Int} (hx : OnCycle rows x)
    (hkept : ∀ z, Above rows x z → z ∉ broken) (hp : pageParent rows x = some p) :
    Forest.reaches (· == ·) (keptLink rows broken) x (some p) (rows.length + 1) = true := by
  have hpos := Function.minimalPeriod_pos_of_mem_periodicPts hx
  have hle := minimalPeriod_le_length hx
  obtain ⟨k, hk⟩ : ∃ k, Function.minimalPeriod (up (pageParent rows)) (some x) = k + 1 :=
    ⟨_, (Nat.sub_add_cancel hpos).symm⟩
  -- going once round the cycle from `x` is `k` steps from its page parent
  have hback : (up (pageParent rows))^[k] (some p) = some x := by
    have hround := Function.iterate_minimalPeriod (f := up (pageParent rows)) (x := some x)
    rw [hk, iterate_up_succ, hp] at hround
    exact hround
  rw [reaches_iff]
  refine ⟨k, by omega, ?_⟩
  rw [iterate_keptLink_eq fun i _ w hw =>
    hkept w ⟨i + 1, by rw [iterate_up_succ, hp]; exact hw⟩]
  exact hback

/-- A row whose kept link comes back to it lies on a cycle none of whose ids is dropped. -/
theorem whole_cycle_of_reaches {broken : List Int} {x p : Int} (hx : x ∉ broken)
    (hp : pageParent rows x = some p) {fuel : Nat}
    (h : Forest.reaches (· == ·) (keptLink rows broken) x (some p) fuel = true) :
    OnCycle rows x ∧ ∀ z, Above rows x z → z ∉ broken := by
  obtain ⟨i, -, hi⟩ := (reaches_iff _ _ _).mp h
  obtain ⟨hwalk, hpast⟩ := iterate_keptLink_of_some hi
  -- going up `i + 1` links from `x` comes back to `x`
  have hloop : Function.IsPeriodicPt (up (pageParent rows)) (i + 1) (some x) := by
    show (up (pageParent rows))^[i + 1] (some x) = some x
    rw [iterate_up_succ, hp]
    exact hwalk
  refine ⟨⟨i + 1, Nat.succ_pos i, hloop⟩, ?_⟩
  rintro z ⟨k, hk⟩
  -- every place above `x` is one of the first `i + 1` places of its cycle
  rw [← hloop.iterate_mod_apply] at hk
  have hlt : k % (i + 1) < i + 1 := Nat.mod_lt _ (Nat.succ_pos i)
  cases hj : k % (i + 1) with
  | zero =>
    rw [hj] at hk
    exact Option.some.inj hk ▸ hx
  | succ j =>
    rw [hj, iterate_up_succ, hp] at hk
    exact hpast j (by omega) z hk

/-- A row whose kept link comes back to it, when the dropped ids are the breakers among the rows
before it, lies on a cycle that no earlier row lies on. -/
theorem firstAbove_eq_none_of_reaches {pre : List (Row Int)} {broken : List Int}
    (hbroken : ∀ y, y ∈ broken ↔ BreakerAmong rows pre y) {x p : Int} (hx : x ∉ broken)
    (hp : pageParent rows x = some p) {fuel : Nat}
    (h : Forest.reaches (· == ·) (keptLink rows broken) x (some p) fuel = true) :
    OnCycle rows x ∧ firstAbove rows pre x = none := by
  obtain ⟨hcyc, hkept⟩ := whole_cycle_of_reaches hx hp h
  refine ⟨hcyc, ?_⟩
  cases hq : firstAbove rows pre x with
  | none => rfl
  | some q =>
    -- the earliest row above would be a breaker, so its id would be dropped
    obtain ⟨habove, hbreak⟩ := breakerAmong_of_firstAbove hcyc hq
    exact absurd ((hbroken q.id).mpr hbreak) (hkept q.id habove)

variable (rows) in
/-- One step of the builder's search for breakers: the row `r` drops its link when the link,
followed up through the links still kept, comes back to `r`. -/
def breakStep (broken : List Int) (r : Row Int) : List Int :=
  match Forest.linkIn (Forest.pageParents rows) broken r.id with
  | none => broken
  | some p =>
    if Forest.closesCycle (· == ·) (Forest.pageParents rows) broken r.id p then r.id :: broken
    else broken

/-- **One row more.** If the dropped ids are the breakers among the rows taken so far, then after
the next row they are the breakers among the rows taken with it. -/
theorem breakStep_iff {pre : List (Row Int)} {broken : List Int}
    (hbroken : ∀ y, y ∈ broken ↔ BreakerAmong rows pre y) (r : Row Int) (y : Int) :
    y ∈ breakStep rows broken r ↔ BreakerAmong rows (pre ++ [r]) y := by
  rw [breakerAmong_append_singleton, ← hbroken y]
  unfold breakStep
  rw [linkIn_pageParents]
  by_cases hin : r.id ∈ broken
  · -- the row's link is dropped already: an earlier row of its cycle broke it
    have hfirst : firstAbove rows pre r.id ≠ none := by
      intro hnone
      obtain ⟨-, hmap⟩ := (hbroken r.id).mp hin
      rw [hnone] at hmap
      cases hmap
    simp only [keptLink, if_pos hin]
    constructor
    · exact .inl
    · rintro (h | ⟨-, -, hnone⟩)
      · exact h
      · exact absurd hnone hfirst
  cases hp : pageParent rows r.id with
  | none =>
    -- a row without a page parent lies on no cycle
    simp only [keptLink, if_neg hin, hp]
    constructor
    · exact .inl
    · rintro (h | ⟨-, hcyc, -⟩)
      · exact h
      · obtain ⟨q, hq⟩ := hcyc.exists_pageParent
        rw [hp] at hq
        cases hq
  | some p =>
    simp only [keptLink, if_neg hin, hp]
    rw [Forest.closesCycle_eq_reaches, linkIn_pageParents, length_pageParents]
    by_cases hcl : Forest.reaches (· == ·) (keptLink rows broken) r.id (some p)
        (rows.length + 1) = true
    · -- the row closes its cycle: no earlier row lies on it, and it becomes its breaker
      rw [if_pos hcl]
      obtain ⟨hcyc, hnone⟩ := firstAbove_eq_none_of_reaches hbroken hin hp hcl
      rw [List.mem_cons]
      constructor
      · rintro (rfl | h)
        · exact .inr ⟨rfl, hcyc, hnone⟩
        · exact .inl h
      · rintro (h | ⟨rfl, -, -⟩)
        · exact .inr h
        · exact .inl rfl
    · -- the walk does not come back: the row's cycle, if any, is broken already
      rw [if_neg hcl]
      constructor
      · exact .inl
      · rintro (h | ⟨rfl, hcyc, hnone⟩)
        · exact h
        · refine absurd (reaches_of_whole_cycle hcyc (fun z hz hmem => ?_) hp) hcl
          exact not_breakerAmong_of_firstAbove hcyc hnone hz ((hbroken z).mp hmem)

/-- Taking the rows in order, the builder drops the links of the breakers among the rows taken.
The induction is on the rows taken, one more at a time. -/
theorem mem_foldl_breakStep (pre : List (Row Int)) (y : Int) :
    y ∈ pre.foldl (breakStep rows) [] ↔ BreakerAmong rows pre y := by
  induction pre using List.reverseRecOn generalizing y with
  | nil => simp [BreakerAmong, firstAbove]
  | append_singleton pre r ih =>
    rw [List.foldl_append, List.foldl_cons, List.foldl_nil]
    exact breakStep_iff ih r y

/-- **The builder drops exactly the breakers' links.** -/
theorem breakers_eq_foldl : Forest.breakers (· == ·) rows = rows.foldl (breakStep rows) [] := by
  unfold Forest.breakers
  dsimp only
  congr 1
  funext broken r
  -- the two matches on the link are the same, but their matchers are different constants
  unfold breakStep
  cases Forest.linkIn (Forest.pageParents rows) broken r.id <;> rfl

theorem mem_breakers_iff (y : Int) :
    y ∈ Forest.breakers (· == ·) rows ↔ IsBreaker rows y := by
  rw [breakers_eq_foldl]
  exact mem_foldl_breakStep rows y

/-- Once the cycles are broken, the builder links every id by its reference link. -/
theorem linkOf_eq_refLink : Forest.linkOf (· == ·) rows = refLink rows := by
  funext x
  rw [Forest.linkOf, linkIn_pageParents, keptLink, refLink]
  by_cases h : IsBreaker rows x
  · rw [if_pos ((mem_breakers_iff x).mpr h), if_pos h]
  · rw [if_neg fun hm => h ((mem_breakers_iff x).mp hm), if_neg h]

/-! ## The reference links close no cycle -/

theorem refLink_eq_keptLink : refLink rows = keptLink rows (Forest.breakers (· == ·) rows) := by
  rw [← linkOf_eq_refLink, Forest.linkOf, linkIn_pageParents]

/-- A reference link is a page-parent link. -/
theorem pageParent_of_refLink {x p : Int} (h : refLink rows x = some p) :
    pageParent rows x = some p := by
  unfold refLink at h
  by_cases hb : IsBreaker rows x
  · rw [if_pos hb] at h
    cases h
  · rwa [if_neg hb] at h

/-- A reference link leads from a row id to a row id. -/
theorem refLink_mem {x p : Int} (h : refLink rows x = some p) :
    x ∈ rows.map (·.id) ∧ p ∈ rows.map (·.id) :=
  pageParent_eq_some (pageParent_of_refLink h)

/-- A walk up the reference links from a row id meets only row ids. -/
theorem iterate_refLink_mem {x z : Int} {k : Nat} (hx : x ∈ rows.map (·.id))
    (h : (up (refLink rows))^[k] (some x) = some z) : z ∈ rows.map (·.id) := by
  rw [refLink_eq_keptLink] at h
  exact iterate_pageParent_mem hx (iterate_keptLink_of_some h).1

/-- Every cycle of page parents has a breaker on it. -/
theorem OnCycle.exists_breaker {x : Int} (hx : OnCycle rows x) :
    ∃ b, Above rows x b ∧ IsBreaker rows b := by
  cases hq : firstAbove rows rows x with
  | none =>
    -- the row of `x` lies above `x`, so some row does
    obtain ⟨r, hr, rfl⟩ := List.mem_map.mp hx.mem
    unfold firstAbove at hq
    have hnot := List.find?_eq_none.mp hq r hr
    exact absurd (above_refl r.id) (by simpa using hnot)
  | some q =>
    obtain ⟨habove, hb⟩ := breakerAmong_of_firstAbove hx hq
    exact ⟨q.id, habove, hb⟩

/-- **No cycle is left.** A walk of one or more reference links never comes back to its start:
it would go round a cycle of page parents without passing the cycle's breaker. -/
theorem iterate_refLink_ne_self (x : Int) (n : Nat) :
    (up (refLink rows))^[n + 1] (some x) ≠ some x := by
  intro hloop
  rw [refLink_eq_keptLink] at hloop
  obtain ⟨hwalk, hpast⟩ := iterate_keptLink_of_some hloop
  have hper : Function.IsPeriodicPt (up (pageParent rows)) (n + 1) (some x) := hwalk
  have hcyc : OnCycle rows x := ⟨n + 1, Nat.succ_pos n, hper⟩
  obtain ⟨b, ⟨k, hk⟩, hb⟩ := hcyc.exists_breaker
  -- the breaker is one of the first `n + 1` places of the walk, none of which is a breaker
  rw [← hper.iterate_mod_apply] at hk
  exact hpast _ (Nat.mod_lt _ (Nat.succ_pos n)) b hk ((mem_breakers_iff b).mpr hb)

/-- **Walks up the reference links are no longer than the page.** Every place before the end of
a walk that arrives somewhere has a link, so it is a row id, and no two places are one id. -/
theorem iterate_refLink_le_length {y x : Int} {m : Nat}
    (h : (up (refLink rows))^[m] (some y) = some x) : m ≤ rows.length := by
  have hlen : (rows.map (·.id)).length = rows.length := List.length_map _
  rw [← hlen]
  refine @length_le_of_walk_injOn (refLink rows) _ y m (fun i hi => ?_) fun i hi j hj hij => ?_
  · obtain ⟨w, hw⟩ := iterate_up_of_le hi.le h
    obtain ⟨k, hk⟩ : ∃ k, m = k + 1 + i := ⟨m - i - 1, by omega⟩
    rw [hk, Function.iterate_add_apply, hw] at h
    obtain ⟨p, hp, -⟩ := exists_link_of_iterate_succ h
    exact ⟨w, (refLink_mem hp).1, hw⟩
  · obtain ⟨w, hw⟩ := iterate_up_of_le hi.le h
    obtain ⟨w', hw'⟩ := iterate_up_of_le hj.le h
    rcases Nat.lt_trichotomy i j with hlt | heq | hgt
    · exact absurd (iterate_up_loop hlt hw hij) (iterate_refLink_ne_self w _)
    · exact heq
    · exact absurd (iterate_up_loop hgt hw' hij.symm) (iterate_refLink_ne_self w' _)

/-- A walk of more links than there are rows has left the ids. -/
theorem iterate_refLink_length_succ (x : Int) :
    (up (refLink rows))^[rows.length + 1] (some x) = none := by
  cases hw : (up (refLink rows))^[rows.length + 1] (some x) with
  | none => rfl
  | some z => exact absurd (iterate_refLink_le_length hw) (Nat.not_succ_le_self _)

/-- Every row id is below some row without a reference link. -/
theorem exists_top_above {y : Int} (hy : y ∈ rows.map (·.id)) :
    ∃ r ∈ rows, refLink rows r.id = none ∧
      ∃ k, (up (refLink rows))^[k] (some y) = some r.id := by
  obtain ⟨k, z, hz, hnone⟩ := exists_last_of_iterate_none (iterate_refLink_length_succ y)
  obtain ⟨r, hr, rfl⟩ := List.mem_map.mp (iterate_refLink_mem hy hz)
  exact ⟨r, hr, hnone, k, hz⟩

/-! ## The builder's forest -/

variable (rows) in
/-- Each row with its reference link, as the builder pairs them. -/
noncomputable def refLinked : List (Row Int × Option Int) :=
  rows.map fun r => (r, refLink rows r.id)

variable (rows) in
/-- The forest the builder answers: the node of each row without a reference link, in row order,
expanded to the builder's depth bound. -/
noncomputable def refForest : List Tree :=
  (rows.filter fun r => refLink rows r.id == none).map fun r =>
    Forest.expand Json.int rows (refLinked rows) (rows.length + 1) r.id

/-- The node of `x` shows `x` with the label of its last row. -/
theorem shownAs_int (x : Int) : Forest.shownAs Json.int rows x = (.int x, labelOf rows x) := by
  unfold Forest.shownAs labelOf lastRow
  cases h : rows.reverse.find? (·.id == x) with
  | none => rfl
  | some r =>
    rw [← (@lastRow_eq_some rows x r h).2]
    rfl

theorem filter_refLinked (x : Option Int) :
    (refLinked rows).filter (fun p => p.2 == x) =
      (rows.filter fun r => refLink rows r.id == x).map fun r => (r, refLink rows r.id) := by
  simp [refLinked, List.filter_map, Function.comp_def]

theorem refTrees_map {rs : List (Row Int)} {f : Row Int → Tree}
    (h : ∀ r ∈ rs, RefTree rows r.id (f r)) : RefTrees rows rs (rs.map f) := by
  induction rs with
  | nil => exact .nil
  | cons r rs ih =>
    exact .cons r rs _ _ (h r List.mem_cons_self)
      (ih fun r' hr' => h r' (List.mem_cons_of_mem r hr'))

/-- Within the depth bound, the builder expands the node of `x` as the reference forest has it.
The induction is on the bound. -/
theorem refTree_expand (fuel : Nat) (x : Int)
    (hdeep : ∀ y, (up (refLink rows))^[fuel + 1] (some y) ≠ some x) :
    RefTree rows x (Forest.expand Json.int rows (refLinked rows) fuel x) := by
  induction fuel generalizing x with
  | zero =>
    -- no row is linked to `x`
    have hnil : (rows.filter fun r => refLink rows r.id == some x) = [] :=
      List.filter_eq_nil_iff.mpr fun r _ hr => hdeep r.id (beq_iff_eq.mp hr)
    rw [Forest.expand, shownAs_int]
    refine .node x [] ?_
    rw [hnil]
    exact .nil
  | succ fuel ih =>
    rw [Forest.expand, shownAs_int, filter_refLinked, List.map_map]
    refine .node x _ (refTrees_map fun r hr => ih r.id fun y hy => hdeep y ?_)
    -- a row linked to `x` is one link below it
    rw [Function.iterate_succ_apply', hy]
    exact beq_iff_eq.mp (List.mem_filter.mp hr).2

/-- **The builder answers the reference forest**, on every page with a row whose breakers' ids can
be written. -/
theorem build_eq_refForest (hne : rows ≠ [])
    (hfit : ∀ x ∈ Forest.breakers (· == ·) rows, fitsNumeral x = true) :
    Forest.build Json.int (· == ·) rows = .ok (refForest rows) := by
  have hlink : Forest.linkIn (Forest.pageParents rows) (Forest.breakers (· == ·) rows) =
      refLink rows := linkOf_eq_refLink
  have hlinked : (rows.map fun r => (r, refLink rows r.id)) = refLinked rows := rfl
  -- some row has no reference link: the walk up from any row ends at one
  obtain ⟨r₀, hr₀⟩ := List.exists_mem_of_ne_nil rows hne
  obtain ⟨r, hr, hnone, -⟩ := exists_top_above (List.mem_map_of_mem hr₀)
  have htop : r ∈ rows.filter fun r => refLink rows r.id == none :=
    List.mem_filter.mpr ⟨hr, by simp [hnone]⟩
  have htops : ((rows.filter fun r => refLink rows r.id == none).map
      fun r => (r, refLink rows r.id)).isEmpty = false := by
    simpa using List.ne_nil_of_mem htop
  have hrows : rows.isEmpty = false := by simpa using hne
  have hall : (Forest.breakers (· == ·) rows).all (fun x => (Json.int x).writable) = true :=
    List.all_eq_true.mpr hfit
  simp only [Forest.build, hlink, hlinked, filter_refLinked, htops, hrows, hall, Bool.not_true,
    Bool.false_eq_true, ↓reduceIte, List.map_map]
  rfl

/-- A page one of whose breakers has an id too long to write fails the build: the row that breaks
that cycle is reported by its id. -/
theorem build_of_wide_breaker (hne : rows ≠ []) {x : Int}
    (hx : x ∈ Forest.breakers (· == ·) rows) (hwide : fitsNumeral x = false) :
    Forest.build Json.int (· == ·) rows = .error .tooManyDigitsToWrite := by
  have hall : (Forest.breakers (· == ·) rows).all (fun x => (Json.int x).writable) = false :=
    List.all_eq_false.mpr ⟨x, hx, by simpa [Json.writable] using hwide⟩
  have hrows : rows.isEmpty = false := by simpa using hne
  simp only [Forest.build, hrows, hall, Bool.not_false, Bool.false_eq_true, ↓reduceIte]

mutual

/-- The reference forest has one node for each id. -/
theorem RefTree.unique {x : Int} {t t' : Tree} :
    RefTree rows x t → RefTree rows x t' → t = t'
  | .node _ _ kids, .node _ _ kids' => by rw [RefTrees.unique kids kids']

/-- The reference forest has one list of nodes for each list of rows. -/
theorem RefTrees.unique {rs : List (Row Int)} {ts ts' : List Tree} :
    RefTrees rows rs ts → RefTrees rows rs ts' → ts = ts'
  | .nil, .nil => rfl
  | .cons _ _ _ _ head tail, .cons _ _ _ _ head' tail' => by
    rw [RefTree.unique head head', RefTrees.unique tail tail']

end

/-- The reference forest's nodes are the builder's: its depth bound is never reached. -/
theorem refTrees_refForest :
    RefTrees rows (rows.filter fun r => refLink rows r.id == none) (refForest rows) := by
  refine refTrees_map fun r _ => refTree_expand _ _ fun y hy => ?_
  -- a walk of `rows.length + 2` links would be longer than the page
  have hlong := iterate_refLink_le_length hy
  omega

/-! ## Pages with distinct ids -/

/-- The builder's expansion reads the rows only for what their nodes show, and the pairs only
for each row's id and link. -/
theorem expand_congr {rows₁ rows₂ : List (Row Int)}
    {linked₁ linked₂ : List (Row Int × Option Int)}
    (hshown : Forest.shownAs Json.int rows₁ = Forest.shownAs Json.int rows₂)
    (hlinked : linked₁.map (fun p => (p.1.id, p.2)) = linked₂.map fun p => (p.1.id, p.2))
    (fuel : Nat) (x : Int) :
    Forest.expand Json.int rows₁ linked₁ fuel x =
      Forest.expand Json.int rows₂ linked₂ fuel x := by
  induction fuel generalizing x with
  | zero => rw [Forest.expand, Forest.expand, hshown]
  | succ fuel ih =>
    have hkids : ∀ l : List (Row Int × Option Int),
        (l.filter fun p => p.2 == some x).map
            (fun p => Forest.expand Json.int rows₂ linked₂ fuel p.1.id) =
          ((l.map fun p => (p.1.id, p.2)).filter fun q => q.2 == some x).map
            fun q => Forest.expand Json.int rows₂ linked₂ fuel q.1 := by
      intro l
      simp [List.filter_map, Function.comp_def]
    rw [Forest.expand, Forest.expand, hshown]
    simp only [ih]
    rw [hkids, hkids, hlinked]

/-- A reference link leads to a row id. -/
theorem filter_refLink (x : Int) :
    (refLink rows x).filter (rows.map (·.id)).contains = refLink rows x := by
  cases hl : refLink rows x with
  | none => rfl
  | some p => simp [(refLink_mem hl).2]

/-- Only a row id has a reference link. -/
theorem refLink_of_not_mem {x : Int} (hx : x ∉ rows.map (·.id)) : refLink rows x = none := by
  cases hl : refLink rows x with
  | none => rfl
  | some p => exact absurd (refLink_mem hl).1 hx

variable (rows) in
/-- The rows with each parent replaced by the reference link of the row's id. -/
noncomputable def relinked : List (Row Int) :=
  rows.map fun r => ⟨r.id, r.label, refLink rows r.id⟩

theorem relinked_ids : (relinked rows).map (·.id) = rows.map (·.id) := by
  simp [relinked, Function.comp_def]

theorem lastRow_relinked (x : Int) :
    lastRow (relinked rows) x =
      (lastRow rows x).map fun r => ⟨r.id, r.label, refLink rows r.id⟩ := by
  unfold lastRow relinked
  rw [← List.map_reverse, List.find?_map]
  rfl

theorem labelOf_relinked : labelOf (relinked rows) = labelOf rows := by
  funext x
  unfold labelOf
  rw [lastRow_relinked, Option.map_map]
  rfl

/-- Relinked, a row's page parent is its reference link. -/
theorem pageParent_relinked : pageParent (relinked rows) = refLink rows := by
  funext x
  unfold pageParent
  rw [lastRow_relinked, relinked_ids]
  cases hr : lastRow rows x with
  | none =>
    -- no row has id `x`, so `x` has no page parent and no reference link
    cases hl : refLink rows x with
    | none => rfl
    | some p =>
      have hp := pageParent_of_refLink hl
      rw [pageParent, hr] at hp
      cases hp
  | some r =>
    obtain ⟨-, rfl⟩ := lastRow_eq_some hr
    exact filter_refLink r.id

/-- Relinked rows close no cycle, so none of them is a breaker: their reference links are those
of the rows. -/
theorem refLink_relinked : refLink (relinked rows) = refLink rows := by
  funext x
  have hnot : ¬ IsBreaker (relinked rows) x := by
    rintro ⟨⟨n, hn, hper⟩, -⟩
    obtain ⟨m, rfl⟩ : ∃ m, n = m + 1 := ⟨n - 1, by omega⟩
    rw [Function.IsPeriodicPt, Function.IsFixedPt, pageParent_relinked] at hper
    exact iterate_refLink_ne_self x m hper
  rw [refLink, if_neg hnot, pageParent_relinked]

/-- Relinking the rows by their reference links leaves the builder's forest as it is. -/
theorem refForest_relinked : refForest (relinked rows) = refForest rows := by
  have hshown : Forest.shownAs Json.int (relinked rows) = Forest.shownAs Json.int rows := by
    funext x
    rw [shownAs_int, shownAs_int, labelOf_relinked]
  have hlinked : (refLinked (relinked rows)).map (fun p => (p.1.id, p.2)) =
      (refLinked rows).map fun p => (p.1.id, p.2) := by
    simp only [refLinked, refLink_relinked]
    simp [relinked, Function.comp_def]
  unfold refForest
  simp only [expand_congr hshown hlinked, refLink_relinked]
  simp [relinked, List.filter_map, Function.comp_def]

/-- The nodes of a page relinked by their reference links, as stored nodes. -/
noncomputable def relinkedPage (nodes : List Node) : List Node :=
  nodes.map fun n => ⟨n.id, n.label, (refLink (nodes.map Node.row) n.id).map .int⟩

section RelinkedPage

variable {nodes : List Node}

theorem relinkedPage_rows : (relinkedPage nodes).map Node.row = relinked (nodes.map Node.row) := by
  simp [relinkedPage, relinked, Node.row, Node.link, Json.map_int_bind_intValue?, Function.comp_def]

/-- On the relinked page as a store, a node's parent is its reference link. -/
theorem parentOf_relinkedPage :
    (Store.ofPage (relinkedPage nodes)).parentOf = refLink (nodes.map Node.row) := by
  funext x
  rw [parentOf_ofPage]
  have hids : (relinkedPage nodes).map (·.id) = (nodes.map Node.row).map (·.id) := by
    simp [relinkedPage, Function.comp_def]
  cases hf : (relinkedPage nodes).find? (·.id == x) with
  | none =>
    -- no node has id `x`
    refine (refLink_of_not_mem fun hx => ?_).symm
    rw [← hids] at hx
    obtain ⟨n, hn, rfl⟩ := List.mem_map.mp hx
    have hnot := List.find?_eq_none.mp hf n hn
    simp at hnot
  | some n =>
    have hn := List.mem_of_find?_eq_some hf
    have hbeq := List.find?_some hf
    have hid : n.id = x := beq_iff_eq.mp hbeq
    obtain ⟨m, -, rfl⟩ := List.mem_map.mp hn
    subst hid
    simp only [Option.bind_some, Node.link, Json.map_int_bind_intValue?, hids]
    exact filter_refLink m.id

/-- On the relinked page as a store, a climb is a walk up the reference links. -/
theorem climb_relinkedPage (o : Option Int) (k : Nat) :
    (Store.ofPage (relinkedPage nodes)).climb o k = (up (refLink (nodes.map Node.row)))^[k] o := by
  induction k generalizing o with
  | zero => rfl
  | succ k ih =>
    rw [Function.iterate_succ_apply, ← ih]
    show Store.climb _ (o.bind (Store.ofPage (relinkedPage nodes)).parentOf) k = _
    rw [parentOf_relinkedPage]
    rfl

/-- **Distinct ids: every node is shown once.** Relinked by its reference links, a page whose
ids are distinct is one whose climbs end, and the builder's forest is the same. -/
theorem refForest_nodes_perm (hnodup : (nodes.map (·.id)).Nodup) (hne : nodes ≠ []) :
    ((refForest (nodes.map Node.row)).flatMap Tree.nodes).Perm (nodes.map Node.shown) := by
  have hnodup' : ((relinkedPage nodes).map (·.id)).Nodup := by
    simpa [relinkedPage, Function.comp_def] using hnodup
  have hends : ∀ m ∈ relinkedPage nodes, (Store.ofPage (relinkedPage nodes)).Ends m.id :=
    fun m _ => ⟨(nodes.map Node.row).length + 1, by
      rw [climb_relinkedPage]
      exact iterate_refLink_length_succ m.id⟩
  have hne' : relinkedPage nodes ≠ [] := by simpa [relinkedPage] using hne
  have hrows : relinked (nodes.map Node.row) ≠ [] := by simpa [relinked] using hne
  -- the builder answers the page forest of the relinked page, and that is the reference forest
  have hforest : pageForest (relinkedPage nodes) = refForest (nodes.map Node.row) := by
    -- the relinked page closes no cycle, so it has no breaker to report
    have hfit' : ∀ x ∈ Forest.breakers (· == ·) (relinked (nodes.map Node.row)),
        fitsNumeral x = true := by
      rw [← relinkedPage_rows, breakers_ofPage hnodup' hends]
      intro x hx
      cases hx
    have hbuild := build_ofPage hnodup' hends hne'
    rw [relinkedPage_rows, build_eq_refForest hrows hfit', refForest_relinked] at hbuild
    exact (Except.ok.inj hbuild).symm
  have hshown : (relinkedPage nodes).map Node.shown = nodes.map Node.shown := by
    simp [relinkedPage, Node.shown, Function.comp_def]
  rw [← hforest, ← hshown]
  exact pageForest_nodes_perm hnodup' hends

end RelinkedPage

/-! ## What the builder answers -/

/-- **The builder breaks each cycle at its first row.** On every page of stored nodes with a row,
whose ids have at most `maxIntDigits` digits, the builder answers a forest, and it is the
reference forest, which the rows determine: at the top the nodes of the rows without a reference
link, in row order, and below each node those of the rows linked to it, in row order. The
reference links close no cycle, and when the ids are distinct every node of the page is shown
exactly once. -/
theorem forest_breaks_each_cycle_at_its_first_row (nodes : List Node) (hne : nodes ≠ [])
    (hfit : ∀ n ∈ nodes, fitsNumeral n.id = true) :
    let rows := nodes.map Node.row
    ∃ ts, Forest.build Json.int (· == ·) rows = .ok ts ∧
      RefTrees rows (rows.filter fun r => refLink rows r.id == none) ts ∧
      (∀ ts', RefTrees rows (rows.filter fun r => refLink rows r.id == none) ts' → ts' = ts) ∧
      (∀ x n, (up (refLink rows))^[n + 1] (some x) ≠ some x) ∧
      ((nodes.map (·.id)).Nodup → (ts.flatMap Tree.nodes).Perm (nodes.map Node.shown)) := by
  intro rows
  have hrows : rows ≠ [] := fun h => hne (List.map_eq_nil_iff.mp h)
  have hbreakers : ∀ x ∈ Forest.breakers (· == ·) rows, fitsNumeral x = true := by
    intro x hx
    -- a breaker lies on a cycle, so it is the id of a node
    obtain ⟨r, hr, rfl⟩ := List.mem_map.mp ((mem_breakers_iff x).mp hx).1.mem
    obtain ⟨n, hn, rfl⟩ := List.mem_map.mp hr
    simpa [Node.row_id] using hfit n hn
  refine ⟨refForest rows, build_eq_refForest hrows hbreakers, refTrees_refForest, ?_,
    iterate_refLink_ne_self, fun hnodup => refForest_nodes_perm hnodup hne⟩
  intro ts' hts'
  exact RefTrees.unique hts' refTrees_refForest

/-- Two nodes that are each other's parent: the first row breaks the cycle. -/
theorem two_node_cycle_breaks_at_first_row :
    [(⟨1, .str "a", some (.int 2)⟩ : Node), ⟨2, .str "b", some (.int 1)⟩] ≠ [] ∧
    (∀ n ∈ [(⟨1, .str "a", some (.int 2)⟩ : Node), ⟨2, .str "b", some (.int 1)⟩],
      fitsNumeral n.id = true) ∧
    let rows :=
      [(⟨1, .str "a", some (.int 2)⟩ : Node), ⟨2, .str "b", some (.int 1)⟩].map Node.row
    ∃ ts, Forest.build Json.int (· == ·) rows = .ok ts ∧
      RefTrees rows (rows.filter fun r => refLink rows r.id == none) ts ∧
      (∀ ts', RefTrees rows (rows.filter fun r => refLink rows r.id == none) ts' → ts' = ts) ∧
      (∀ x n, (up (refLink rows))^[n + 1] (some x) ≠ some x) ∧
      (([(⟨1, .str "a", some (.int 2)⟩ : Node), ⟨2, .str "b", some (.int 1)⟩].map
          (·.id)).Nodup →
        (ts.flatMap Tree.nodes).Perm
          ([(⟨1, .str "a", some (.int 2)⟩ : Node), ⟨2, .str "b", some (.int 1)⟩].map
            Node.shown)) :=
  have hfit : ∀ n ∈ [(⟨1, .str "a", some (.int 2)⟩ : Node), ⟨2, .str "b", some (.int 1)⟩],
      fitsNumeral n.id = true := by
    intro n hn
    simp only [List.mem_cons, List.not_mem_nil, or_false] at hn
    rcases hn with rfl | rfl <;> exact fitsNumeral_of_lt (by decide)
  ⟨List.cons_ne_nil _ _, hfit,
    forest_breaks_each_cycle_at_its_first_row _ (List.cons_ne_nil _ _) hfit⟩

/-- Two nodes that are each other's parent, the first of id `10 ^ maxIntDigits`: its row breaks the
cycle, and its id cannot be written into the report of the cycle, so the builder fails. -/
theorem wide_cycle_breaker_fails_the_build :
    Forest.build Json.int (· == ·)
      ([(⟨10 ^ maxIntDigits, .str "a", some (.int 1)⟩ : Node),
        ⟨1, .str "b", some (.int (10 ^ maxIntDigits))⟩].map Node.row) =
      .error .tooManyDigitsToWrite := by
  have hbreak : Forest.breakers (· == ·)
      ([(⟨10 ^ maxIntDigits, .str "a", some (.int 1)⟩ : Node),
        ⟨1, .str "b", some (.int (10 ^ maxIntDigits))⟩].map Node.row) = [10 ^ maxIntDigits] := by
    decide +kernel
  refine build_of_wide_breaker (List.cons_ne_nil _ _) ?_ fitsNumeral_pow
  rw [hbreak]
  exact List.mem_singleton_self _

end Forest

end Arbor
