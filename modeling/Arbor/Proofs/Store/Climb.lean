import Arbor.Store.Basic
import Mathlib.Data.Finset.Card
import Mathlib.Data.Nat.Find

set_option autoImplicit false

/-! # Climbing parent links

From a stored node the parent links lead up: `Store.parentOf` is the id a stored node links to,
and `Store.climb s start k` is where `k` links from `start` lead, `none` once a root has been
left. The walk `Store.reachesUp` asks whether a climb meets an id within a number of links
(`reachesUp_iff`). The subtree of a node is the ids whose climb meets it; the backends' own
searches find exactly these (`Arbor.Proofs.Store.Subtree`).

A climb that passes more stored nodes than there are visits one twice (`climb_repeats`). So a
climb that ends at all ends within as many links as there are stored nodes, when every parent is
stored (`climb_length_eq_none`), and one that meets a node meets it within as many
(`exists_climb_le_length`): a longer one could have left the repeated node's loop earlier. So to
show the parent graph acyclic it is enough to show that every climb ends (`Store.Ends`).

A change of the store that keeps the links of the nodes a climb visits keeps the climb
(`climb_congr`); this is the frame lemma for the writes of the store.
-/

namespace Arbor

namespace Store

/-- The id the stored node `x` links to as its parent. -/
def parentOf (s : Store) (x : Int) : Option Int := (s.find? x).bind Node.link

/-- Where `k` parent links from `start` lead. -/
def climb (s : Store) (start : Option Int) : Nat → Option Int
  | 0 => start
  | k + 1 => s.climb (start.bind s.parentOf) k

/-- The climb from `x` ends: some number of links leads past a root. -/
def Ends (s : Store) (x : Int) : Prop := ∃ t, s.climb (some x) t = none

/-- Following parent links from `x`, within `fuel` links, reaches `target` (`x` itself counts). -/
def reachesUp (s : Store) (target : Int) : Option Int → Nat → Bool
  | none, _ => false
  | some _, 0 => false
  | some x, fuel + 1 => x == target || reachesUp s target ((s.find? x).bind Node.link) fuel

variable {s : Store}

@[simp] theorem climb_zero (start : Option Int) : s.climb start 0 = start := rfl

@[simp] theorem climb_none (k : Nat) : s.climb none k = none := by
  induction k with
  | zero => rfl
  | succ k ih => exact ih

theorem climb_some_succ (x : Int) (k : Nat) : s.climb (some x) (k + 1) = s.climb (s.parentOf x) k :=
  rfl

theorem climb_add (start : Option Int) (i j : Nat) :
    s.climb start (i + j) = s.climb (s.climb start i) j := by
  induction i generalizing start with
  | zero => simp
  | succ i ih =>
    rw [Nat.add_right_comm]
    exact ih _

/-- One link more than a climb to `c` is the parent of `c`. -/
theorem climb_succ_of_some {start : Option Int} {k : Nat} {c : Int}
    (h : s.climb start k = some c) : s.climb start (k + 1) = s.parentOf c := by
  rw [climb_add, h]
  rfl

/-- A climb that reaches a node after `k + 1` links passed its child after `k`. -/
theorem climb_succ_eq_some {start : Option Int} {k : Nat} {y : Int}
    (h : s.climb start (k + 1) = some y) : ∃ c, s.climb start k = some c ∧ s.parentOf c = some y := by
  cases hc : s.climb start k with
  | none =>
    rw [climb_add, hc, climb_none] at h
    cases h
  | some c => exact ⟨c, rfl, (climb_succ_of_some hc).symm.trans h⟩

/-- Once past a root, a climb stays there. -/
theorem climb_eq_none_of_le {start : Option Int} {i j : Nat} (h : s.climb start i = none)
    (hij : i ≤ j) : s.climb start j = none := by
  obtain ⟨d, rfl⟩ := Nat.exists_eq_add_of_le hij
  rw [climb_add, h, climb_none]

/-- The store's walk `reachesUp` asks whether the climb meets `target` within `fuel` links. -/
theorem reachesUp_iff (target : Int) (start : Option Int) (fuel : Nat) :
    s.reachesUp target start fuel = true ↔ ∃ i < fuel, s.climb start i = some target := by
  induction fuel generalizing start with
  | zero =>
    cases start <;> simp [reachesUp]
  | succ fuel ih =>
    cases start with
    | none => simp [reachesUp]
    | some x =>
      rw [reachesUp, Bool.or_eq_true, beq_iff_eq, ih]
      constructor
      · rintro (rfl | ⟨i, hi, hclimb⟩)
        · exact ⟨0, Nat.zero_lt_succ _, rfl⟩
        · exact ⟨i + 1, by omega, hclimb⟩
      · rintro ⟨i, hi, hclimb⟩
        cases i with
        | zero => exact .inl (Option.some.inj hclimb)
        | succ i => exact .inr ⟨i, by omega, hclimb⟩

/-- Only a stored node has a parent link. -/
theorem mem_of_parentOf {x y : Int} (h : s.parentOf x = some y) : x ∈ s.nodes.map (·.id) := by
  obtain ⟨n, hfind, -⟩ := Option.bind_eq_some_iff.mp h
  exact List.mem_map.mpr ⟨n, List.mem_of_find?_eq_some hfind, by simpa using List.find?_some hfind⟩

/-- A climb of one link or more starts at a stored node. -/
theorem mem_of_climb_some_succ {x y : Int} {k : Nat} (h : s.climb (some x) (k + 1) = some y) :
    x ∈ s.nodes.map (·.id) := by
  rw [climb_some_succ] at h
  cases hp : s.parentOf x with
  | none => rw [hp, climb_none] at h; cases h
  | some z => exact mem_of_parentOf hp

/-- A climb that goes on past its `k`-th place found a stored node there. -/
theorem mem_of_climb_succ {start : Option Int} {k : Nat} {y : Int}
    (h : s.climb start (k + 1) = some y) : ∃ c ∈ s.nodes.map (·.id), s.climb start k = some c := by
  obtain ⟨c, hc, hp⟩ := climb_succ_eq_some h
  exact ⟨c, mem_of_parentOf hp, hc⟩

/-! ## Climbs are short -/

/-- **A long climb over stored nodes passes one twice.** A climb whose first `t` places are stored
nodes, more places than there are nodes, is at the same node at two of them. -/
theorem climb_repeats {start : Option Int} {t : Nat} (hlong : s.nodes.length < t)
    (hstored : ∀ i < t, ∃ c ∈ s.nodes.map (·.id), s.climb start i = some c) :
    ∃ i j, i < j ∧ j < t ∧ s.climb start i = s.climb start j := by
  classical
  let place : Nat → Int := fun i => (s.climb start i).getD 0
  have hplace : ∀ i < t, s.climb start i = some (place i) ∧ place i ∈ s.nodes.map (·.id) := by
    intro i hi
    obtain ⟨c, hc, hclimb⟩ := hstored i hi
    have hpl : place i = c := by simp [place, hclimb]
    rw [hpl]
    exact ⟨hclimb, hc⟩
  have hmaps : Set.MapsTo place (Finset.range t) (s.nodes.map (·.id)).toFinset := by
    intro i hi
    exact List.mem_toFinset.mpr (hplace i (Finset.mem_range.mp hi)).2
  have hcard : (s.nodes.map (·.id)).toFinset.card < (Finset.range t).card := by
    calc (s.nodes.map (·.id)).toFinset.card ≤ (s.nodes.map (·.id)).length := List.toFinset_card_le _
      _ = s.nodes.length := List.length_map _
      _ < (Finset.range t).card := by rw [Finset.card_range]; exact hlong
  obtain ⟨i, hi, j, hj, hne, hsame⟩ := Finset.exists_ne_map_eq_of_card_lt_of_maps_to hcard hmaps
  have hi' := Finset.mem_range.mp hi
  have hj' := Finset.mem_range.mp hj
  have hclimbs : s.climb start i = s.climb start j := by
    rw [(hplace i hi').1, (hplace j hj').1, hsame]
  rcases Nat.lt_or_gt_of_ne hne with hij | hji
  · exact ⟨i, j, hij, hj', hclimbs⟩
  · exact ⟨j, i, hji, hi', hclimbs.symm⟩

/-- **A climb that meets a node meets it early.** On any store, whatever its links, cycles and
links to ids no node has included: if some number of links from `start` lead to `y`, at most as
many as there are stored nodes do. Up to its first arrival the climb passes stored nodes, and
passing one twice it could have left from the first visit and arrived sooner. -/
theorem exists_climb_le_length {start : Option Int} {y : Int} (h : ∃ k, s.climb start k = some y) :
    ∃ k ≤ s.nodes.length, s.climb start k = some y := by
  classical
  let k₀ := Nat.find h
  have hk₀ : s.climb start k₀ = some y := Nat.find_spec h
  have hmin : ∀ i < k₀, s.climb start i ≠ some y := fun i hi => Nat.find_min h hi
  refine ⟨k₀, Nat.le_of_not_lt fun hlong => ?_, hk₀⟩
  -- before its first arrival the climb goes on from every place, so each is a stored node
  have hstored : ∀ i < k₀, ∃ c ∈ s.nodes.map (·.id), s.climb start i = some c := by
    intro i hi
    cases hnext : s.climb start (i + 1) with
    | none =>
      rw [climb_eq_none_of_le hnext hi] at hk₀
      cases hk₀
    | some z => exact mem_of_climb_succ hnext
  obtain ⟨i, j, hij, hj, hsame⟩ := climb_repeats hlong hstored
  apply hmin (i + (k₀ - j)) (by omega)
  rw [climb_add, hsame, ← climb_add, Nat.add_sub_cancel' (Nat.le_of_lt hj)]
  exact hk₀

/-! ## Climbs that end are short -/

/-- A climb from a stored node visits stored nodes only, when every parent is stored. -/
theorem climb_mem (hclosed : ∀ x y, s.parentOf x = some y → y ∈ s.nodes.map (·.id)) {x : Int}
    (hx : x ∈ s.nodes.map (·.id)) {i : Nat} {y : Int} (h : s.climb (some x) i = some y) :
    y ∈ s.nodes.map (·.id) := by
  induction i generalizing x with
  | zero => exact Option.some.inj h ▸ hx
  | succ i ih =>
    rw [climb_some_succ] at h
    cases hp : s.parentOf x with
    | none => rw [hp, climb_none] at h; cases h
    | some z =>
      rw [hp] at h
      exact ih (hclosed x z hp) h

/-- **A climb that ends is short.** Ending at all, the climb from a stored node ends within as
many links as there are stored nodes, when every parent is stored: a longer climb visits some node
twice, and leaving from its first visit as from its second would have ended sooner. -/
theorem climb_length_eq_none (hclosed : ∀ x y, s.parentOf x = some y → y ∈ s.nodes.map (·.id))
    {x : Int} (hx : x ∈ s.nodes.map (·.id)) (hends : s.Ends x) :
    s.climb (some x) s.nodes.length = none := by
  classical
  let t₀ := Nat.find hends
  have hstop : s.climb (some x) t₀ = none := Nat.find_spec hends
  have hmin : ∀ i < t₀, s.climb (some x) i ≠ none := fun i hi => Nat.find_min hends hi
  refine climb_eq_none_of_le hstop (Nat.le_of_not_lt fun hlong => ?_)
  -- before it ends the climb is at stored nodes, more places than there are nodes
  have hstored : ∀ i < t₀, ∃ c ∈ s.nodes.map (·.id), s.climb (some x) i = some c := by
    intro i hi
    obtain ⟨c, hc⟩ := Option.ne_none_iff_exists'.mp (hmin i hi)
    exact ⟨c, climb_mem hclosed hx hc, hc⟩
  obtain ⟨i, j, hij, hj, hsame⟩ := climb_repeats hlong hstored
  -- leaving from the earlier visit ends `j - i` links sooner
  apply hmin (i + (t₀ - j)) (by omega)
  rw [climb_add, hsame, ← climb_add, Nat.add_sub_cancel' (Nat.le_of_lt hj)]
  exact hstop

/-- A climb that comes back to where it started goes round for ever. -/
theorem not_ends_of_climb_self {x : Int} {d : Nat} (h : s.climb (some x) (d + 1) = some x) :
    ¬ s.Ends x := by
  have hround : ∀ k, s.climb (some x) (k * (d + 1)) = some x := by
    intro k
    induction k with
    | zero => simp
    | succ k ih => rw [Nat.succ_mul, climb_add, ih, h]
  rintro ⟨t, ht⟩
  have hlate := climb_eq_none_of_le ht (Nat.le_mul_of_pos_right t (Nat.succ_pos d))
  rw [hround t] at hlate
  cases hlate

/-- A climb meets at most one of two nodes with the same parent, as long as the climb from that
parent ends: meeting both, it would climb from the first to the second and so from the parent
back to itself. Two roots have no parent at all, and a climb past one goes no further. -/
theorem climb_meets_once {start : Option Int} {i j : Nat} {a b : Int}
    (ha : s.climb start i = some a) (hb : s.climb start j = some b)
    (hsame : s.parentOf a = s.parentOf b) (hends : ∀ p, s.parentOf a = some p → s.Ends p) :
    a = b := by
  -- the later meeting is reached from the earlier one, `d` links on
  have key : ∀ {i j a b}, s.climb start i = some a → s.climb start j = some b → i ≤ j →
      s.parentOf a = s.parentOf b → (∀ p, s.parentOf a = some p → s.Ends p) → a = b := by
    intro i j a b ha hb hij hsame hends
    obtain ⟨d, rfl⟩ := Nat.exists_eq_add_of_le hij
    rw [climb_add, ha] at hb
    cases d with
    | zero => exact Option.some.inj hb
    | succ d =>
      rw [climb_some_succ] at hb
      cases hp : s.parentOf a with
      | none => rw [hp, climb_none] at hb; cases hb
      | some p =>
        rw [hp] at hb
        have hcycle : s.climb (some p) (d + 1) = some p := by
          rw [climb_succ_of_some hb, ← hsame, hp]
        exact absurd (hends p hp) (not_ends_of_climb_self hcycle)
  rcases le_total i j with hij | hji
  · exact key ha hb hij hsame hends
  · exact (key hb ha hji hsame.symm fun p hp => hends p (hsame ▸ hp)).symm

/-! ## Climbs across a change of the store -/

/-- A climb is the same in another store as long as every node it visits keeps its link there. -/
theorem climb_congr {s' : Store} {start : Option Int} {k : Nat}
    (hsame : ∀ i < k, ∀ y, s.climb start i = some y → s'.parentOf y = s.parentOf y) :
    s'.climb start k = s.climb start k := by
  induction k generalizing start with
  | zero => rfl
  | succ k ih =>
    cases start with
    | none => simp
    | some y =>
      rw [climb_some_succ, climb_some_succ, hsame 0 (Nat.zero_lt_succ _) y rfl]
      exact ih fun i hi z hz => hsame (i + 1) (by omega) z hz

end Store

end Arbor
