import Arbor.Forest.Build
import Mathlib.Data.List.Dedup
import Mathlib.Logic.Function.Iterate

set_option autoImplicit false

/-! # The cycle walk stops and decides reachability

`Forest.closesCycle` asks whether the links of a page, followed up from a row's parent, come back
to the row. Its walk (`Forest.walkUp`) keeps the ids it has met. It stops with `true` at the row's
id, and with `false` past the last link or at an id it has met before.

Stopping at a repeated id loses nothing. The ids met so far are never the target, and from each
of them one link leads to the current id or back among them (`WalkInv`); back at one of them, the
links never leave them again (`WalkInv.not_meets`). So a walk that stops answers reachability:
`true` exactly when some number of links from the start meets the target (`walkUp_true_iff`).

The walk stops in time. A step that neither stops nor ends past the last link leaves an id that
has a link and that was not met before; so with `d` ids carrying links, `d + 1` steps are enough
(`walkUp_isSome`), and more steps change nothing (`walkUp_mono`). The builder gives the walk one
step per row and one more, at least as many (`cycle_walk_stops_and_decides_reachability`).

A walk without memory over as many links (`Forest.reaches`) gives the same answer
(`closesCycle_eq_reaches`): the proofs about whole pages reason about that form.
-/

namespace Arbor

namespace Forest

section Reaches

variable {κ : Type}

/-- Following `up` from `start` meets an id that is `same` as `target` within `fuel` links,
`start` itself counting as met. -/
def reaches (same : κ → κ → Bool) (up : κ → Option κ) (target : κ) : Option κ → Nat → Bool
  | none, _ => false
  | some _, 0 => false
  | some c, fuel + 1 => same c target || reaches same up target (up c) fuel

end Reaches

section Walk

variable {κ : Type} {same : κ → κ → Bool} {up : κ → Option κ} {target : κ}

/-- Some number of links up `up` from `start` lead to an id `same` as `target`. -/
def Meets (same : κ → κ → Bool) (up : κ → Option κ) (target : κ) (start : Option κ) : Prop :=
  ∃ k d, (fun o : Option κ => o.bind up)^[k] start = some d ∧ same d target = true

@[simp] theorem iterate_bind_none (k : Nat) : (fun o : Option κ => o.bind up)^[k] none = none := by
  induction k with
  | zero => rfl
  | succ k ih => exact ih

theorem iterate_bind_succ (c : κ) (k : Nat) :
    (fun o : Option κ => o.bind up)^[k + 1] (some c) = (fun o : Option κ => o.bind up)^[k] (up c) :=
  rfl

theorem not_meets_none : ¬ Meets same up target none := by
  rintro ⟨k, d, hk, -⟩
  rw [iterate_bind_none] at hk
  cases hk

/-- A walk from `c` meets the target at `c` itself or after the first link. -/
theorem meets_some_iff (c : κ) :
    Meets same up target (some c) ↔ same c target = true ∨ Meets same up target (up c) := by
  constructor
  · rintro ⟨k, d, hk, hd⟩
    cases k with
    | zero =>
      cases hk
      exact .inl hd
    | succ k => exact .inr ⟨k, d, hk, hd⟩
  · rintro (hc | ⟨k, d, hk, hd⟩)
    · exact ⟨0, c, rfl, hc⟩
    · exact ⟨k + 1, d, hk, hd⟩

/-- The walk without memory meets the target only where some number of links does. -/
theorem meets_of_reaches {current : Option κ} {fuel : Nat}
    (h : reaches same up target current fuel = true) : Meets same up target current := by
  induction fuel generalizing current with
  | zero => cases current <;> cases h
  | succ fuel ih =>
    cases current with
    | none => cases h
    | some c =>
      rw [reaches, Bool.or_eq_true] at h
      exact (meets_some_iff c).mpr (h.imp id ih)

/-! ## What the walk knows -/

/-- What the walk knows standing at `current`, with the ids `seen` met: none of them is `same` as
the target, and from each of them one link leads to `current` or back among them. -/
structure WalkInv (same : κ → κ → Bool) (up : κ → Option κ) (target : κ) (seen : List κ)
    (current : Option κ) : Prop where
  missed : ∀ x ∈ seen, same x target = false
  closed : ∀ x ∈ seen, up x = current ∨ ∃ y ∈ seen, up x = some y

theorem WalkInv.nil (current : Option κ) : WalkInv same up target [] current :=
  ⟨fun _ hx => absurd hx List.not_mem_nil, fun _ hx => absurd hx List.not_mem_nil⟩

/-- A step past an id that is not the target keeps what the walk knows. -/
theorem WalkInv.step {seen : List κ} {c : κ} (h : WalkInv same up target seen (some c))
    (hc : same c target = false) : WalkInv same up target (c :: seen) (up c) where
  missed x hx := by
    rcases List.mem_cons.mp hx with rfl | hx
    · exact hc
    · exact h.missed x hx
  closed x hx := by
    rcases List.mem_cons.mp hx with rfl | hx
    · exact .inl rfl
    · rcases h.closed x hx with hup | ⟨y, hy, hup⟩
      · exact .inr ⟨c, List.mem_cons_self, hup⟩
      · exact .inr ⟨y, List.mem_cons_of_mem _ hy, hup⟩

/-- **Back at an id met before, there is nothing left to find.** Every link from a met id then
leads to a met id, so no number of links from one of them meets the target. -/
theorem WalkInv.not_meets {seen : List κ} {c : κ} (h : WalkInv same up target seen (some c))
    (hc : c ∈ seen) : ¬ Meets same up target (some c) := by
  have hstay : ∀ x ∈ seen, ∃ y ∈ seen, up x = some y := fun x hx =>
    (h.closed x hx).elim (fun hup => ⟨c, hc, hup⟩) id
  -- the induction is on the number of links, from any met id
  have hiter : ∀ k, ∀ x ∈ seen, ∃ y ∈ seen,
      (fun o : Option κ => o.bind up)^[k] (some x) = some y := by
    intro k
    induction k with
    | zero => exact fun x hx => ⟨x, hx, rfl⟩
    | succ k ih =>
      intro x hx
      obtain ⟨y, hy, hup⟩ := hstay x hx
      rw [iterate_bind_succ, hup]
      exact ih y hy
  rintro ⟨k, d, hk, hd⟩
  obtain ⟨y, hy, hky⟩ := hiter k c hc
  rw [hk] at hky
  cases hky
  rw [h.missed d hy] at hd
  cases hd

variable [BEq κ]

/-! ## One step of the walk -/

@[simp] theorem walkUp_none (seen : List κ) (fuel : Nat) :
    walkUp same up target seen none fuel = some false := by
  cases fuel <;> rfl

@[simp] theorem walkUp_some_zero (seen : List κ) (c : κ) :
    walkUp same up target seen (some c) 0 = none := rfl

theorem walkUp_some_succ (seen : List κ) (c : κ) (fuel : Nat) :
    walkUp same up target seen (some c) (fuel + 1) =
      if same c target then some true
      else if seen.contains c then some false
      else walkUp same up target (c :: seen) (up c) fuel := rfl

/-- More steps do not change an answer the walk has given. -/
theorem walkUp_mono {seen : List κ} {current : Option κ} {fuel fuel' : Nat} {b : Bool}
    (h : walkUp same up target seen current fuel = some b) (hle : fuel ≤ fuel') :
    walkUp same up target seen current fuel' = some b := by
  induction fuel generalizing seen current fuel' with
  | zero =>
    cases current with
    | none => rwa [walkUp_none] at h ⊢
    | some c => cases h
  | succ fuel ih =>
    obtain ⟨fuel', rfl⟩ : ∃ f, fuel' = f + 1 := ⟨fuel' - 1, by omega⟩
    cases current with
    | none => rwa [walkUp_none] at h ⊢
    | some c =>
      rw [walkUp_some_succ] at h ⊢
      by_cases hc : same c target = true
      · rwa [if_pos hc] at h ⊢
      · by_cases hseen : seen.contains c = true
        · rwa [if_neg hc, if_pos hseen] at h ⊢
        · rw [if_neg hc, if_neg hseen] at h ⊢
          exact ih h (by omega)

/-- A walk that answers `true` within `fuel` steps meets the target within as many links of the
walk without memory: both check the same ids in the same order. -/
theorem reaches_of_walkUp {seen : List κ} {current : Option κ} {fuel : Nat}
    (h : walkUp same up target seen current fuel = some true) :
    reaches same up target current fuel = true := by
  induction fuel generalizing seen current with
  | zero =>
    cases current with
    | none => rw [walkUp_none] at h; cases h
    | some c => cases h
  | succ fuel ih =>
    cases current with
    | none => rw [walkUp_none] at h; cases h
    | some c =>
      rw [walkUp_some_succ] at h
      rw [reaches, Bool.or_eq_true]
      by_cases hc : same c target = true
      · exact .inl hc
      · by_cases hseen : seen.contains c = true
        · rw [if_neg hc, if_pos hseen] at h
          cases h
        · rw [if_neg hc, if_neg hseen] at h
          exact .inr (ih h)

variable [LawfulBEq κ]

/-- **The walk answers reachability.** From a state the walk knows, a walk that stops answers
`true` exactly when some number of links from `current` meets the target. The induction follows
the walk one step at a time. -/
theorem walkUp_true_iff {seen : List κ} {current : Option κ} {fuel : Nat} {b : Bool}
    (hinv : WalkInv same up target seen current)
    (h : walkUp same up target seen current fuel = some b) :
    b = true ↔ Meets same up target current := by
  induction fuel generalizing seen current with
  | zero =>
    cases current with
    | none =>
      rw [walkUp_none] at h
      cases h
      simpa using not_meets_none
    | some c => cases h
  | succ fuel ih =>
    cases current with
    | none =>
      rw [walkUp_none] at h
      cases h
      simpa using not_meets_none
    | some c =>
      rw [walkUp_some_succ] at h
      by_cases hc : same c target = true
      · rw [if_pos hc] at h
        cases h
        exact ⟨fun _ => (meets_some_iff c).mpr (.inl hc), fun _ => rfl⟩
      · have hc' : same c target = false := by simpa using hc
        by_cases hseen : seen.contains c = true
        · -- an id met before: the walk stops with `false`, and rightly so
          rw [if_neg hc, if_pos hseen] at h
          cases h
          simpa using hinv.not_meets (List.contains_iff_mem.mp hseen)
        · rw [if_neg hc, if_neg hseen] at h
          rw [ih (hinv.step hc') h, meets_some_iff, hc']
          simp

/-! ## The walk stops in time -/

/-- Meeting an id of `dom` not met before leaves fewer of them unmet. -/
theorem length_unmet_lt {dom seen : List κ} {c : κ} (hc : c ∈ dom) (hnew : c ∉ seen) :
    (dom.filter fun x => !(c :: seen).contains x).length <
      (dom.filter fun x => !seen.contains x).length := by
  have hsplit : (dom.filter fun x => !(c :: seen).contains x) =
      (dom.filter fun x => !seen.contains x).filter fun x => !(x == c) := by
    rw [List.filter_filter]
    refine List.filter_congr fun x _ => ?_
    rw [List.contains_cons, Bool.not_or]
  rw [hsplit, List.length_filter_lt_length_iff_exists]
  refine ⟨c, List.mem_filter.mpr ⟨hc, ?_⟩, by simp⟩
  simpa [List.contains_iff_mem] using hnew

/-- **The walk stops in time.** When every link starts at an id of `dom`, a walk given more steps
than there are ids of `dom` not yet met stops. A step that goes on past an id meets it for the
first time, and unless the walk then ends past the last link, that id has a link and so is one
of `dom`'s. -/
theorem walkUp_isSome {dom : List κ} (hdom : ∀ x y, up x = some y → x ∈ dom)
    {seen : List κ} {current : Option κ} {fuel : Nat}
    (hfuel : (dom.filter fun x => !seen.contains x).length < fuel) :
    (walkUp same up target seen current fuel).isSome := by
  induction fuel generalizing seen current with
  | zero => omega
  | succ fuel ih =>
    cases current with
    | none => rw [walkUp_none]; rfl
    | some c =>
      rw [walkUp_some_succ]
      by_cases hc : same c target = true
      · rw [if_pos hc]; rfl
      · by_cases hseen : seen.contains c = true
        · rw [if_neg hc, if_pos hseen]; rfl
        · rw [if_neg hc, if_neg hseen]
          cases hup : up c with
          | none => rw [walkUp_none]; rfl
          | some y =>
            have hnew : c ∉ seen := fun hmem => hseen (List.contains_iff_mem.mpr hmem)
            exact ih (Nat.lt_of_lt_of_le (length_unmet_lt (hdom c y hup) hnew) (by omega))

end Walk

/-! ## The walk of the cycle guard -/

section Guard

variable {κ : Type} [BEq κ] [LawfulBEq κ]

/-- A link of the table starts at one of its ids. -/
theorem mem_of_linkIn {table : List (κ × Option κ)} {broken : List κ} {x y : κ}
    (h : linkIn table broken x = some y) : x ∈ table.map Prod.fst := by
  unfold linkIn at h
  cases hb : broken.contains x
  · rw [hb] at h
    simp only [Bool.false_eq_true, ↓reduceIte] at h
    induction table with
    | nil => cases h
    | cons e table ih =>
      obtain ⟨k, v⟩ := e
      rw [List.lookup_cons] at h
      cases hk : x == k
      · rw [hk] at h
        exact List.mem_cons_of_mem _ (ih h)
      · simp [beq_iff_eq.mp hk]
  · rw [hb] at h
    cases h

/-- The walk of the cycle guard stops within the steps it is given, one per row and one more. -/
theorem walkUp_closesCycle_isSome (same : κ → κ → Bool) (table : List (κ × Option κ))
    (broken : List κ) (id parent : κ) :
    (walkUp same (linkIn table broken) id [] (some parent) (table.length + 1)).isSome := by
  refine walkUp_isSome (fun x y h => mem_of_linkIn h) ?_
  simp

/-- The cycle guard fires exactly when some number of links from the parent meets the row. -/
theorem closesCycle_iff (same : κ → κ → Bool) (table : List (κ × Option κ)) (broken : List κ)
    (id parent : κ) :
    closesCycle same table broken id parent = true ↔
      Meets same (linkIn table broken) id (some parent) := by
  obtain ⟨b, hb⟩ := Option.isSome_iff_exists.mp
    (walkUp_closesCycle_isSome same table broken id parent)
  rw [closesCycle, hb, Option.getD_some]
  exact walkUp_true_iff (WalkInv.nil _) hb

/-- The cycle guard answers as the walk without memory over one link per row and one more. -/
theorem closesCycle_eq_reaches (same : κ → κ → Bool) (table : List (κ × Option κ))
    (broken : List κ) (id parent : κ) :
    closesCycle same table broken id parent =
      reaches same (linkIn table broken) id (some parent) (table.length + 1) := by
  obtain ⟨b, hb⟩ := Option.isSome_iff_exists.mp
    (walkUp_closesCycle_isSome same table broken id parent)
  rw [closesCycle, hb, Option.getD_some]
  cases b with
  | true => exact (reaches_of_walkUp hb).symm
  | false =>
    -- a walk without memory that met the row would make the guard's answer `true`
    refine (Bool.eq_false_iff.mpr fun hreach => ?_).symm
    have := (walkUp_true_iff (WalkInv.nil _) hb).mpr (meets_of_reaches hreach)
    cases this

end Guard

/-- **The cycle walk stops and decides reachability.** For every table of links and every set of
dropped links, that is for every finite map `ep` from ids to optional ids, and all ids `n` and `p`:
the walk from `p` stops within one step more than there are ids in the map, with the cycle
guard's answer; and that answer is `true` exactly when `n` is some number of links `ep` above
`p`. -/
theorem cycle_walk_stops_and_decides_reachability {κ : Type} [DecidableEq κ]
    (table : List (κ × Option κ)) (broken : List κ) (n p : κ) :
    walkUp (· == ·) (linkIn table broken) n [] (some p) ((table.map Prod.fst).dedup.length + 1) =
        some (closesCycle (· == ·) table broken n p) ∧
      (closesCycle (· == ·) table broken n p = true ↔
        ∃ k, (fun o => o.bind (linkIn table broken))^[k] (some p) = some n) := by
  have hdom : ∀ x y, linkIn table broken x = some y → x ∈ (table.map Prod.fst).dedup :=
    fun x y h => List.mem_dedup.mpr (mem_of_linkIn h)
  have hstop : (walkUp (· == ·) (linkIn table broken) n [] (some p)
      ((table.map Prod.fst).dedup.length + 1)).isSome := walkUp_isSome hdom (by simp)
  obtain ⟨b, hb⟩ := Option.isSome_iff_exists.mp hstop
  -- the guard's walk has at least as many steps, one per row and one more
  have hlen : (table.map Prod.fst).dedup.length + 1 ≤ table.length + 1 := by
    have := (List.dedup_sublist (table.map Prod.fst)).length_le
    rw [List.length_map] at this
    omega
  have hguard : closesCycle (· == ·) table broken n p = b := by
    rw [closesCycle, walkUp_mono hb hlen, Option.getD_some]
  refine ⟨by rw [hb, hguard], ?_⟩
  rw [closesCycle_iff]
  constructor
  · rintro ⟨k, d, hk, hd⟩
    exact ⟨k, beq_iff_eq.mp hd ▸ hk⟩
  · rintro ⟨k, hk⟩
    exact ⟨k, n, hk, beq_self_eq_true n⟩

end Forest

end Arbor
