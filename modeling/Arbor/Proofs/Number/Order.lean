import Arbor.Proofs.Number.Basic
import Mathlib.Algebra.Order.Field.Basic
import Mathlib.Order.WithBot
import Mathlib.Data.Rat.Cast.Order

set_option autoImplicit false

/-! # Comparisons are the order of values

`Num.compare?` compares two numbers exactly: the exact views `u / 2 ^ i` and `v / 2 ^ j` are
compared by cross-multiplying, an infinity lies beyond every finite value, and a float that is
not a number compares with nothing. Every other number has a value on the rational line closed
by a least and a greatest point (`Num.value?`), and `compare?` is the comparison of those values
(`Num.compare?_eq_some`).

A comparison of two numbers that holds therefore holds of their values (`Json.relate_true`), so
comparisons that hold chain like the order they come from: a reading at or after one that has
passed an expiry has passed it too (`Json.relate_ge_of_le`), and then it is not before it
(`Json.relate_lt_of_ge`).
-/

namespace Arbor

/-- The rationals closed by a least and a greatest point: the values of numbers. -/
abbrev Extended := WithBot (WithTop ℚ)

/-- The value of an exact view; none for a float that is not a number. -/
def Num.Exact.value? : Num.Exact → Option Extended
  | .finite u i => some (((u / 2 ^ i : ℚ) : WithTop ℚ) : Extended)
  | .infinite true => some ⊥
  | .infinite false => some ((⊤ : WithTop ℚ) : Extended)
  | .nan => none

/-- The value of a number; none for a float that is not a number. -/
def Num.value? (n : Num) : Option Extended := n.exact.value?

/-! ## The comparison of values -/

section Holds

variable {α : Type} [LinearOrder α] (x y : α)

@[simp] theorem Relation.holds_lt_compare : Relation.lt.holds (compare x y) = decide (x < y) := by
  rw [Bool.eq_iff_iff]
  simpa [Relation.holds] using compare_lt_iff_lt

@[simp] theorem Relation.holds_le_compare : Relation.le.holds (compare x y) = decide (x ≤ y) := by
  rw [Bool.eq_iff_iff]
  simp [Relation.holds, compare_gt_iff_gt]

@[simp] theorem Relation.holds_gt_compare : Relation.gt.holds (compare x y) = decide (y < x) := by
  rw [Bool.eq_iff_iff]
  simpa [Relation.holds] using compare_gt_iff_gt

@[simp] theorem Relation.holds_ge_compare : Relation.ge.holds (compare x y) = decide (y ≤ x) := by
  rw [Bool.eq_iff_iff]
  simp [Relation.holds, compare_lt_iff_lt]

end Holds

/-- Cross-multiplying compares two exact views as their quotients compare. -/
theorem Num.compare_finite (u v : Int) (i j : Nat) :
    compare (u * 2 ^ j) (v * 2 ^ i) = compare (((u / 2 ^ i : ℚ) : WithTop ℚ) : Extended)
      (((v / 2 ^ j : ℚ) : WithTop ℚ) : Extended) := by
  have hi : (0 : ℚ) < 2 ^ i := pow_pos two_pos i
  have hj : (0 : ℚ) < 2 ^ j := pow_pos two_pos j
  have hlt : (u / 2 ^ i : ℚ) < v / 2 ^ j ↔ u * 2 ^ j < v * 2 ^ i := by
    rw [div_lt_div_iff₀ hi hj]
    exact_mod_cast Iff.rfl
  have heq : (u / 2 ^ i : ℚ) = v / 2 ^ j ↔ u * 2 ^ j = v * 2 ^ i := by
    rw [div_eq_div_iff hi.ne' hj.ne']
    exact_mod_cast Iff.rfl
  rcases lt_trichotomy (u * 2 ^ j) (v * 2 ^ i) with h | h | h
  · rw [Int.compare_eq_lt.mpr h, eq_comm, compare_lt_iff_lt]
    exact WithBot.coe_lt_coe.mpr (WithTop.coe_lt_coe.mpr (hlt.mpr h))
  · rw [Int.compare_eq_eq.mpr h, eq_comm, compare_eq_iff_eq, heq.mpr h]
  · have hlt' : (v / 2 ^ j : ℚ) < u / 2 ^ i := by
      rw [div_lt_div_iff₀ hj hi]
      exact_mod_cast h
    rw [Int.compare_eq_gt.mpr h, eq_comm, compare_gt_iff_gt]
    exact WithBot.coe_lt_coe.mpr (WithTop.coe_lt_coe.mpr hlt')

/-- **The exact comparison is the order of values.** Two numbers that are not NaN compare as
their values do. -/
theorem Num.compare?_eq_some {a b : Num} {x y : Extended} (ha : a.value? = some x)
    (hb : b.value? = some y) : a.compare? b = some (compare x y) := by
  unfold value? at ha hb
  unfold compare?
  generalize a.exact = ea at ha ⊢
  generalize b.exact = eb at hb ⊢
  -- each pair of views: the finite ones by `compare_finite`, the others by where the
  -- infinities lie
  cases ea with
  | nan => cases ha
  | finite u i =>
    cases eb with
    | nan => cases hb
    | finite v j =>
      cases ha; cases hb
      exact congrArg some (compare_finite u v i j)
    | infinite neg =>
      cases ha
      cases neg <;> cases hb
      · rw [compare_lt_iff_lt.mpr (WithBot.coe_lt_coe.mpr (WithTop.coe_lt_top _))]; rfl
      · rw [compare_gt_iff_gt.mpr (WithBot.bot_lt_coe _)]; rfl
  | infinite neg =>
    cases eb with
    | nan => cases hb
    | finite v j =>
      cases hb
      cases neg <;> cases ha
      · rw [compare_gt_iff_gt.mpr (WithBot.coe_lt_coe.mpr (WithTop.coe_lt_top _))]; rfl
      · rw [compare_lt_iff_lt.mpr (WithBot.bot_lt_coe _)]; rfl
    | infinite neg' =>
      cases neg <;> cases neg' <;> cases ha <;> cases hb
      · rw [compare_eq_iff_eq.mpr rfl]; rfl
      · rw [compare_gt_iff_gt.mpr (WithBot.bot_lt_coe _)]; rfl
      · rw [compare_lt_iff_lt.mpr (WithBot.bot_lt_coe _)]; rfl
      · rw [compare_eq_iff_eq.mpr rfl]; rfl

theorem Num.Exact.value?_eq_none {e : Num.Exact} : e.value? = none ↔ e = .nan := by
  cases e with
  | infinite neg => cases neg <;> simp [value?]
  | _ => simp [value?]

/-- A float that is not a number compares with nothing. -/
theorem Num.compare?_eq_none {a b : Num} (h : a.value? = none ∨ b.value? = none) :
    a.compare? b = none := by
  unfold value? at h
  unfold compare?
  rcases h with h | h <;> rw [Exact.value?_eq_none.mp h]
  cases a.exact <;> rfl

/-- A comparison that answers is the comparison of two values. -/
theorem Num.exists_value_of_compare? {a b : Num} {o : Ordering} (h : a.compare? b = some o) :
    ∃ x y, a.value? = some x ∧ b.value? = some y ∧ o = compare x y := by
  cases ha : a.value? with
  | none => simp [compare?_eq_none (.inl ha)] at h
  | some x =>
    cases hb : b.value? with
    | none => simp [compare?_eq_none (.inr hb)] at h
    | some y =>
      rw [compare?_eq_some ha hb] at h
      exact ⟨x, y, rfl, rfl, (Option.some.inj h).symm⟩

/-! ## Comparisons of values that hold -/

namespace Json

variable {r : Relation} {a b : Json} {x y : Num}

/-- A comparison of two numbers that holds is one between their values. -/
theorem relate_true (ha : Num.ofJson? a = some x) (hb : Num.ofJson? b = some y)
    (h : relate r a b = .ok true) :
    ∃ vx vy, x.value? = some vx ∧ y.value? = some vy ∧ r.holds (compare vx vy) = true := by
  rw [relate_of_num ha hb] at h
  cases hc : x.compare? y with
  | none => simp [hc] at h
  | some o =>
    obtain ⟨vx, vy, hx, hy, rfl⟩ := Num.exists_value_of_compare? hc
    simp only [hc, Option.map_some, Option.getD_some, Except.ok.injEq] at h
    exact ⟨vx, vy, hx, hy, h⟩

/-- A reading at or after one that has passed an expiry has passed it too. -/
theorem relate_ge_of_le {l t e : Json} {xl xt xe : Num} (hl : Num.ofJson? l = some xl)
    (ht : Num.ofJson? t = some xt) (he : Num.ofJson? e = some xe)
    (hpast : relate .ge l e = .ok true) (hlater : relate .le l t = .ok true) :
    relate .ge t e = .ok true := by
  obtain ⟨vl, ve, hvl, hve, hel⟩ := relate_true hl he hpast
  obtain ⟨vl', vt, hvl', hvt, hlt⟩ := relate_true hl ht hlater
  have hsame : vl' = vl := Option.some.inj (hvl'.symm.trans hvl)
  subst hsame
  rw [relate_of_num ht he, Num.compare?_eq_some hvt hve]
  simp only [Relation.holds_ge_compare, Relation.holds_le_compare, decide_eq_true_eq] at hel hlt
  simpa using hel.trans hlt

/-- A reading that has passed an expiry is not before it. -/
theorem relate_lt_of_ge (ha : Num.ofJson? a = some x) (hb : Num.ofJson? b = some y)
    (h : relate .ge a b = .ok true) : relate .lt a b = .ok false := by
  obtain ⟨vx, vy, hx, hy, hge⟩ := relate_true ha hb h
  rw [relate_of_num ha hb, Num.compare?_eq_some hx hy]
  simp only [Relation.holds_ge_compare, decide_eq_true_eq] at hge
  simpa using hge

end Json

end Arbor
