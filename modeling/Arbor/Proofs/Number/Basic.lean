import Arbor.Number

set_option autoImplicit false

/-! # Sums and comparisons of numbers

The service adds and compares values of any kind (`Json.add`, `Json.relate`). On numbers —
integers, floats and truth values — both reduce to the arithmetic of `Num`: a comparison always
answers, and a sum answers unless an integer too large for a float meets a float.

`Json.FloatLike` names the numbers a float can hold. The clock readings and time-to-live settings
of the caches are such numbers, and two of them always add up to a number (`FloatLike.add`).
-/

namespace Arbor

/-- A bind of `Except` that succeeded: so did the computation it started from. -/
theorem bind_eq_ok {ε α β : Type} {x : Except ε α} {f : α → Except ε β} {b : β}
    (h : (x >>= f) = .ok b) : ∃ a, x = .ok a ∧ f a = .ok b := by
  cases x with
  | error e => cases h
  | ok a => exact ⟨a, rfl, h⟩

/-- A value that a float can hold: a float, or an integer or a truth value no larger than the
largest float. -/
def Json.FloatLike (v : Json) : Prop :=
  ∃ n, Num.ofJson? v = some n ∧ ∃ x, n.toFloat = .ok x

theorem Json.floatLike_float (x : Float) : (Json.float x).FloatLike :=
  ⟨.float x, rfl, x, rfl⟩

@[simp] theorem Num.ofJson?_toJson (n : Num) : Num.ofJson? n.toJson = some n := by
  cases n <;> rfl

@[simp] theorem Num.compare?_int (a b : Int) :
    (Num.int a).compare? (.int b) = some (compare a b) := by
  simp [Num.compare?, Num.exact]

/-! ## Comparisons -/

@[simp] theorem Relation.holds_lt_int (a b : Int) :
    Relation.lt.holds (compare a b) = decide (a < b) := by
  rw [Bool.eq_iff_iff]
  simpa [Relation.holds] using Int.compare_eq_lt

@[simp] theorem Relation.holds_gt_int (a b : Int) :
    Relation.gt.holds (compare a b) = decide (b < a) := by
  rw [Bool.eq_iff_iff]
  simpa [Relation.holds] using Int.compare_eq_gt

@[simp] theorem Relation.holds_ge_int (a b : Int) :
    Relation.ge.holds (compare a b) = decide (b ≤ a) := by
  rw [Bool.eq_iff_iff]
  simp [Relation.holds, Int.compare_eq_lt]

@[simp] theorem Relation.holds_le_int (a b : Int) :
    Relation.le.holds (compare a b) = decide (a ≤ b) := by
  rw [Bool.eq_iff_iff]
  simp [Relation.holds, Int.compare_eq_gt]

namespace Json

/-- Two numbers always compare, by the exact comparison of `Num`. -/
theorem relate_of_num {r : Relation} {a b : Json} {x y : Num} (ha : Num.ofJson? a = some x)
    (hb : Num.ofJson? b = some y) :
    relate r a b = .ok (((x.compare? y).map r.holds).getD false) := by
  cases a <;> cases b <;> simp_all [Num.ofJson?, relate]

theorem relate_int (r : Relation) (a b : Int) :
    relate r (.int a) (.int b) = .ok (r.holds (compare a b)) := by
  rw [relate_of_num rfl rfl]
  simp

theorem add_of_num {a b : Json} {x y : Num} (ha : Num.ofJson? a = some x)
    (hb : Num.ofJson? b = some y) : add a b = (x.add y).map Num.toJson := by
  cases a <;> cases b <;> simp_all [Num.ofJson?, add, arith, Arith.apply]

end Json

/-! ## Sums -/

/-- Two numbers that floats can hold add up: exactly as integers, or as floats. -/
theorem Num.add_ok {x y : Num} {fx fy : Float} (hx : x.toFloat = .ok fx)
    (hy : y.toFloat = .ok fy) : ∃ n, x.add y = .ok n := by
  cases x with
  | int a =>
    cases y with
    | int b => exact ⟨_, rfl⟩
    | float b =>
      simp only [Num.toFloat] at hx
      exact ⟨.float (fx + b), by simp only [Num.add, hx]; rfl⟩
  | float a =>
    cases y with
    | int b =>
      simp only [Num.toFloat] at hy
      exact ⟨.float (a + fy), by simp only [Num.add, hy]; rfl⟩
    | float b => exact ⟨_, rfl⟩

/-- Two values a float can hold add up to a number. -/
theorem Json.FloatLike.add {a b : Json} (ha : a.FloatLike) (hb : b.FloatLike) :
    ∃ n, Json.add a b = .ok (Num.toJson n) := by
  obtain ⟨x, hx, fx, hfx⟩ := ha
  obtain ⟨y, hy, fy, hfy⟩ := hb
  obtain ⟨n, hn⟩ := Num.add_ok hfx hfy
  exact ⟨n, by rw [Json.add_of_num hx hy, hn]; rfl⟩

end Arbor
