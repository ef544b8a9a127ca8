import Arbor.Proofs.Decimal.Bits
import Mathlib.Data.Nat.Cast.Field

set_option autoImplicit false

/-! # Quotients rounded to binary64, and their ceiling

`Decimal.nearestRatio num den` rounds the exact ratio `num / den` to the nearest binary64 value.
It finds the binary exponent `e` of the ratio (`floorLog2Ratio_spec`), scales the ratio by
`2 ^ -q` so that 53 bits lie above the point (fewer for a subnormal result, `q = -1074`), and
rounds that to an integer within a half (`roundDiv_near`).

Rounding could move a quotient across an integer, and then its ceiling would change. For `n / s`
with `n ≤ 2 ^ 53` it does not (`ceil_nearestRatio`): the quotient lies at least `1 / s` above the
integer below it, and for a normal result half a unit in the last place is at most
`n / (s · 2 ^ 53) ≤ 1 / s`, equality only where `n / s` is itself an integer. A subnormal result
keeps the ceiling exactly when `n / s` is above half the least subnormal value, `2 ^ -1075`.
-/

namespace Arbor

namespace Decimal

/-! ## Rounding a quotient to an integer -/

section RoundDiv

variable {b : Nat} (t : Tie)

/-- The rounded quotient lies within a half of the exact one. -/
theorem roundDiv_near (a : Nat) (hb : 0 < b) :
    2 * a ≤ 2 * (roundDiv a b t * b) + b ∧ 2 * (roundDiv a b t * b) ≤ 2 * a + b := by
  have hdm := Nat.div_add_mod a b
  have hlt := Nat.mod_lt a hb
  rw [Nat.mul_comm] at hdm
  unfold roundDiv
  dsimp only
  split
  · omega
  · split
    · rw [Nat.add_mul]
      omega
    · -- exactly halfway: either neighbour is half away
      cases t with
      | toEven =>
        dsimp only
        rcases Nat.mod_two_eq_zero_or_one (a / b) with h | h
        · rw [h, Nat.add_zero]
          omega
        · rw [h, Nat.add_mul]
          omega
      | awayFromZero =>
        dsimp only
        rw [Nat.add_mul]
        omega

theorem roundDiv_le_of_le {a : Nat} (hb : 0 < b) {K : Nat} (h : a ≤ K * b) : roundDiv a b t ≤ K := by
  have hnear := (roundDiv_near t a hb).2
  have hlt : roundDiv a b t * b < (K + 1) * b := by
    rw [Nat.add_mul, Nat.one_mul]
    omega
  exact Nat.lt_succ_iff.mp (Nat.lt_of_mul_lt_mul_right hlt)

theorem le_roundDiv_of_le {a : Nat} (hb : 0 < b) {K : Nat} (h : K * b ≤ a) : K ≤ roundDiv a b t := by
  have hnear := (roundDiv_near t a hb).1
  have hlt : K * b < (roundDiv a b t + 1) * b := by
    rw [Nat.add_mul, Nat.one_mul]
    omega
  exact Nat.lt_succ_iff.mp (Nat.lt_of_mul_lt_mul_right hlt)

theorem lt_roundDiv_of_lt {a : Nat} (hb : 0 < b) {K : Nat} (h : (2 * K + 1) * b < 2 * a) :
    K < roundDiv a b t := by
  have hnear := (roundDiv_near t a hb).1
  have hlt : K * b < roundDiv a b t * b := by
    rw [Nat.add_mul, Nat.one_mul, Nat.mul_assoc] at h
    omega
  exact Nat.lt_of_mul_lt_mul_right hlt

/-- An exact quotient is not rounded. -/
theorem roundDiv_mul (hb : 0 < b) (K : Nat) : roundDiv (K * b) b t = K :=
  Nat.le_antisymm (roundDiv_le_of_le t hb (le_refl _)) (le_roundDiv_of_le t hb (le_refl _))

/-- A quotient of at most a half rounds to zero when ties go to the even neighbour. -/
theorem roundDiv_toEven_eq_zero {a : Nat} (hb : 0 < b) (h : 2 * a ≤ b) :
    roundDiv a b .toEven = 0 := by
  have hab : a < b := by omega
  unfold roundDiv
  dsimp only
  rw [Nat.div_eq_of_lt hab, Nat.mod_eq_of_lt hab]
  split
  · rfl
  · split
    · omega
    · rfl

end RoundDiv

/-! ## The binary exponent of a ratio -/

/-- `leScaled` compares `a · 2 ^ i` with `b · 2 ^ j` exactly. -/
theorem leScaled_iff (a : Nat) (i : Int) (b : Nat) (j : Int) :
    leScaled a i b j = true ↔ (a : ℚ) * 2 ^ i ≤ b * 2 ^ j := by
  have hpos : (0 : ℚ) < 2 ^ (j - i).toNat := by positivity
  have hj : (0 : ℚ) < 2 ^ j := zpow_pos two_pos j
  have hscale : (2 : ℚ) ^ (i - j).toNat / 2 ^ (j - i).toNat = 2 ^ i / 2 ^ j := by
    have h := two_zpow_eq_div (i - j)
    rw [neg_sub] at h
    rw [← h, zpow_sub₀ two_ne_zero]
  rw [leScaled, decide_eq_true_iff, ← Nat.cast_le (α := ℚ), Nat.cast_mul, Nat.cast_mul,
    Nat.cast_pow, Nat.cast_pow, Nat.cast_ofNat, ← div_le_iff₀ hpos,
    mul_div_assoc, hscale, mul_div_assoc', div_le_iff₀ hj]

/-- The binary exponent `e` of a positive ratio: `2 ^ e ≤ a / b < 2 ^ (e + 1)`, both sides
multiplied by `b`. The estimate from the bit lengths is at most one above it. -/
theorem floorLog2Ratio_spec {a b : Nat} (ha : 0 < a) (hb : 0 < b) :
    (b : ℚ) * 2 ^ floorLog2Ratio a b ≤ a ∧ (a : ℚ) < b * 2 ^ (floorLog2Ratio a b + 1) := by
  have ha₁ : ((2 ^ a.log2 : ℕ) : ℚ) ≤ a := by exact_mod_cast Nat.log2_self_le ha.ne'
  have ha₂ : (a : ℚ) < (2 ^ (a.log2 + 1) : ℕ) := by exact_mod_cast Nat.lt_log2_self
  have hb₁ : ((2 ^ b.log2 : ℕ) : ℚ) ≤ b := by exact_mod_cast Nat.log2_self_le hb.ne'
  have hb₂ : (b : ℚ) < (2 ^ (b.log2 + 1) : ℕ) := by exact_mod_cast Nat.lt_log2_self
  set e₀ : Int := (a.log2 : Int) - b.log2 with he₀
  have hpow : ∀ k : ℕ, ∀ z : ℤ, (k : ℤ) + z = a.log2 + 1 →
      ((2 ^ k : ℕ) : ℚ) * 2 ^ z = ((2 ^ (a.log2 + 1) : ℕ) : ℚ) := by
    intro k z hkz
    push_cast
    rw [← zpow_natCast, ← zpow_natCast, ← zpow_add₀ two_ne_zero, hkz]
    push_cast
    rfl
  -- the estimate is within a factor of two of the ratio, on either side
  have hlow : (b : ℚ) * 2 ^ e₀ < 2 * a := by
    calc (b : ℚ) * 2 ^ e₀ < ((2 ^ (b.log2 + 1) : ℕ) : ℚ) * 2 ^ e₀ :=
          mul_lt_mul_of_pos_right hb₂ (zpow_pos two_pos _)
      _ = ((2 ^ (a.log2 + 1) : ℕ) : ℚ) := hpow _ _ (by omega)
      _ = 2 * ((2 ^ a.log2 : ℕ) : ℚ) := by push_cast; ring
      _ ≤ 2 * a := by linarith
  have hhigh : (a : ℚ) < b * 2 ^ (e₀ + 1) := by
    calc (a : ℚ) < ((2 ^ (a.log2 + 1) : ℕ) : ℚ) := ha₂
      _ = ((2 ^ b.log2 : ℕ) : ℚ) * 2 ^ (e₀ + 1) := (hpow _ _ (by omega)).symm
      _ ≤ b * 2 ^ (e₀ + 1) := mul_le_mul_of_nonneg_right hb₁ (zpow_pos two_pos _).le
  unfold floorLog2Ratio
  dsimp only
  rw [← he₀]
  split
  · next h =>
    have hle := (leScaled_iff b e₀ a 0).mp h
    rw [zpow_zero, mul_one] at hle
    exact ⟨hle, hhigh⟩
  · next h =>
    have hlt : (a : ℚ) < b * 2 ^ e₀ := by
      refine lt_of_not_ge fun hle => h ((leScaled_iff b e₀ a 0).mpr ?_)
      rwa [zpow_zero, mul_one]
    have hhalf : (2 : ℚ) ^ e₀ = 2 * 2 ^ (e₀ - 1) := by
      rw [← zpow_one_add₀ two_ne_zero]
      ring_nf
    refine ⟨?_, by rwa [sub_add_cancel]⟩
    rw [hhalf] at hlow
    linarith

/-! ## Ceilings of scaled quotients -/

/-- The ceiling of `a / b` is `k` when `a` lies above `(k - 1) · b` and at most `k · b`. -/
theorem ceil_div_eq_of_lt_le {a b k : ℕ} (hb : 0 < b) (hlo : k * b < a + b) (hhi : a ≤ k * b) :
    ⌈(a : ℚ) / b⌉ = k := by
  have hbq : (0 : ℚ) < b := by exact_mod_cast hb
  have hloq : (k : ℚ) * b < a + b := by exact_mod_cast hlo
  have hhiq : (a : ℚ) ≤ k * b := by exact_mod_cast hhi
  rw [Int.ceil_eq_iff]
  push_cast
  constructor
  · rw [lt_div_iff₀ hbq]
    linarith
  · rw [div_le_iff₀ hbq]
    exact hhiq

/-- **Rounding a scaled quotient keeps its ceiling.** Rounding `n · G / s` to an integer and
dividing by `G` again gives the ceiling of `n / s`, as long as the rounding cannot reach the
integer below the quotient: when `s` does not divide `n`, the quotient lies `(n % s) / s` above
that integer, and this must exceed half of `1 / G`. -/
theorem ceil_roundDiv {n s G : ℕ} (hs : 0 < s) (hG : 0 < G)
    (hgap : n % s ≠ 0 → s < 2 * G * (n % s)) :
    ⌈((roundDiv (n * G) s .toEven : ℕ) : ℚ) / G⌉ = ⌈(n : ℚ) / s⌉ := by
  have hdm := Nat.div_add_mod n s
  have hmod := Nat.mod_lt n hs
  by_cases hdvd : n % s = 0
  · -- an integer quotient is scaled and rounded exactly
    have hn : n * G = n / s * G * s := by
      rw [Nat.mul_right_comm, Nat.div_mul_cancel (Nat.dvd_of_mod_eq_zero hdvd)]
    have hexact : ((n / s * G : ℕ) : ℚ) / G = (n / s : ℕ) := by
      push_cast
      field_simp
    have hquot : (n : ℚ) / s = (n / s : ℕ) := by
      rw [Nat.cast_div (Nat.dvd_of_mod_eq_zero hdvd) (by exact_mod_cast hs.ne')]
    rw [hn, roundDiv_mul _ hs, hexact, hquot]
  · -- otherwise both ceilings are the integer above `n / s`
    have hcomm : n / s * s = s * (n / s) := Nat.mul_comm _ _
    have hup : n ≤ (n / s + 1) * s := by
      rw [Nat.add_mul, Nat.one_mul]
      omega
    have hround_hi : roundDiv (n * G) s .toEven ≤ (n / s + 1) * G := by
      apply roundDiv_le_of_le _ hs
      calc n * G ≤ (n / s + 1) * s * G := Nat.mul_le_mul_right _ hup
        _ = (n / s + 1) * G * s := Nat.mul_right_comm _ _ _
    have hround_lo : n / s * G < roundDiv (n * G) s .toEven := by
      apply lt_roundDiv_of_lt _ hs
      have hsplit : 2 * (n * G) = 2 * (n / s * G) * s + 2 * G * (n % s) := by
        calc 2 * (n * G) = 2 * ((s * (n / s) + n % s) * G) := by rw [hdm]
          _ = 2 * (n / s * G) * s + 2 * G * (n % s) := by ring
      rw [hsplit, Nat.add_mul, Nat.one_mul]
      have := hgap hdvd
      omega
    have hround_lo' : (n / s + 1) * G < roundDiv (n * G) s .toEven + G := by
      rw [Nat.add_mul, Nat.one_mul]
      omega
    have hquot_lo : (n / s + 1) * s < n + s := by
      rw [Nat.add_mul, Nat.one_mul]
      omega
    rw [ceil_div_eq_of_lt_le hG hround_lo' hround_hi, ceil_div_eq_of_lt_le hs hquot_lo hup]

/-- Where the quotient is no integer, a normal result cannot be rounded down to the integer
below it: half a unit in the last place, `2 ^ -j / 2`, is less than the quotient's distance
`(n % s) / s` above that integer. With `n ≤ 2 ^ 53` equality would need `n = 2 ^ 53` and `s` a
power of two, which divides `n`. -/
theorem gap_of_normal {n s j : ℕ} (hn : n ≤ 2 ^ 53) (hs : 0 < s) (hnorm : 2 ^ 52 * s ≤ n * 2 ^ j)
    (hr : n % s ≠ 0) : s < 2 * 2 ^ j * (n % s) := by
  by_contra hgap
  rw [not_lt] at hgap
  -- first `2 ^ 53 · (n % s) ≤ n`, so the remainder is 1 and `n = 2 ^ 53`
  have hscaled : 2 ^ 53 * (n % s) * s ≤ n * s := by
    calc 2 ^ 53 * (n % s) * s = 2 ^ 52 * s * (2 * (n % s)) := by ring
      _ ≤ n * 2 ^ j * (2 * (n % s)) := Nat.mul_le_mul_right _ hnorm
      _ = n * (2 * 2 ^ j * (n % s)) := by ring
      _ ≤ n * s := Nat.mul_le_mul_left _ hgap
  have hrem := Nat.le_of_mul_le_mul_right hscaled hs
  obtain ⟨hr1, rfl⟩ : n % s = 1 ∧ n = 2 ^ 53 := by omega
  -- then `s = 2 ^ (j + 1)`, which divides `2 ^ 53` or exceeds it
  have hs_le : s ≤ 2 * 2 ^ j := by
    refine Nat.le_of_mul_le_mul_left ?_ (Nat.two_pow_pos 52)
    calc 2 ^ 52 * s ≤ 2 ^ 53 * 2 ^ j := hnorm
      _ = 2 ^ 52 * (2 * 2 ^ j) := by ring
  rw [hr1, Nat.mul_one] at hgap
  have hs_eq : s = 2 ^ (j + 1) := by
    rw [Nat.pow_succ]
    omega
  rcases Nat.lt_or_ge 53 (j + 1) with hj | hj
  · have hlt : 2 ^ 53 < s := hs_eq ▸ Nat.pow_lt_pow_right (by norm_num) hj
    rw [Nat.mod_eq_of_lt hlt] at hr1
    omega
  · have hdvd : s ∣ 2 ^ 53 := hs_eq ▸ Nat.pow_dvd_pow 2 hj
    rw [Nat.mod_eq_zero_of_dvd hdvd] at hr1
    omega

/-- For a subnormal result the unit in the last place is `2 ^ -k` with `k = 1074`: rounding
keeps the ceiling when the quotient is above half of it, `n / s > 2 ^ -(k + 1)`. -/
theorem gap_of_subnormal {n s k : ℕ} (hn : n ≤ 2 ^ 53) (hk : 53 < k) (hsub : s < 2 * 2 ^ k * n)
    (hr : n % s ≠ 0) : s < 2 * 2 ^ k * (n % s) := by
  rcases Nat.lt_or_ge n s with hlt | hge
  · rwa [Nat.mod_eq_of_lt hlt]
  · -- a quotient of at least 1 is far above a subnormal unit
    have hpos : 0 < n % s := Nat.pos_of_ne_zero hr
    have hbig : 2 ^ 53 < 2 ^ k := Nat.pow_lt_pow_right (by norm_num) hk
    calc s ≤ 2 ^ 53 := le_trans hge hn
      _ < 2 ^ k := hbig
      _ ≤ 2 * 2 ^ k * (n % s) := by nlinarith

/-- `nearestRatio` on positive operands whose result is not too large: the ratio scaled by
`2 ^ -q` and rounded to an integer, carried into the next exponent when it reaches `2 ^ 53`. -/
theorem nearestRatio_pos {a b : Nat} (ha : 0 < a) (hb : 0 < b)
    (hq : max (floorLog2Ratio a b - 52) (-1074) ≤ 970) :
    nearestRatio a b =
      let q := max (floorLog2Ratio a b - 52) (-1074)
      let m := roundDiv (a * 2 ^ (-q).toNat) (b * 2 ^ q.toNat) .toEven
      some (if m = 2 ^ 53 then (2 ^ 52, q + 1) else (m, q)) := by
  unfold nearestRatio
  simp only [ha.ne', hb.ne', or_self, ↓reduceIte]
  split <;> split
  · next hq' =>
    simp only at hq'
    omega
  · rfl
  · next hq' =>
    simp only at hq'
    omega
  · rfl

/-! ## The ceiling of a rounded quotient -/

/-- Below `2 ^ 53` times the divisor, the exponent of a quotient is at most 52. -/
theorem floorLog2Ratio_le {n s : ℕ} (hlo : (s : ℚ) * 2 ^ floorLog2Ratio n s ≤ n)
    (hbelow : n < 2 ^ 53 * s) : floorLog2Ratio n s ≤ 52 := by
  by_contra h
  have hpow : (2 : ℚ) ^ (53 : ℤ) ≤ 2 ^ floorLog2Ratio n s :=
    zpow_le_zpow_right₀ one_le_two (by omega)
  have hle : (s : ℚ) * 2 ^ (53 : ℤ) ≤ n :=
    le_trans (mul_le_mul_of_nonneg_left hpow (Nat.cast_nonneg s)) hlo
  have hle' : ((2 ^ 53 * s : ℕ) : ℚ) ≤ n := by
    norm_num at hle ⊢
    linarith
  exact absurd (by exact_mod_cast hle') (not_le.mpr hbelow)

/-- Below `2 ^ (e + 1)` times `s`, the numerator scaled by `2 ^ j` stays within `2 ^ 53` times
`s` when `e + 1 + j ≤ 53`: the scaled quotient needs at most 53 bits. -/
theorem scaled_le {n s j : ℕ} {e : ℤ} (hhi : (n : ℚ) < s * 2 ^ (e + 1)) (hej : e + 1 + j ≤ 53) :
    n * 2 ^ j ≤ 2 ^ 53 * s := by
  have hpow : (2 : ℚ) ^ (e + 1) * 2 ^ j ≤ 2 ^ 53 := by
    rw [← zpow_natCast, ← zpow_add₀ two_ne_zero, ← zpow_natCast]
    exact zpow_le_zpow_right₀ one_le_two (by omega)
  have hlt : (n : ℚ) * 2 ^ j ≤ 2 ^ 53 * s := by
    calc (n : ℚ) * 2 ^ j ≤ s * 2 ^ (e + 1) * 2 ^ j :=
          (mul_lt_mul_of_pos_right hhi (by positivity)).le
      _ = s * (2 ^ (e + 1) * 2 ^ j) := mul_assoc _ _ _
      _ ≤ s * 2 ^ 53 := mul_le_mul_of_nonneg_left hpow (Nat.cast_nonneg s)
      _ = 2 ^ 53 * s := mul_comm _ _
  exact_mod_cast hlt

/-- At least `2 ^ e` times `s`, the numerator scaled by `2 ^ j` reaches `2 ^ 52` times `s` when
`e + j = 52`: the scaled quotient is a normal mantissa. -/
theorem le_scaled {n s j : ℕ} {e : ℤ} (hlo : (s : ℚ) * 2 ^ e ≤ n) (hej : e + j = 52) :
    2 ^ 52 * s ≤ n * 2 ^ j := by
  have hmul : (s : ℚ) * 2 ^ e * 2 ^ j ≤ n * 2 ^ j :=
    mul_le_mul_of_nonneg_right hlo (by positivity)
  have hpow : (2 : ℚ) ^ e * 2 ^ j = 2 ^ 52 := by
    rw [← zpow_natCast, ← zpow_add₀ two_ne_zero, hej]
    norm_num
  rw [mul_assoc, hpow] at hmul
  have hle : ((2 ^ 52 * s : ℕ) : ℚ) ≤ ((n * 2 ^ j : ℕ) : ℚ) := by
    push_cast
    linarith
  exact_mod_cast hle

/-- **A quotient at most half the least subnormal value rounds to zero.** For `2 · 2 ^ 1074 · n ≤ s`
the ratio `n / s` is at most `2 ^ -1075`, half of the least subnormal value `2 ^ -1074`, and a tie
goes to the even mantissa `0`. -/
theorem nearestRatio_of_tiny {n s : ℕ} (hn : 0 < n) (hs : 2 * 2 ^ 1074 * n ≤ s) :
    nearestRatio n s = some (0, -1074) := by
  have hspos : 0 < s := lt_of_lt_of_le (by positivity) hs
  obtain ⟨hlo, -⟩ := floorLog2Ratio_spec hn hspos
  -- the exponent of the ratio is below the least subnormal one
  have he : floorLog2Ratio n s ≤ -1075 := by
    by_contra hbig
    have hpow : (2 : ℚ) ^ (-1074 : ℤ) ≤ 2 ^ floorLog2Ratio n s :=
      zpow_le_zpow_right₀ one_le_two (by omega)
    have hle : (s : ℚ) * 2 ^ (-1074 : ℤ) ≤ n :=
      le_trans (mul_le_mul_of_nonneg_left hpow (Nat.cast_nonneg s)) hlo
    have hsq : 2 * (2 : ℚ) ^ 1074 * n ≤ s := by exact_mod_cast hs
    have hnq : (0 : ℚ) < n := by exact_mod_cast hn
    have hunit : (2 : ℚ) ^ (-1074 : ℤ) * 2 ^ 1074 = 1 := by
      rw [← zpow_natCast, ← zpow_add₀ two_ne_zero]
      norm_num
    have hscaled : (2 : ℚ) * n ≤ s * 2 ^ (-1074 : ℤ) := by
      refine le_of_mul_le_mul_right ?_ (by positivity : (0 : ℚ) < 2 ^ 1074)
      rw [mul_assoc (s : ℚ), hunit, mul_one]
      calc (2 : ℚ) * (n : ℚ) * 2 ^ 1074
          = 2 * (2 : ℚ) ^ 1074 * (n : ℚ) := by rw [mul_right_comm]
        _ ≤ (s : ℚ) := hsq
    linarith
  have hq : max (floorLog2Ratio n s - 52) (-1074) = -1074 := by omega
  have hm : roundDiv (n * 2 ^ (-(-1074 : ℤ)).toNat) (s * 2 ^ (-1074 : ℤ).toNat) .toEven = 0 := by
    have hscale : (-(-1074 : ℤ)).toNat = 1074 := rfl
    have hhalf : 2 * (n * 2 ^ 1074) ≤ s := by
      calc 2 * (n * 2 ^ 1074) = 2 * 2 ^ 1074 * n := by rw [Nat.mul_comm n, Nat.mul_assoc]
        _ ≤ s := hs
    rw [hscale, show (-1074 : ℤ).toNat = 0 from rfl, pow_zero, Nat.mul_one]
    exact roundDiv_toEven_eq_zero hspos hhalf
  rw [nearestRatio_pos hn hspos (by omega)]
  simp only [hq, hm]
  rfl

/-- **Rounding keeps the ceiling of a quotient.** For `0 < n ≤ 2 ^ 53` and a positive `s` with
`n / s` above `2 ^ -1075`, half the least subnormal value, the binary64 value nearest to `n / s`
is in range and has the ceiling of `n / s`. -/
theorem ceil_nearestRatio {n s : ℕ} (hn : 0 < n) (hn' : n ≤ 2 ^ 53) (hs : 0 < s)
    (hsub : s < 2 * 2 ^ 1074 * n) :
    ∃ m q, nearestRatio n s = some (m, q) ∧ InRange m q ∧
      ⌈(m : ℚ) * 2 ^ q⌉ = ⌈(n : ℚ) / s⌉ := by
  by_cases htop : n = 2 ^ 53 ∧ s = 1
  · -- the largest quotient, `2 ^ 53` itself, is the one with a positive exponent
    obtain ⟨rfl, rfl⟩ := htop
    refine ⟨2 ^ 52, 1, by rfl, ⟨by norm_num, by norm_num, by norm_num, by norm_num⟩, ?_⟩
    norm_num
  -- below `2 ^ 53` the exponent is at most 52, and the scale `2 ^ -q` is a natural power `2 ^ j`
  obtain ⟨hlo, hhi⟩ := floorLog2Ratio_spec hn hs
  set e := floorLog2Ratio n s with he_def
  have he : e ≤ 52 := floorLog2Ratio_le hlo (by omega)
  set q := max (e - 52) (-1074) with hq_def
  set j := (-q).toNat with hj_def
  have hqj : q = -(j : ℤ) := by omega
  have hscaled : n * 2 ^ j ≤ 2 ^ 53 * s := scaled_le hhi (by omega)
  have hnormal : q ≠ -1074 → 2 ^ 52 * s ≤ n * 2 ^ j := fun hq => le_scaled hlo (by omega)
  set m₀ := roundDiv (n * 2 ^ j) s .toEven with hm₀_def
  have hm₀ : m₀ ≤ 2 ^ 53 := roundDiv_le_of_le _ hs hscaled
  have hm₀_normal : q ≠ -1074 → 2 ^ 52 ≤ m₀ := fun hq =>
    le_roundDiv_of_le _ hs (hnormal hq)
  have hgap : n % s ≠ 0 → s < 2 * 2 ^ j * (n % s) := by
    intro hr
    by_cases hq : q = -1074
    · have hj : j = 1074 := by omega
      have hsubnormal := gap_of_subnormal hn' (by norm_num) hsub hr
      rwa [← hj] at hsubnormal
    · exact gap_of_normal hn' hs (hnormal hq) hr
  have hceil := ceil_roundDiv hs (Nat.two_pow_pos j) hgap
  have hvalue : (m₀ : ℚ) * 2 ^ q = (m₀ : ℚ) / ((2 ^ j : ℕ) : ℚ) := by
    rw [hqj, zpow_neg, zpow_natCast]
    push_cast
    ring
  rw [nearestRatio_pos hn hs (by omega)]
  have hq0 : q.toNat = 0 := by omega
  simp only [← he_def, ← hq_def, ← hj_def, hq0, pow_zero, Nat.mul_one, ← hm₀_def]
  split
  · next hcarry =>
    -- a mantissa rounded up to `2 ^ 53` carries into the next exponent
    refine ⟨2 ^ 52, q + 1, rfl, ⟨by norm_num, by omega, by omega, by norm_num⟩, ?_⟩
    rw [← hceil, ← hvalue, hcarry, zpow_add₀ two_ne_zero]
    push_cast
    ring_nf
  · next hcarry =>
    refine ⟨m₀, q, rfl, ⟨by omega, by omega, by omega, fun hsmall => ?_⟩, by rw [hvalue, hceil]⟩
    by_contra hq
    exact absurd (hm₀_normal hq) (by omega)

end Decimal

end Arbor
