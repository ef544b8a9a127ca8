import Arbor.Proofs.Decimal.Quotient
import Arbor.Proofs.Number.Basic
import Arbor.Page.Basic

set_option autoImplicit false

/-! # The number of pages

`Pagination.compute` counts the pages of `total` rows, `k` to a page, as the ceiling of the
quotient `total / k`, divided as floats divide: the exact quotient is rounded once to the nearest
binary64 value, ties to even, and the ceiling is taken of that (`pageCount_of_nearestRatio`).

Up to `2 ^ 53` rows the rounding never moves the quotient across an integer, so the count is the
exact ceiling `⌈total / k⌉` (`pageCount_int`). The one exception is a page size so large that the
quotient is at most half the least subnormal float, `k ≥ 2 · 2 ^ 1074 · total`: it rounds to zero,
and so does the count (`pageCount_of_underflow`). Together they give the count for every page
size (`page_count_is_ceiling_or_underflow`). A next page exists when the page number is below the
count, a previous one when it is above 1.
-/

namespace Arbor

/-- The pagination of page `p` once the rows are counted as `c` pages. -/
theorem Pagination.compute_of_pageCount {p c : Int} {pageSize total : Json}
    (h : pageCount pageSize total = .ok c) :
    Pagination.compute (.int p) pageSize total =
      .ok ⟨.int p, pageSize, total, .int c, .bool (decide (p < c)), .bool (decide (1 < p))⟩ := by
  simp [Pagination.compute, h, Json.relate_int, Bind.bind, Except.bind, pure, Except.pure]

/-- **A positive number of rows is counted by a float quotient.** With `n > 0` rows and a
positive page size `K`, the count is the ceiling of the float nearest `n / K`. -/
theorem pageCount_of_nearestRatio {n K m : Nat} {q : Int} (hn : 0 < n) (hK : 0 < K)
    (hratio : Decimal.nearestRatio n K = some (m, q)) (hrange : Decimal.InRange m q) :
    pageCount (.int K) (.int n) = .ok ⌈(m : ℚ) * 2 ^ q⌉ := by
  have hsome : Json.relate .gt (.int (n : Int)) (.int 0) = .ok true := by
    rw [Json.relate_int, Relation.holds_gt_int]
    simp [hn]
  -- the quotient of two positive integers is the positive float of the nearest ratio
  have hdiv : Json.arith .div (.int n) (.int K) = .ok (.float (Decimal.toFloat false m q)) := by
    have hn0 : ¬ (n : Int) < 0 := by omega
    have hK0 : ¬ (K : Int) < 0 := by omega
    simp [Json.arith, Num.ofJson?, Arith.apply, Num.div, hK.ne', hratio, hn0, hK0]
  simp only [pageCount, hsome, hdiv, Decimal.ceil_toFloat hrange, Bind.bind, Except.bind,
    ↓reduceIte]

/-- **The page count is the ceiling of the quotient.** For at most `2 ^ 53` rows the quotient
rounds to a float whose ceiling is the exact one, unless the page size is so large that it
rounds to zero. -/
theorem pageCount_int {n : Nat} {k : Int} (hk : 0 < k) (hn : n ≤ 2 ^ 53)
    (hsub : n = 0 ∨ k < 2 * 2 ^ 1074 * n) :
    pageCount (.int k) (.int n) = .ok ⌈(n : ℚ) / k⌉ := by
  obtain ⟨K, rfl⟩ := Int.eq_ofNat_of_zero_le hk.le
  rcases Nat.eq_zero_or_pos n with rfl | hpos
  · have hnone : Json.relate .gt (.int 0) (.int 0) = .ok false := by
      rw [Json.relate_int, Relation.holds_gt_int]
      rfl
    simp [pageCount, hnone, Bind.bind, Except.bind, pure, Except.pure]
  · have hK : 0 < K := by omega
    have hsub' : K < 2 * 2 ^ 1074 * n := by
      rcases hsub with h | h
      · omega
      · exact_mod_cast h
    obtain ⟨m, q, hratio, hrange, hceil⟩ := Decimal.ceil_nearestRatio hpos hn hK hsub'
    rw [pageCount_of_nearestRatio hpos hK hratio hrange, hceil, Int.cast_natCast]

/-- **A page size far above the rows counts no pages.** Once the page size is `2 · 2 ^ 1074` times
the number of rows or more, the quotient rounds to the float zero, and its ceiling is zero. -/
theorem pageCount_of_underflow {n : Nat} {k : Int} (hn : 0 < n)
    (hk : 2 * 2 ^ 1074 * (n : Int) ≤ k) : pageCount (.int k) (.int n) = .ok 0 := by
  obtain ⟨K, rfl⟩ := Int.eq_ofNat_of_zero_le (le_trans (by positivity) hk)
  have hK : 2 * 2 ^ 1074 * n ≤ K := by exact_mod_cast hk
  have hKpos : 0 < K := lt_of_lt_of_le (by positivity) hK
  have hrange : Decimal.InRange 0 (-1074) := ⟨by norm_num, le_rfl, by norm_num, fun _ => rfl⟩
  rw [pageCount_of_nearestRatio hn hKpos (Decimal.nearestRatio_of_tiny hn hK) hrange]
  simp

/-- The pagination of page `p` of `k` rows over `n` rows, with `⌈n / k⌉` pages. -/
theorem Pagination.compute_int {p k : Int} {n : Nat} (hk : 0 < k) (hn : n ≤ 2 ^ 53)
    (hsub : n = 0 ∨ k < 2 * 2 ^ 1074 * n) :
    Pagination.compute (.int p) (.int k) (.int n) =
      .ok ⟨.int p, .int k, .int n, .int ⌈(n : ℚ) / k⌉, .bool (decide (p < ⌈(n : ℚ) / k⌉)),
        .bool (decide (1 < p))⟩ :=
  Pagination.compute_of_pageCount (pageCount_int hk hn hsub)

/-- The last page is before page `p` exactly when the rows before page `p` are all the rows. -/
theorem pageCount_lt_iff {n : Nat} {p k : Int} (hk : 0 < k) :
    ⌈(n : ℚ) / k⌉ < p ↔ (n : Int) ≤ (p - 1) * k := by
  have hkq : (0 : ℚ) < k := by exact_mod_cast hk
  rw [← Int.le_sub_one_iff, Int.ceil_le, div_le_iff₀ hkq]
  norm_cast

/-- **The page count is the exact ceiling, up to `2 ^ 53` rows.** For every number of rows `total`
from `0` to `2 ^ 53`, every page size `k ≥ 1` and every page `p`, the pagination counts
`⌈total / k⌉` pages, none when there are no rows, and has a next page exactly when `p` is below
that count, although the quotient is a float rounded once. The only page sizes where this fails
are those of `2 · 2 ^ 1074` times the rows or more: there the quotient rounds to zero, and the
count is zero. -/
theorem page_count_is_ceiling_or_underflow (p total k : Int) (h0 : 0 ≤ total)
    (htotal : total ≤ 2 ^ 53) (hk : 1 ≤ k) :
    Pagination.compute (.int p) (.int k) (.int total) =
      .ok ⟨.int p, .int k, .int total,
        .int (if k < 2 * 2 ^ 1074 * total then ⌈(total : ℚ) / k⌉ else 0),
        .bool (decide (p < if k < 2 * 2 ^ 1074 * total then ⌈(total : ℚ) / k⌉ else 0)),
        .bool (decide (1 < p))⟩ := by
  obtain ⟨n, rfl⟩ := Int.eq_ofNat_of_zero_le h0
  have hn : n ≤ 2 ^ 53 := by exact_mod_cast htotal
  apply Pagination.compute_of_pageCount
  by_cases hsmall : k < 2 * 2 ^ 1074 * (n : Int)
  · -- the quotient rounds to a positive float, whose ceiling is the exact one
    rw [if_pos hsmall]
    simpa using pageCount_int (by omega) hn (.inr hsmall)
  · rw [if_neg hsmall]
    rcases Nat.eq_zero_or_pos n with rfl | hpos
    · simpa using pageCount_int (by omega : (0 : Int) < k) (Nat.zero_le _) (.inl rfl)
    · exact pageCount_of_underflow hpos (not_lt.mp hsmall)

/-- The largest number of rows, three to a page: `⌈2 ^ 53 / 3⌉` pages, so page 1 has a next. -/
theorem largest_total_counts_exact_pages :
    (0 : Int) ≤ 2 ^ 53 ∧ (2 ^ 53 : Int) ≤ 2 ^ 53 ∧ (1 : Int) ≤ 3 ∧
      ∃ pg, Pagination.compute (.int 1) (.int 3) (.int (2 ^ 53)) = .ok pg ∧
        pg.totalPages = .int 3002399751580331 ∧ pg.hasNext = .bool true := by
  refine ⟨by norm_num, le_rfl, by norm_num, ?_⟩
  have hcount := page_count_is_ceiling_or_underflow 1 (2 ^ 53) 3 (by norm_num) le_rfl (by norm_num)
  have hsmall : (3 : Int) < 2 * 2 ^ 1074 * 2 ^ 53 :=
    calc (3 : Int) < 2 * 1 * 2 ^ 53 := by norm_num
      _ ≤ 2 * 2 ^ 1074 * 2 ^ 53 := by gcongr; exact one_le_pow₀ (by norm_num)
  have hceil : ⌈((2 ^ 53 : Int) : ℚ) / ((3 : Int) : ℚ)⌉ = 3002399751580331 := by
    rw [Int.ceil_eq_iff]
    norm_num
  simp only [hsmall, if_true, hceil] at hcount
  exact ⟨_, hcount, rfl, by simp⟩

/-- One row read `2 ^ 1075` to a page: the quotient `2 ^ -1075` rounds to zero, so the count is
zero although the ceiling of the quotient is one. -/
theorem huge_page_size_counts_no_pages :
    ∃ pg, Pagination.compute (.int 1) (.int (2 ^ 1075)) (.int 1) = .ok pg ∧
      pg.totalPages = .int 0 ∧ ⌈(1 : ℚ) / 2 ^ 1075⌉ = 1 := by
  have hbound : 2 * 2 ^ 1074 * ((1 : Nat) : Int) ≤ 2 ^ 1075 := by
    rw [Nat.cast_one, mul_one]
    exact le_of_eq (pow_succ' 2 1074).symm
  have hcount : pageCount (.int (2 ^ 1075)) (.int ((1 : Nat) : Int)) = .ok 0 :=
    pageCount_of_underflow Nat.one_pos hbound
  refine ⟨_, Pagination.compute_of_pageCount hcount, rfl, ?_⟩
  rw [Int.ceil_eq_iff]
  constructor
  · norm_num
  · rw [Int.cast_one, one_div]
    exact inv_le_one_of_one_le₀ (one_le_pow₀ one_le_two)

end Arbor
