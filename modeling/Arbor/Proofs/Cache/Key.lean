import Arbor.Cache.Key
import Mathlib.Data.List.Basic

set_option autoImplicit false

/-! # Cache keys of pages asked for by integers

A page asked for by integers of at most `maxIntDigits` digits has a key of its own
(`cacheKey_int`): `tree:<page>:<pageSize>` with both numbers in decimal (`pageKey`). A decimal
numeral holds only digits and the minus sign, never the colon that separates the two numbers,
and it names one integer, so the key gives the page and the page size back (`cacheKey_int_inj`).
Every key there is, whatever the page and page size, starts with `tree:` (`cacheKey_startsWith`):
the prefix by which the cache's invalidation finds the keys of pages. A page or page size of more
digits has no key at all: writing it is refused.
-/

namespace Arbor

-- powers of naturals and integers are the core ones, as in the definitions they meet
attribute [local instance (high)] instPowNat

/-- A separator that occurs in neither of two fronts splits two equal lists at the same place. -/
theorem append_cons_inj_of_not_mem {xs ys us vs : List Nat} {c : Nat} (hx : c ∉ xs)
    (hu : c ∉ us) (h : xs ++ c :: ys = us ++ c :: vs) : xs = us ∧ ys = vs := by
  induction xs generalizing us with
  | nil =>
    cases us with
    | nil => simpa using h
    | cons u us =>
      simp only [List.nil_append, List.cons_append, List.cons.injEq] at h
      exact absurd (h.1 ▸ List.mem_cons_self) hu
  | cons x xs ih =>
    cases us with
    | nil =>
      simp only [List.nil_append, List.cons_append, List.cons.injEq] at h
      exact absurd (h.1 ▸ List.mem_cons_self) hx
    | cons u us =>
      simp only [List.cons_append, List.cons.injEq] at h
      obtain ⟨rfl, h⟩ := h
      have tails := ih (List.not_mem_of_not_mem_cons hx) (List.not_mem_of_not_mem_cons hu) h
      exact ⟨by rw [tails.1], tails.2⟩

namespace Text

theorem ext_points {a b : Text} (h : a.points = b.points) : a = b := by
  cases a
  cases b
  cases h
  rfl

@[simp] theorem points_append (a b : Text) : (a ++ b).points = a.points ++ b.points := rfl

theorem points_ofString (s : String) : (ofString s).points = s.toList.map Char.toNat := rfl

theorem ofString_injective : Function.Injective ofString := by
  intro s t h
  have hpoints := congrArg points h
  simp only [points_ofString] at hpoints
  exact String.toList_inj.mp (List.map_injective_iff.mpr (fun _ _ => Char.toNat_inj.mp) hpoints)

/-- A numeral names one natural number. -/
theorem ofDigitChars_repr (m : Nat) : Nat.ofDigitChars 10 m.repr.toList 0 = m := by
  simp [Nat.toList_repr]

theorem minus_not_mem_repr (m : Nat) : '-' ∉ m.repr.toList := by
  intro hm
  rw [Nat.toList_repr] at hm
  simpa using Nat.isDigit_of_mem_toDigits (by decide) (by decide) hm

/-- Every code point of a decimal numeral is a digit or the minus sign. -/
theorem mem_ofInt_points {n : Int} {c : Nat} (h : c ∈ (ofInt n).points) :
    c = 45 ∨ 48 ≤ c ∧ c ≤ 57 := by
  simp only [ofInt, points_ofString, List.mem_map] at h
  obtain ⟨ch, hch, rfl⟩ := h
  have digit : ∀ m : Nat, ch ∈ m.repr.toList → 48 ≤ ch.toNat ∧ ch.toNat ≤ 57 := by
    intro m hm
    rw [Nat.toList_repr] at hm
    have := Nat.isDigit_of_mem_toDigits (by decide) (by decide) hm
    simp only [Char.isDigit, Bool.and_eq_true, decide_eq_true_eq, UInt32.le_iff_toNat_le] at this
    exact this
  rw [Int.repr_eq_if] at hch
  split at hch
  · exact .inr (digit _ hch)
  · rw [String.toList_append] at hch
    rcases List.mem_append.mp hch with hminus | hm
    · left
      simp at hminus
      simp [hminus]
    · exact .inr (digit _ hm)

/-- A decimal numeral names one integer. -/
theorem ofInt_injective : Function.Injective ofInt := by
  intro a b h
  have hrepr : a.repr = b.repr := ofString_injective h
  rw [Int.repr_eq_if, Int.repr_eq_if] at hrepr
  split at hrepr <;> split at hrepr
  · have value := congrArg (fun s => Nat.ofDigitChars 10 s.toList 0) hrepr
    simp only [ofDigitChars_repr] at value
    omega
  · have : '-' ∈ a.toNat.repr.toList := by simp [hrepr]
    exact absurd this (minus_not_mem_repr _)
  · have : '-' ∈ b.toNat.repr.toList := by simp [← hrepr]
    exact absurd this (minus_not_mem_repr _)
  · -- both negative: the numerals agree after the minus sign
    have value := congrArg (fun s => Nat.ofDigitChars 10 (s.toList.drop 1) 0) hrepr
    simp only [String.toList_append] at value
    simp at value
    omega

end Text

/-! ## Integers written into keys -/

/-- An integer of at most `maxIntDigits` digits: one below `10 ^ maxIntDigits` in size. -/
theorem fitsNumeral_iff (n : Int) : fitsNumeral n = true ↔ n.natAbs < 10 ^ maxIntDigits := by
  unfold fitsNumeral
  exact decide_eq_true_iff

/-- An integer below `10 ^ 18` in size has few enough digits to be written. -/
theorem fitsNumeral_of_lt {n : Int} (h : n.natAbs < 10 ^ (18 : Nat)) : fitsNumeral n = true := by
  rw [fitsNumeral_iff]
  exact Nat.lt_of_lt_of_le h (Nat.pow_le_pow_right (by decide) (by decide))

/-- `10 ^ maxIntDigits` is the least positive integer with too many digits. -/
theorem fitsNumeral_pow : fitsNumeral (10 ^ maxIntDigits) = false := by
  unfold fitsNumeral
  -- the exponent is kept abstract, so that no power is evaluated
  generalize maxIntDigits = d
  simp [Int.natAbs_pow]

@[simp] theorem Json.display_int (n : Int) : (Json.int n).display = Text.ofInt n := rfl

/-- An integer put into a text is its numeral, when it has few enough digits. -/
theorem Json.shown_int (n : Int) :
    (Json.int n).shown = if fitsNumeral n then .ok (Text.ofInt n) else .error .tooManyDigitsToWrite :=
  rfl

/-- The key of page `p` of `s` rows, when both can be written. -/
def pageKey (p s : Int) : Text := keyPrefix ++ Text.ofInt p ++ Text.ofString ":" ++ Text.ofInt s

/-- A page asked for by integers has its key exactly when both have few enough digits. -/
theorem cacheKey_int (p s : Int) :
    cacheKey (.int p) (.int s) =
      if fitsNumeral p && fitsNumeral s then .ok (pageKey p s) else .error .tooManyDigitsToWrite := by
  unfold cacheKey
  rw [Json.shown_int, Json.shown_int]
  cases fitsNumeral p <;> cases fitsNumeral s <;> rfl

theorem cacheKey_int_of_fits {p s : Int} (hp : fitsNumeral p = true) (hs : fitsNumeral s = true) :
    cacheKey (.int p) (.int s) = .ok (pageKey p s) := by
  rw [cacheKey_int, hp, hs]
  rfl

/-- A page or page size of more than `maxIntDigits` digits has no key. -/
theorem cacheKey_int_of_wide {p s : Int} (h : (fitsNumeral p && fitsNumeral s) = false) :
    cacheKey (.int p) (.int s) = .error .tooManyDigitsToWrite := by
  rw [cacheKey_int, h]
  rfl

/-- The key text of a page gives the page and the page size back. -/
theorem pageKey_inj {p s p' s' : Int} (h : pageKey p s = pageKey p' s') : p = p' ∧ s = s' := by
  have hpoints := congrArg Text.points h
  simp only [pageKey, Text.points_append, List.append_assoc] at hpoints
  have colon : (Text.ofString ":").points = [58] := rfl
  rw [colon] at hpoints
  have noColon : ∀ n : Int, 58 ∉ (Text.ofInt n).points := fun n hn => by
    rcases Text.mem_ofInt_points hn with h | h <;> omega
  obtain ⟨hp, hs⟩ := append_cons_inj_of_not_mem (noColon p) (noColon p')
    (List.append_cancel_left hpoints)
  exact ⟨Text.ofInt_injective (Text.ext_points hp),
    Text.ofInt_injective (Text.ext_points (by simpa using hs))⟩

/-- Distinct pages have distinct key texts. -/
theorem pageKey_ne {p s p' s' : Int} (h : (p', s') ≠ (p, s)) : pageKey p' s' ≠ pageKey p s :=
  fun heq => h (Prod.ext_iff.mpr (pageKey_inj heq))

/-- Two pages, the first of which has a key, share it exactly when their numbers and sizes
agree: a page without a key shares none. -/
theorem cacheKey_int_eq_iff {p s p' s' : Int} (hp : fitsNumeral p = true)
    (hs : fitsNumeral s = true) :
    cacheKey (.int p) (.int s) = cacheKey (.int p') (.int s') ↔ p = p' ∧ s = s' := by
  constructor
  · intro hk
    rw [cacheKey_int_of_fits hp hs, cacheKey_int] at hk
    split at hk
    · exact pageKey_inj (Except.ok.inj hk)
    · cases hk
  · rintro ⟨rfl, rfl⟩
    rfl

theorem pageKey_startsWith (p s : Int) : (pageKey p s).startsWith keyPrefix := by
  unfold Text.startsWith pageKey
  simp only [Text.points_append, List.append_assoc]
  exact List.isPrefixOf_iff_prefix.mpr (List.prefix_append _ _)

/-- Every key there is, of a page asked for by values of any kind, starts with the prefix. -/
theorem cacheKey_startsWith {page pageSize : Json} {key : Text}
    (h : cacheKey page pageSize = .ok key) : key.startsWith keyPrefix := by
  unfold cacheKey at h
  cases hp : page.shown with
  | error f => simp [hp, bind, Except.bind] at h
  | ok tp =>
    cases hs : pageSize.shown with
    | error f => simp [hp, hs, bind, Except.bind] at h
    | ok ts =>
      simp only [hp, hs, bind, Except.bind, pure, Except.pure, Except.ok.injEq] at h
      subst h
      unfold Text.startsWith
      simp only [Text.points_append, List.append_assoc]
      exact List.isPrefixOf_iff_prefix.mpr (List.prefix_append _ _)

/-- **Page keys name their pages and share the prefix, as far as they can be written.** A page
asked for by integers of at most `maxIntDigits` digits has a key, which starts with `tree:`, and
shares it with exactly the pages of the same number and size. A page or page size of more digits
has no key: writing it is refused with `Fault.tooManyDigitsToWrite`. -/
theorem page_keys_are_injective_and_prefixed :
    (∀ p s p' s' : Int, fitsNumeral p = true → fitsNumeral s = true →
      (cacheKey (.int p) (.int s) = cacheKey (.int p') (.int s') ↔ p = p' ∧ s = s')) ∧
    (∀ p s : Int, fitsNumeral p = true → fitsNumeral s = true →
      ∃ key, cacheKey (.int p) (.int s) = .ok key ∧
        key.startsWith (Text.ofString "tree:") = true) ∧
    ∀ p s : Int, (fitsNumeral p && fitsNumeral s) = false →
      cacheKey (.int p) (.int s) = .error .tooManyDigitsToWrite := by
  refine ⟨fun p s p' s' hp hs => cacheKey_int_eq_iff hp hs, fun p s hp hs => ?_, ?_⟩
  · exact ⟨pageKey p s, cacheKey_int_of_fits hp hs, pageKey_startsWith p s⟩
  · intro p s hps
    exact cacheKey_int_of_wide hps

/-- Page 1 of 10 rows has the key `tree:1:10`, that of no other page. -/
theorem first_page_key :
    (fitsNumeral 1 = true ∧ fitsNumeral 10 = true) ∧
      ∃ key, cacheKey (.int 1) (.int 10) = .ok key ∧ key.startsWith (Text.ofString "tree:") = true :=
  have h1 : fitsNumeral 1 = true := fitsNumeral_of_lt (by decide)
  have h10 : fitsNumeral 10 = true := fitsNumeral_of_lt (by decide)
  ⟨⟨h1, h10⟩, page_keys_are_injective_and_prefixed.2.1 1 10 h1 h10⟩

/-- The page `10 ^ maxIntDigits`, of `maxIntDigits + 1` digits, has no key: the cache cannot be
asked for it. -/
theorem page_of_too_many_digits_has_no_key :
    cacheKey (.int (10 ^ maxIntDigits)) (.int 1) = .error .tooManyDigitsToWrite :=
  cacheKey_int_of_wide (by rw [fitsNumeral_pow]; rfl)

end Arbor
