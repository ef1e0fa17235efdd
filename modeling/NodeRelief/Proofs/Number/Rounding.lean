import NodeRelief.Proofs.Number.Decimal
import Mathlib.Algebra.Order.Field.Basic
import Mathlib.Tactic.FieldSimp

/-! # Products that need no rounding

A whole number of billionths below ten to the nineteenth has at most 28 places that are not zero. However
many zeros a decimal of that value was written with, rounding it to 28 places takes off zeros only. -/

namespace NodeRelief.Decimal

/-- Whole numbers of billionths, below ten to the nineteenth in magnitude. -/
structure Fits (x : ℚ) : Prop where
  billionths : ∃ n : ℤ, x = n / 10 ^ 9
  small : |x| < 10 ^ 19

theorem fits_neg {x : ℚ} : Fits (-x) ↔ Fits x := by
  have negated {x : ℚ} (h : Fits x) : Fits (-x) := by
    obtain ⟨n, rfl⟩ := h.billionths
    refine ⟨⟨-n, by push_cast; ring⟩, ?_⟩
    rw [abs_neg]
    exact h.small
  exact ⟨fun h => neg_neg x ▸ negated h, negated⟩

/-- What is not zero is at least one billionth. -/
theorem Fits.le_abs {x : ℚ} (h : Fits x) (nonzero : x ≠ 0) : 1 / 10 ^ 9 ≤ |x| := by
  obtain ⟨n, rfl⟩ := h.billionths
  have counted : n ≠ 0 := by
    rintro rfl
    simp at nonzero
  have one : (1 : ℚ) ≤ |(n : ℚ)| := by exact_mod_cast Int.one_le_abs counted
  rw [abs_div, abs_of_pos (by norm_num : (0 : ℚ) < 10 ^ 9)]
  exact div_le_div_of_nonneg_right one (by norm_num)

/-! ## Places -/

section

variable {c : ℕ} {e : ℤ}

theorem lt_pow_places (c : ℕ) : c < 10 ^ places c := by
  have positive : 0 < places c := Nat.length_toDigits_pos
  exact (Nat.length_toDigits_le_iff (by decide) positive).mp le_rfl

theorem pow_le_of_ne_zero (h : c ≠ 0) : 10 ^ (places c - 1) ≤ c := by
  by_contra! below
  rcases Nat.eq_zero_or_pos (places c - 1) with single | more
  · rw [single] at below
    omega
  · have short := (Nat.length_toDigits_le_iff (by decide) more).mpr below
    rw [places] at *
    omega

/-! The leading place tells between which powers of ten a magnitude lies. -/

theorem magnitude_lt : magnitude c e < 10 ^ (e + places c) := by
  have below : (c : ℚ) < 10 ^ places c := by exact_mod_cast lt_pow_places c
  have power : (0 : ℚ) < 10 ^ e := zpow_pos (by norm_num) e
  rw [magnitude, add_comm, zpow_add₀ (by norm_num), zpow_natCast]
  exact mul_lt_mul_of_pos_right below power

theorem le_magnitude (h : c ≠ 0) : 10 ^ (e + places c - 1) ≤ magnitude c e := by
  have positive : 0 < places c := Nat.length_toDigits_pos
  have above : (10 ^ (places c - 1) : ℚ) ≤ c := by exact_mod_cast pow_le_of_ne_zero h
  have power : (0 : ℚ) < 10 ^ e := zpow_pos (by norm_num) e
  have leading : e + places c - 1 = (places c - 1 : ℕ) + e := by omega
  rw [magnitude, leading, zpow_add₀ (by norm_num), zpow_natCast]
  exact mul_le_mul_of_nonneg_right above power.le

theorem places_le {m : ℤ} (h : c ≠ 0) (small : magnitude c e < 10 ^ m) : e + places c ≤ m := by
  have below : (10 : ℚ) ^ (e + places c - 1) < 10 ^ m := (le_magnitude h).trans_lt small
  have := (zpow_lt_zpow_iff_right₀ (by norm_num)).mp below
  omega

theorem lt_places {m : ℤ} (large : 10 ^ m ≤ magnitude c e) : m < e + places c := by
  have above : (10 : ℚ) ^ m < 10 ^ (e + places c) := large.trans_lt magnitude_lt
  exact (zpow_lt_zpow_iff_right₀ (by norm_num)).mp above

theorem magnitude_mul (c c' : ℕ) (e e' : ℤ) :
    magnitude c e * magnitude c' e' = magnitude (c * c') (e + e') := by
  rw [magnitude, magnitude, magnitude, zpow_add₀ (by norm_num)]
  push_cast
  ring

theorem magnitude_mul_pow (c k : ℕ) (e : ℤ) : magnitude (c * 10 ^ k) e = magnitude c (e + k) := by
  rw [magnitude, magnitude, zpow_add₀ (by norm_num), zpow_natCast]
  push_cast
  ring

/-! ## Rounding -/

/-- Zeros are dropped without rounding. -/
theorem dropPlaces_mul (c k : ℕ) : dropPlaces (c * 10 ^ k) k = c := by
  have power : 0 < 10 ^ k := Nat.pow_pos (by decide)
  have divided : halfEven (c * 10 ^ k) (Nat.pow 10 k) = c := by
    change halfEven (c * 10 ^ k) (10 ^ k) = c
    simp [halfEven, power]
  rw [dropPlaces]
  split
  · next few =>
    by_contra nonzero
    have many : 10 ^ k ≤ c * 10 ^ k := Nat.le_mul_of_pos_left _ (by omega)
    have below : c * 10 ^ k < 10 ^ k :=
      (lt_pow_places _).trans_le (Nat.pow_le_pow_right (by decide) few.le)
    omega
  · exact divided

/-- Whatever stands below the ninth place after the point is zero. -/
theorem Fits.exists_mul_pow {k : ℕ} (h : Fits (magnitude c e)) (low : e + k ≤ -9) :
    ∃ m, c = m * 10 ^ k := by
  obtain ⟨n, hn⟩ := h.billionths
  obtain ⟨j, rfl⟩ : ∃ j : ℕ, e = -9 - j := ⟨(-9 - e).toNat, by omega⟩
  have scaled : (c : ℚ) = n * 10 ^ j := by
    rw [magnitude, zpow_sub₀ (by norm_num), zpow_natCast] at hn
    have nonzero : (10 : ℚ) ^ j ≠ 0 := pow_ne_zero j (by norm_num)
    field_simp at hn
    linarith
  have whole : (c : ℤ) = n * 10 ^ j := by exact_mod_cast scaled
  have divides : 10 ^ k ∣ c := by
    have tens : 10 ^ j ∣ c := by exact_mod_cast Dvd.intro_left n whole.symm
    exact (pow_dvd_pow 10 (by omega)).trans tens
  obtain ⟨m, rfl⟩ := divides
  exact ⟨m, mul_comm ..⟩

theorem Fits.places_le (h : Fits (magnitude c e)) (nonzero : c ≠ 0) : e + places c ≤ 19 := by
  refine Decimal.places_le nonzero ?_
  have small := h.small
  rwa [abs_of_nonneg magnitude_nonneg] at small

/-- What fits is not changed by rounding. -/
theorem round?_of_fits (negative : Bool) (h : Fits (magnitude c e)) : ∃ c' e',
    round? negative c e = some (.finite negative c' e') ∧ magnitude c' e' = magnitude c e := by
  have kept {c : ℕ} {e : ℤ} (h : Fits (magnitude c e)) :
      ¬ (c ≠ 0 ∧ mostLeading < e + places c - 1) := by
    rintro ⟨nonzero, large⟩
    have := h.places_le nonzero
    rw [mostLeading] at large
    omega
  generalize hexcess : max ((places c : ℤ) - precision) (leastPlace - e) = excess
  rw [round?]
  simp only [hexcess]
  by_cases excessive : 0 < excess
  · obtain ⟨k, rfl⟩ : ∃ k : ℕ, excess = k := ⟨excess.toNat, by omega⟩
    obtain ⟨m, rfl⟩ : ∃ m, c = m * 10 ^ k := by
      by_cases nonzero : c = 0
      · exact ⟨0, by simp [nonzero]⟩
      · have := h.places_le nonzero
        rw [precision, leastPlace] at hexcess
        exact h.exists_mul_pow (by omega)
    rw [magnitude_mul_pow] at h ⊢
    simp only [if_pos excessive, Int.toNat_natCast, dropPlaces_mul]
    exact ⟨m, e + k, if_neg (kept h), rfl⟩
  · simp only [if_neg excessive]
    exact ⟨c, e, if_neg (kept h), rfl⟩

end

end NodeRelief.Decimal
