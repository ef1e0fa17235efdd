import NodeRelief.Number.Decimal
import Mathlib.Algebra.Order.Field.Rat
import Mathlib.Tactic.Linarith
import Mathlib.Tactic.NormNum
import Mathlib.Tactic.Ring

/-! # The values of decimals

A finite decimal stands for a rational number. Zeros at the end of its coefficient are moved into its
exponent without changing that number, and without them no other coefficient and exponent have the same
magnitude. So finite decimals are equal just where their values are. -/

namespace NodeRelief.Decimal

def magnitude (coefficient : ℕ) (exponent : ℤ) : ℚ := coefficient * 10 ^ exponent

/-- The value of a finite decimal. -/
def value : Decimal → ℚ
  | .finite true coefficient exponent => -magnitude coefficient exponent
  | .finite false coefficient exponent => magnitude coefficient exponent
  | _ => 0

/-! ## Magnitudes -/

section

variable {c c' : ℕ} {e e' : ℤ}

theorem magnitude_nonneg : 0 ≤ magnitude c e :=
  mul_nonneg (Nat.cast_nonneg c) (zpow_nonneg (by norm_num) e)

theorem magnitude_pos_iff : 0 < magnitude c e ↔ c ≠ 0 := by
  have power : (0 : ℚ) < 10 ^ e := zpow_pos (by norm_num) e
  rw [magnitude, mul_pos_iff_of_pos_right power, Nat.cast_pos, Nat.pos_iff_ne_zero]

theorem magnitude_trim : magnitude (trim c e).1 (trim c e).2 = magnitude c e := by
  fun_induction trim c e with
  | case1 c e ends ih =>
      have tens : (c : ℚ) = (c / 10 : ℕ) * 10 := by
        have whole : c = c / 10 * 10 := by omega
        exact_mod_cast whole
      rw [ih, magnitude, magnitude, tens, zpow_add_one₀ (by norm_num)]
      ring
  | case2 => rfl

theorem trim_mod_ten (h : c ≠ 0) : (trim c e).1 % 10 ≠ 0 := by
  fun_induction trim c e with
  | case1 c e ends ih => exact ih (by omega)
  | case2 c e ends => tauto

/-- Of two coefficients of one magnitude, the one that does not end in zero has the higher exponent. -/
theorem exponent_le_of_magnitude_eq (h : c % 10 ≠ 0) (same : magnitude c e = magnitude c' e') :
    e' ≤ e := by
  by_contra! lower
  obtain ⟨k, rfl⟩ : ∃ k : ℕ, e' = e + (k + 1 : ℕ) := ⟨(e' - e - 1).toNat, by omega⟩
  have scaled : (c : ℚ) = c' * 10 ^ (k + 1) := by
    have nonzero : (10 : ℚ) ^ e ≠ 0 := zpow_ne_zero e (by norm_num)
    rw [magnitude, magnitude, zpow_add₀ (by norm_num), zpow_natCast] at same
    exact mul_right_cancel₀ nonzero (by rw [same]; ring)
  have whole : c = c' * 10 ^ (k + 1) := by exact_mod_cast scaled
  rw [whole, pow_succ, ← mul_assoc] at h
  exact h (Nat.mul_mod_left _ 10)

theorem eq_of_magnitude_eq (h : c % 10 ≠ 0) (h' : c' % 10 ≠ 0)
    (same : magnitude c e = magnitude c' e') : c = c' ∧ e = e' := by
  obtain rfl : e = e' :=
    le_antisymm (exponent_le_of_magnitude_eq h' same.symm) (exponent_le_of_magnitude_eq h same)
  have nonzero : (10 : ℚ) ^ e ≠ 0 := zpow_ne_zero e (by norm_num)
  exact ⟨by exact_mod_cast mul_right_cancel₀ nonzero same, rfl⟩

theorem trim_eq_iff (h : c ≠ 0 ∨ c' ≠ 0) :
    trim c e = trim c' e' ↔ magnitude c e = magnitude c' e' := by
  constructor
  · intro same
    rw [← magnitude_trim, same, magnitude_trim]
  · intro same
    have both : c ≠ 0 ∧ c' ≠ 0 := by
      rw [← magnitude_pos_iff (e := e), ← magnitude_pos_iff (e := e'), same] at h ⊢
      tauto
    rw [← magnitude_trim, ← magnitude_trim (c := c')] at same
    obtain ⟨digits, exponent⟩ := eq_of_magnitude_eq (trim_mod_ten both.1) (trim_mod_ten both.2) same
    exact Prod.ext digits exponent

/-! ## Values -/

/-- Unless both are zero, values are equal just where signs and magnitudes are. -/
theorem value_eq_iff {s s' : Bool} (h : c ≠ 0 ∨ c' ≠ 0) :
    (finite s c e).value = (finite s' c' e').value ↔ s = s' ∧ magnitude c e = magnitude c' e' := by
  have nonneg : 0 ≤ magnitude c e := magnitude_nonneg
  have nonneg' : 0 ≤ magnitude c' e' := magnitude_nonneg
  have positive : 0 < magnitude c e + magnitude c' e' := by
    rcases h with h | h
    · linarith [(magnitude_pos_iff (e := e)).mpr h]
    · linarith [(magnitude_pos_iff (e := e')).mpr h]
  cases s with
  | true => cases s' with
    | true => simp [value]
    | false => exact iff_of_false (fun same => by simp only [value] at same; linarith) (by simp)
  | false => cases s' with
    | true => exact iff_of_false (fun same => by simp only [value] at same; linarith) (by simp)
    | false => simp [value]

theorem value_zero {s : Bool} : (finite s 0 e).value = 0 := by
  cases s <;> simp [value, magnitude]

/-- Finite decimals are equal just where their values are. -/
theorem equals?_finite {s s' : Bool} : equals? (finite s c e) (finite s' c' e') =
    some (decide ((finite s c e).value = (finite s' c' e').value)) := by
  rw [equals?]
  split
  · next zeros =>
    obtain ⟨rfl, rfl⟩ := zeros
    simp [value_zero]
  · next apart =>
    have there : c ≠ 0 ∨ c' ≠ 0 := by tauto
    rw [Option.some_inj, Bool.eq_iff_iff, decide_eq_true_eq, value_eq_iff there, ← trim_eq_iff there]
    simp

end

end NodeRelief.Decimal
