import NodeRelief.Number.Binary64
import Mathlib.Algebra.Order.Field.Power
import Mathlib.Algebra.Order.Field.Rat
import Mathlib.Data.Nat.Log
import Mathlib.Tactic.FieldSimp
import Mathlib.Tactic.GCongr
import Mathlib.Tactic.Linarith
import Mathlib.Tactic.NormNum
import Mathlib.Tactic.Positivity
import Mathlib.Tactic.Ring

/-! # Rounding to the binary format

How far a quotient moves when it is brought to the binary format: by half a unit of its last place at
most, which is found from the power of two that the quotient is below. -/

namespace NodeRelief

/-! ## Half to even -/

section

variable {n d k : ℕ}

/-- Half to even stays at or below a whole number up to the middle behind it, and in the middle if that
number is even. -/
theorem halfEven_le_iff (hd : 0 < d) :
    halfEven n d ≤ k ↔ (n : ℚ) / d < k + 1 / 2 ∨ (n : ℚ) / d = k + 1 / 2 ∧ k % 2 = 0 := by
  have positive : (0 : ℚ) < d := by exact_mod_cast hd
  have below : (n : ℚ) / d < k + 1 / 2 ↔ 2 * n < (2 * k + 1) * d := by
    rw [div_lt_iff₀ positive, ← Nat.cast_lt (α := ℚ)]
    push_cast
    constructor <;> intro h <;> linarith
  have middle : (n : ℚ) / d = k + 1 / 2 ↔ 2 * n = (2 * k + 1) * d := by
    rw [div_eq_iff positive.ne', ← Nat.cast_inj (R := ℚ)]
    push_cast
    constructor <;> intro h <;> linarith
  have split : n = d * (n / d) + n % d := (Nat.div_add_mod n d).symm
  have rest : n % d < d := Nat.mod_lt n hd
  rw [below, middle, halfEven]
  generalize n / d = q at split ⊢
  generalize n % d = r at split rest ⊢
  subst split
  -- The quotient decides, unless it is that whole number itself.
  rcases lt_trichotomy q k with less | rfl | more
  · have lower : d * q + d ≤ d * k := by
      rw [← Nat.mul_succ]
      exact Nat.mul_le_mul_left d less
    have sum : (2 * k + 1) * d = 2 * (d * k) + d := by ring
    have up : (if 2 * r < d then q else if d < 2 * r then q + 1 else q + q % 2) ≤ k := by
      split_ifs <;> omega
    exact iff_of_true up (.inl (by omega))
  · have sum : (2 * q + 1) * d = 2 * (d * q) + d := by ring
    split_ifs <;> omega
  · have upper : d * k + d ≤ d * q := by
      rw [← Nat.mul_succ]
      exact Nat.mul_le_mul_left d more
    have sum : (2 * k + 1) * d = 2 * (d * k) + d := by ring
    have down : ¬ (if 2 * r < d then q else if d < 2 * r then q + 1 else q + q % 2) ≤ k := by
      split_ifs <;> omega
    exact iff_of_false down (by omega)

theorem abs_halfEven_sub_le (hd : 0 < d) : |(halfEven n d : ℚ) - n / d| ≤ 1 / 2 := by
  rw [abs_le]
  constructor
  · rcases (halfEven_le_iff (n := n) hd).mp le_rfl with below | ⟨middle, -⟩
    · linarith
    · linarith
  · cases h : halfEven n d with
    | zero =>
        have nonneg : (0 : ℚ) ≤ n / d := by positivity
        push_cast
        linarith
    | succ j =>
        have above : ¬ halfEven n d ≤ j := by omega
        rw [halfEven_le_iff hd, not_or, not_lt] at above
        push_cast
        linarith [above.1]

/-- No whole number that a quotient reaches is fallen short of. -/
theorem le_halfEven (hd : 0 < d) (h : (k : ℚ) ≤ n / d) : k ≤ halfEven n d := by
  by_contra! less
  have low := (halfEven_le_iff (n := n) (k := k - 1) hd).mp (by omega)
  have pred : ((k - 1 : ℕ) : ℚ) = k - 1 := by
    rw [Nat.cast_sub (by omega), Nat.cast_one]
  rw [pred] at low
  rcases low with below | ⟨middle, -⟩
  · linarith
  · linarith

/-- No whole number that a quotient stays at or below is passed. -/
theorem halfEven_le (hd : 0 < d) (h : (n : ℚ) / d ≤ k) : halfEven n d ≤ k :=
  (halfEven_le_iff hd).mpr (.inl (by linarith))

end

namespace Binary64

/-! ## Magnitudes -/

theorem two_zpow_add (e : ℤ) (k : ℕ) : (2 : ℚ) ^ (e + k) = ((2 ^ k : ℕ) : ℚ) * 2 ^ e := by
  rw [zpow_add₀ two_ne_zero, zpow_natCast, mul_comm]
  push_cast
  rfl

def magnitude (mantissa : ℕ) (exponent : ℤ) : ℚ := mantissa * 2 ^ exponent

section

variable {m : ℕ} {e : ℤ}

theorem magnitude_nonneg : 0 ≤ magnitude m e := by
  rw [magnitude]
  positivity

theorem ratio_pos (m : ℕ) (e : ℤ) : 0 < (ratio m e).2 := by
  rw [ratio]
  split
  · exact Nat.one_pos
  · exact Nat.two_pow_pos _

theorem ratio_div (m : ℕ) (e : ℤ) : ((ratio m e).1 : ℚ) / (ratio m e).2 = magnitude m e := by
  rw [ratio, magnitude]
  split
  · next nonneg =>
    obtain ⟨k, rfl⟩ := Int.eq_ofNat_of_zero_le nonneg
    simp [Nat.pow_eq]
  · next negative =>
    obtain ⟨k, hk⟩ := Int.eq_ofNat_of_zero_le (by omega : 0 ≤ -e)
    obtain rfl : e = -k := by omega
    simp [Nat.pow_eq, div_eq_mul_inv]

theorem value_finite (negative : Bool) :
    (finite negative m e).value = if negative then -magnitude m e else magnitude m e := by
  rw [value, ← ratio_div]
  simp only [Rat.mkRat_eq_div, Numeral.signed]
  split
  · push_cast
    rw [neg_div]
  · push_cast
    rfl

end

/-! ## The leading place -/

section

variable {n d : ℕ} {e : ℤ}

theorem scaled_pos (hd : 0 < d) (e : ℤ) : 0 < (scaled n d e).2 := by
  rw [scaled]
  split
  · exact Nat.mul_pos hd (Nat.two_pow_pos _)
  · exact hd

theorem scaled_div (n d : ℕ) (e : ℤ) :
    ((scaled n d e).1 : ℚ) / (scaled n d e).2 = n / d / 2 ^ e := by
  rw [scaled]
  split
  · next nonneg =>
    obtain ⟨k, rfl⟩ := Int.eq_ofNat_of_zero_le nonneg
    simp [Nat.pow_eq, div_div]
  · next negative =>
    obtain ⟨k, hk⟩ := Int.eq_ofNat_of_zero_le (by omega : 0 ≤ -e)
    obtain rfl : e = -k := by omega
    simp [Nat.pow_eq]
    ring

/-- The place that a positive number is rounded to: it has 53 places from there on, or fewer where the
format ends. -/
structure LastPlace (x : ℚ) (e : ℤ) : Prop where
  least : leastExponent ≤ e
  below : x < 2 ^ (e + 53)
  above : e ≠ leastExponent → 2 ^ (e + 52) ≤ x

theorem log2_bounds (hn : n ≠ 0) : (2 : ℚ) ^ n.log2 ≤ n ∧ (n : ℚ) < 2 ^ (n.log2 + 1) :=
  ⟨by exact_mod_cast Nat.log2_self_le hn, by exact_mod_cast Nat.lt_log2_self⟩

theorem div_bounds (hn : n ≠ 0) (hd : 0 < d) :
    (2 : ℚ) ^ ((n.log2 : ℤ) - d.log2 - 1) ≤ n / d ∧ (n : ℚ) / d < 2 ^ ((n.log2 : ℤ) - d.log2 + 1) := by
  have positive : (0 : ℚ) < d := by exact_mod_cast hd
  obtain ⟨leN, ltN⟩ := log2_bounds hn
  obtain ⟨leD, ltD⟩ := log2_bounds hd.ne'
  rw [le_div_iff₀ positive, div_lt_iff₀ positive]
  constructor
  · calc (2 : ℚ) ^ ((n.log2 : ℤ) - d.log2 - 1) * d
        ≤ 2 ^ ((n.log2 : ℤ) - d.log2 - 1) * 2 ^ (d.log2 + 1) := by gcongr
      _ = 2 ^ n.log2 := by
          rw [← zpow_natCast, ← zpow_natCast, ← zpow_add₀ two_ne_zero]
          congr 1
          push_cast
          ring
      _ ≤ n := leN
  · calc (n : ℚ) < 2 ^ (n.log2 + 1) := ltN
      _ = 2 ^ ((n.log2 : ℤ) - d.log2 + 1) * 2 ^ d.log2 := by
          rw [← zpow_natCast, ← zpow_natCast, ← zpow_add₀ two_ne_zero]
          congr 1
          push_cast
          ring
      _ ≤ 2 ^ ((n.log2 : ℤ) - d.log2 + 1) * d := by gcongr

theorem lastPlace_exponentOf (hn : n ≠ 0) (hd : 0 < d) : LastPlace ((n : ℚ) / d) (exponentOf n d) := by
  obtain ⟨low, high⟩ := div_bounds hn hd
  rw [exponentOf]
  generalize (n.log2 : ℤ) - d.log2 = s at low high ⊢
  have reaches : (scaled n d s).2 ≤ (scaled n d s).1 ↔ (2 : ℚ) ^ s ≤ n / d := by
    have positive : (0 : ℚ) < (scaled n d s).2 := by exact_mod_cast scaled_pos hd s
    have power : (0 : ℚ) < 2 ^ s := by positivity
    rw [← one_le_div₀ power, ← scaled_div, one_le_div₀ positive, Nat.cast_le]
  have exact : ∃ e, (if (scaled n d s).2 ≤ (scaled n d s).1 then s - 52 else s - 53) = e ∧
      (n : ℚ) / d < 2 ^ (e + 53) ∧ 2 ^ (e + 52) ≤ (n : ℚ) / d := by
    by_cases there : (2 : ℚ) ^ s ≤ n / d
    · refine ⟨s - 52, if_pos (reaches.mpr there), ?_, ?_⟩
      · rwa [show s - 52 + 53 = s + 1 by ring]
      · rwa [sub_add_cancel]
    · refine ⟨s - 53, if_neg fun h => there (reaches.mp h), ?_, ?_⟩
      · rw [sub_add_cancel]
        exact not_le.mp there
      · rwa [show s - 53 + 52 = s - 1 by ring]
  obtain ⟨e, chosen, below, above⟩ := exact
  simp only [chosen]
  refine ⟨le_max_right .., below.trans_le ?_, fun higher => ?_⟩
  · exact zpow_le_zpow_right₀ one_le_two (by omega)
  · rwa [show max e leastExponent = e by omega]

/-- A number below a power of two is rounded to no higher place than that power allows. -/
theorem LastPlace.le_of_lt {x : ℚ} (h : LastPlace x e) {k : ℤ} (least : leastExponent ≤ k)
    (small : x < 2 ^ (k + 53)) : e ≤ k := by
  by_cases lowest : e = leastExponent
  · rwa [lowest]
  · have := (zpow_lt_zpow_iff_right₀ one_lt_two).mp ((h.above lowest).trans_lt small)
    omega

end

/-! ## Rounding a quotient -/

/-- The mantissa of a positive quotient before it is brought below `2 ^ 53`. -/
def mantissaOf (n d : ℕ) : ℕ :=
  halfEven (scaled n d (exponentOf n d)).1 (scaled n d (exponentOf n d)).2

/-- The quotient that a positive one is rounded to. -/
def rounded (n d : ℕ) : ℚ := if n = 0 then 0 else magnitude (mantissaOf n d) (exponentOf n d)

section

variable {n d : ℕ}

theorem mantissaOf_le (hn : n ≠ 0) (hd : 0 < d) : mantissaOf n d ≤ 2 ^ 53 := by
  have place := lastPlace_exponentOf hn hd
  refine halfEven_le (scaled_pos hd _) ?_
  rw [scaled_div, div_le_iff₀ (by positivity)]
  calc (n : ℚ) / d ≤ 2 ^ (exponentOf n d + 53) := place.below.le
    _ = ((2 ^ 53 : ℕ) : ℚ) * 2 ^ exponentOf n d := two_zpow_add _ 53

theorem rounded_nonneg (n d : ℕ) : 0 ≤ rounded n d := by
  rw [rounded]
  split
  · exact le_rfl
  · exact magnitude_nonneg

theorem ofRatio_eq (negative : Bool) (hn : n ≠ 0) :
    ofRatio negative n d =
      let (m, e) := if mantissaOf n d = 2 ^ 53 then (2 ^ 52, exponentOf n d + 1)
        else (mantissaOf n d, exponentOf n d)
      if greatestExponent < e then .infinite negative else .finite negative m e := by
  rw [ofRatio, if_neg hn]
  rfl

/-- No more than 53 places, as every number has that was rounded to the format. -/
def Standard : Binary64 → Prop
  | .finite _ m _ => m < 2 ^ 53
  | _ => True

theorem standard_ofRatio (negative : Bool) (hd : 0 < d) : (ofRatio negative n d).Standard := by
  by_cases zero : n = 0
  · rw [ofRatio, if_pos zero]
    exact Nat.two_pow_pos 53
  have fits := mantissaOf_le zero hd
  rw [ofRatio_eq negative zero]
  by_cases full : mantissaOf n d = 2 ^ 53
  · rw [if_pos full]
    dsimp only
    split
    · trivial
    · exact Nat.pow_lt_pow_right (by decide) (by decide)
  · rw [if_neg full]
    dsimp only
    split
    · trivial
    · exact lt_of_le_of_ne fits full

theorem standard_ofDecimal (negative : Bool) (digits : ℕ) (scale : ℤ) :
    (ofDecimal negative digits scale).Standard := by
  simp only [ofDecimal]
  split_ifs
  · exact standard_ofRatio negative Nat.one_pos
  · trivial
  · exact standard_ofRatio negative Nat.one_pos
  · exact standard_ofRatio negative Nat.one_pos
  · exact standard_ofRatio negative (Nat.pow_pos (by decide))

/-- A quotient below the greatest power of two becomes a finite number with 53 places. -/
theorem ofRatio_finite (negative : Bool) (hd : 0 < d) (small : (n : ℚ) / d < 2 ^ (1023 : ℤ)) :
    ∃ m e, ofRatio negative n d = .finite negative m e ∧ m < 2 ^ 53 ∧
      magnitude m e = rounded n d := by
  rw [rounded]
  by_cases zero : n = 0
  · refine ⟨0, leastExponent, if_pos zero, by norm_num, ?_⟩
    rw [if_pos zero, magnitude, Nat.cast_zero, zero_mul]
  have bound : exponentOf n d ≤ 970 :=
    (lastPlace_exponentOf zero hd).le_of_lt (by decide) (by norm_num at small ⊢; exact small)
  have fits := mantissaOf_le zero hd
  rw [ofRatio_eq negative zero, if_neg zero]
  by_cases full : mantissaOf n d = 2 ^ 53
  · refine ⟨2 ^ 52, exponentOf n d + 1, ?_, by norm_num, ?_⟩
    · rw [if_pos full]
      exact if_neg (by rw [greatestExponent]; omega)
    · rw [full, magnitude, magnitude, zpow_add_one₀ two_ne_zero]
      push_cast
      ring
  · refine ⟨mantissaOf n d, exponentOf n d, ?_, by omega, rfl⟩
    rw [if_neg full]
    exact if_neg (by rw [greatestExponent]; omega)

theorem abs_rounded_sub_le_place (hn : n ≠ 0) (hd : 0 < d) :
    |rounded n d - n / d| ≤ 2 ^ exponentOf n d / 2 := by
  have power : (0 : ℚ) < 2 ^ exponentOf n d := by positivity
  have near := abs_halfEven_sub_le (n := (scaled n d (exponentOf n d)).1)
    (scaled_pos (n := n) hd (exponentOf n d))
  rw [scaled_div] at near
  have scaled : rounded n d - n / d =
      ((mantissaOf n d : ℚ) - n / d / 2 ^ exponentOf n d) * 2 ^ exponentOf n d := by
    rw [rounded, if_neg hn, magnitude, sub_mul, div_mul_cancel₀ _ power.ne']
  rw [scaled, abs_mul, abs_of_pos power]
  calc |(mantissaOf n d : ℚ) - n / d / 2 ^ exponentOf n d| * 2 ^ exponentOf n d
      ≤ 1 / 2 * 2 ^ exponentOf n d := by gcongr; exact near
    _ = 2 ^ exponentOf n d / 2 := by ring

/-- Rounding moves a quotient below `2 ^ (k + 53)` by half of `2 ^ k` at most. -/
theorem abs_rounded_sub_le {k : ℤ} (hd : 0 < d) (least : leastExponent ≤ k)
    (small : (n : ℚ) / d < 2 ^ (k + 53)) : |rounded n d - n / d| ≤ 2 ^ k / 2 := by
  by_cases zero : n = 0
  · have nothing : rounded n d - n / d = 0 := by simp [rounded, zero]
    rw [nothing, abs_zero]
    positivity
  have place := (lastPlace_exponentOf zero hd).le_of_lt least small
  calc |rounded n d - n / d| ≤ 2 ^ exponentOf n d / 2 := abs_rounded_sub_le_place zero hd
    _ ≤ 2 ^ k / 2 := by gcongr; exact one_le_two

/-- Where the format has all of its places, rounding moves a quotient by no more than `2 ^ -53` of
it. -/
theorem abs_rounded_sub_le_mul (hd : 0 < d) (normal : n = 0 ∨ 2 ^ (-1022 : ℤ) ≤ (n : ℚ) / d) :
    |rounded n d - n / d| ≤ n / d / 2 ^ 53 := by
  rcases normal with zero | normal
  · simp [rounded, zero]
  have there : n ≠ 0 := by
    rintro rfl
    rw [Nat.cast_zero, zero_div] at normal
    exact absurd normal (not_le.mpr (by positivity))
  have place := lastPlace_exponentOf there hd
  have above : (2 : ℚ) ^ (exponentOf n d + 52) ≤ n / d := by
    by_cases lowest : exponentOf n d = leastExponent
    · rwa [lowest]
    · exact place.above lowest
  calc |rounded n d - n / d| ≤ 2 ^ exponentOf n d / 2 := abs_rounded_sub_le_place there hd
    _ = 2 ^ (exponentOf n d + 52) / 2 ^ 53 := by
        rw [zpow_add₀ two_ne_zero]
        norm_num
        ring
    _ ≤ n / d / 2 ^ 53 := by gcongr

/-- A quotient is rounded to a power of two or below just where it exceeds it by half of a unit of the
last place at most. -/
theorem rounded_le_two_zpow_iff {k : ℤ} (hd : 0 < d) (normal : leastExponent + 52 ≤ k) :
    rounded n d ≤ 2 ^ k ↔ (n : ℚ) / d ≤ 2 ^ k + 2 ^ (k - 53) := by
  have extra : (0 : ℚ) < 2 ^ (k - 53) := by positivity
  by_cases zero : n = 0
  · have nothing : rounded n d = 0 := if_pos zero
    rw [nothing, zero, Nat.cast_zero, zero_div]
    exact iff_of_true (by positivity) (by positivity)
  have place := lastPlace_exponentOf zero hd
  have fits := mantissaOf_le zero hd
  have mantissa : mantissaOf n d = halfEven (scaled n d (exponentOf n d)).1
    (scaled n d (exponentOf n d)).2 := rfl
  have positive := scaled_pos (n := n) hd (exponentOf n d)
  have quotient := scaled_div n d (exponentOf n d)
  rw [rounded, if_neg zero, magnitude]
  generalize exponentOf n d = e at place mantissa positive quotient ⊢
  have power : (0 : ℚ) < 2 ^ e := by positivity
  -- Only if the last place is that of the power itself, the two sides are near each other.
  rcases lt_trichotomy e (k - 52) with lower | rfl | higher
  · have small : (2 : ℚ) ^ (e + 53) ≤ 2 ^ k := zpow_le_zpow_right₀ one_le_two (by omega)
    refine iff_of_true ?_ (by linarith [place.below])
    calc (mantissaOf n d : ℚ) * 2 ^ e ≤ ((2 ^ 53 : ℕ) : ℚ) * 2 ^ e := by gcongr
      _ = 2 ^ (e + 53) := (two_zpow_add e 53).symm
      _ ≤ 2 ^ k := small
  · have unit : (2 : ℚ) ^ k = ((2 ^ 52 : ℕ) : ℚ) * 2 ^ (k - 52) := by
      rw [zpow_sub₀ two_ne_zero]
      norm_num
      ring
    have half : (2 : ℚ) ^ (k - 53) = 1 / 2 * 2 ^ (k - 52) := by
      rw [zpow_sub₀ two_ne_zero, zpow_sub₀ two_ne_zero]
      norm_num
      ring
    rw [unit, half, ← add_mul, mul_le_mul_iff_of_pos_right power, Nat.cast_le, mantissa,
      halfEven_le_iff positive, quotient, ← div_le_iff₀ power, le_iff_lt_or_eq]
    simp
  · have large : (2 : ℚ) ^ (k + 1) ≤ 2 ^ (e + 52) := zpow_le_zpow_right₀ one_le_two (by omega)
    have above := place.above (by omega)
    have double : (2 : ℚ) ^ (k + 1) = 2 ^ k + 2 ^ k := by
      rw [zpow_add_one₀ two_ne_zero]
      ring
    have less : (2 : ℚ) ^ (k - 53) < 2 ^ k := zpow_lt_zpow_right₀ one_lt_two (by omega)
    have full : 2 ^ 52 ≤ mantissaOf n d := by
      refine mantissa ▸ le_halfEven positive ?_
      rw [quotient, le_div_iff₀ power]
      rw [← two_zpow_add e 52]
      exact above
    refine iff_of_false (not_le.mpr ?_) (not_le.mpr (by linarith))
    calc (2 : ℚ) ^ k < 2 ^ (k + 1) := zpow_lt_zpow_right₀ one_lt_two (by omega)
      _ ≤ 2 ^ (e + 52) := large
      _ = ((2 ^ 52 : ℕ) : ℚ) * 2 ^ e := two_zpow_add e 52
      _ ≤ mantissaOf n d * 2 ^ e := by gcongr

end

end Binary64

end NodeRelief
