import NodeRelief.Proofs.Number.Binary64
import NodeRelief.Proofs.Time.Instant
import NodeRelief.Time.Seconds

/-! # Seconds in the binary format

What becomes of a duration that is told in seconds of the binary format, and of such seconds that are
taken for a duration. -/

namespace NodeRelief

open Binary64 (magnitude rounded)

/-! ## Durations told in seconds -/

namespace Seconds

theorem ofRatio_micros (negative : Bool) {n : ℕ} (small : n < 10 ^ 20) :
    ∃ m e, Binary64.ofRatio negative n 1000000 = .finite negative m e ∧
      |magnitude m e - (n : ℚ) / 10 ^ 6| ≤ (n : ℚ) / 10 ^ 6 / 2 ^ 53 := by
  have bound : (n : ℚ) < 10 ^ 20 := by exact_mod_cast small
  have million : ((1000000 : ℕ) : ℚ) = 10 ^ 6 := by norm_num
  have finite : (n : ℚ) / (1000000 : ℕ) < 2 ^ (1023 : ℤ) := by
    calc (n : ℚ) / (1000000 : ℕ) < 2 ^ (50 : ℤ) := by
          rw [div_lt_iff₀ (by norm_num)]
          norm_num
          linarith
      _ ≤ 2 ^ (1023 : ℤ) := zpow_le_zpow_right₀ one_le_two (by decide)
  have normal : n = 0 ∨ 2 ^ (-1022 : ℤ) ≤ (n : ℚ) / (1000000 : ℕ) := by
    rcases Nat.eq_zero_or_pos n with zero | there
    · exact .inl zero
    · have one : (1 : ℚ) ≤ n := by exact_mod_cast there
      right
      calc (2 : ℚ) ^ (-1022 : ℤ) ≤ 2 ^ (-20 : ℤ) := zpow_le_zpow_right₀ one_le_two (by decide)
        _ ≤ 1 / (1000000 : ℕ) := by norm_num
        _ ≤ n / (1000000 : ℕ) := by gcongr
  obtain ⟨m, e, told, -, value⟩ := Binary64.ofRatio_finite negative (by decide) finite
  have near := Binary64.abs_rounded_sub_le_mul (by decide) normal
  rw [← value, million] at near
  exact ⟨m, e, told, near⟩

/-- A duration is told in seconds up to `2 ^ -53` of it. -/
theorem abs_value_ofDuration_sub_le (d : Duration) :
    |(ofDuration d).value - d.micros / 10 ^ 6| ≤ |(d.micros : ℚ)| / 10 ^ 6 / 2 ^ 53 := by
  have small : d.micros.natAbs < 10 ^ 20 := by
    have := d.ge_least
    have := d.le_most
    omega
  obtain ⟨m, e, told, near⟩ := ofRatio_micros (decide (d.micros < 0)) small
  have size : ((d.micros.natAbs : ℕ) : ℚ) = |(d.micros : ℚ)| := by
    rw [Nat.cast_natAbs, Int.cast_abs]
  rw [size] at near
  rw [ofDuration, Number.value, told, Binary64.value_finite]
  by_cases negative : d.micros < 0
  · have below : (d.micros : ℚ) < 0 := by exact_mod_cast negative
    have flipped : -magnitude m e - d.micros / 10 ^ 6 =
        -(magnitude m e - -(d.micros : ℚ) / 10 ^ 6) := by ring
    rw [abs_of_neg below] at near
    rw [if_pos (decide_eq_true negative), abs_of_neg below, flipped, abs_neg]
    exact near
  · have above : (0 : ℚ) ≤ d.micros := by exact_mod_cast not_lt.mp negative
    rw [abs_of_nonneg above] at near
    rwa [if_neg (by simpa using negative), abs_of_nonneg above]

/-- Up to `2 ^ 32` seconds a duration is told to the microsecond. -/
theorem abs_micros_ofDuration_sub_lt {d : Duration} (h : |d.micros| ≤ 2 ^ 32 * 1000000) :
    |(ofDuration d).value * 10 ^ 6 - d.micros| < 1 / 2 := by
  have near := abs_value_ofDuration_sub_le d
  have size : |(d.micros : ℚ)| ≤ 2 ^ 32 * 10 ^ 6 := by exact_mod_cast h
  have million : (ofDuration d).value * 10 ^ 6 - d.micros =
      ((ofDuration d).value - d.micros / 10 ^ 6) * 10 ^ 6 := by ring
  rw [million, abs_mul]
  calc |(ofDuration d).value - d.micros / 10 ^ 6| * |(10 : ℚ) ^ 6|
      ≤ |(d.micros : ℚ)| / 10 ^ 6 / 2 ^ 53 * |(10 : ℚ) ^ 6| := by gcongr
    _ ≤ 2 ^ 32 * 10 ^ 6 / 10 ^ 6 / 2 ^ 53 * |(10 : ℚ) ^ 6| := by gcongr
    _ < 1 / 2 := by norm_num

/-- A number of seconds that is a duration to `2 ^ -53` of it, and up to `2 ^ 32` seconds to the
microsecond. -/
structure Tells (s : Seconds) (d : Duration) : Prop where
  near : |s.value - d.micros / 10 ^ 6| ≤ |(d.micros : ℚ)| / 10 ^ 6 / 2 ^ 53
  nearest : |d.micros| ≤ 2 ^ 32 * 1000000 → |s.value * 10 ^ 6 - d.micros| < 1 / 2

theorem tells_ofDuration (d : Duration) : (ofDuration d).Tells d :=
  ⟨abs_value_ofDuration_sub_le d, abs_micros_ofDuration_sub_lt⟩

end Seconds

/-! ## Seconds taken for a duration -/

namespace Duration

section

variable {n d : ℕ}

/-- The microseconds in `n / d` seconds before they are brought to a whole number. Only the fraction of
a second has been rounded then. -/
def unsettledMicros (n d : ℕ) : ℚ := ((n / d : ℕ) : ℚ) * 10 ^ 6 + rounded (n % d * 1000000) d

theorem micros_split (n : ℕ) (hd : 0 < d) :
    (n : ℚ) / d * 10 ^ 6 = ((n / d : ℕ) : ℚ) * 10 ^ 6 + ((n % d * 1000000 : ℕ) : ℚ) / d := by
  have positive : (0 : ℚ) < d := by exact_mod_cast hd
  have split : (n : ℚ) = d * (n / d : ℕ) + (n % d : ℕ) := by exact_mod_cast (Nat.div_add_mod n d).symm
  push_cast
  rw [← mul_left_inj' positive.ne']
  field_simp
  rw [mul_comm]
  linarith

theorem fraction_lt (n : ℕ) (hd : 0 < d) : ((n % d * 1000000 : ℕ) : ℚ) / d < 10 ^ 6 := by
  have positive : (0 : ℚ) < d := by exact_mod_cast hd
  have below : ((n % d : ℕ) : ℚ) < d := by exact_mod_cast Nat.mod_lt n hd
  rw [div_lt_iff₀ positive]
  push_cast
  linarith

theorem abs_unsettledMicros_sub_le (n : ℕ) (hd : 0 < d) :
    |unsettledMicros n d - n / d * 10 ^ 6| ≤ 1 / 2 ^ 34 := by
  have small : ((n % d * 1000000 : ℕ) : ℚ) / d < 2 ^ ((-33 : ℤ) + 53) :=
    (fraction_lt n hd).trans (by norm_num)
  have near := Binary64.abs_rounded_sub_le hd (by decide) small
  have difference : unsettledMicros n d - n / d * 10 ^ 6 =
      rounded (n % d * 1000000) d - ((n % d * 1000000 : ℕ) : ℚ) / d := by
    rw [unsettledMicros, micros_split n hd, add_sub_add_left_eq_sub]
  rw [difference]
  exact near.trans (by norm_num)

theorem unsettledMicros_le_half_iff (n : ℕ) (hd : 0 < d) :
    unsettledMicros n d ≤ 1 / 2 ↔ (n : ℚ) / d * 10 ^ 6 ≤ 1 / 2 + 1 / 2 ^ 54 := by
  have fraction : (0 : ℚ) ≤ ((n % d * 1000000 : ℕ) : ℚ) / d := by positivity
  have least := Binary64.rounded_nonneg (n % d * 1000000) d
  rw [unsettledMicros, micros_split n hd]
  rcases Nat.eq_zero_or_pos (n / d) with zero | there
  · have half := Binary64.rounded_le_two_zpow_iff (n := n % d * 1000000) (k := -1) hd (by decide)
    rw [zero, Nat.cast_zero, zero_mul, zero_add, zero_add]
    norm_num at half ⊢
    exact half
  · have one : (1 : ℚ) ≤ (n / d : ℕ) := by exact_mod_cast there
    exact iff_of_false (by linarith) (by linarith)

theorem microsOfSeconds?_finite {negative negative' : Bool} {m m' n' d' : ℕ} {e e' : ℤ}
    (seconds : Binary64.ratio m e = (n, d))
    (fraction : Binary64.ofRatio false (n % d * 1000000) d = .finite negative' m' e')
    (settled : Binary64.ratio m' e' = (n', d')) :
    microsOfSeconds? (.finite negative m e) =
      some (if negative then -(halfEven (n / d * 1000000 * d' + n') d' : ℤ)
        else halfEven (n / d * 1000000 * d' + n') d') := by
  -- Opened before it is applied and with the rounding as a variable: the rounding of a product with a
  -- literal takes long to reduce, and the match on it would ask for that.
  obtain ⟨taken, opened, round, named⟩ :
      ∃ taken, taken = microsOfSeconds? ∧ ∃ round, round = Binary64.ofRatio := ⟨_, rfl, _, rfl⟩
  rw [← opened]
  delta microsOfSeconds? at opened
  rw [← named] at opened fraction
  simp only [opened, seconds, fraction, settled]

end

theorem microsOfSeconds?_spec {x : Binary64} (finite : x.isFinite = true)
    (positive : x.isPositive = true) : ∃ us : ℕ, microsOfSeconds? x = some (us : ℤ) ∧
      |us - x.value * 10 ^ 6| ≤ 1 / 2 + 1 / 2 ^ 34 ∧
      (us = 0 ↔ x.value * 10 ^ 6 ≤ 1 / 2 + 1 / 2 ^ 54) := by
  cases x with
  | nan | infinite => cases finite
  | finite negative m e =>
    obtain ⟨rfl, -⟩ : negative = false ∧ m ≠ 0 := by simpa [Binary64.isPositive] using positive
    have hd := Binary64.ratio_pos m e
    rw [Binary64.value_finite, if_neg (by decide), ← Binary64.ratio_div]
    obtain ⟨⟨n, d⟩, seconds⟩ : ∃ r, Binary64.ratio m e = r := ⟨_, rfl⟩
    rw [seconds] at hd ⊢
    have bound : ((n % d * 1000000 : ℕ) : ℚ) / d < 2 ^ (1023 : ℤ) :=
      (fraction_lt n hd).trans_le <|
        calc (10 : ℚ) ^ 6 ≤ 2 ^ (20 : ℤ) := by norm_num
          _ ≤ 2 ^ (1023 : ℤ) := zpow_le_zpow_right₀ one_le_two (by decide)
    obtain ⟨m', e', fraction, -, value⟩ := Binary64.ofRatio_finite false hd bound
    have hd' := Binary64.ratio_pos m' e'
    have quotient := Binary64.ratio_div m' e'
    obtain ⟨⟨n', d'⟩, settled⟩ : ∃ r, Binary64.ratio m' e' = r := ⟨_, rfl⟩
    rw [settled] at hd' quotient
    have positive' : (0 : ℚ) < d' := by exact_mod_cast hd'
    have sum : ((n / d * 1000000 * d' + n' : ℕ) : ℚ) / d' = unsettledMicros n d := by
      rw [unsettledMicros, ← value, ← quotient]
      push_cast
      field_simp
      ring
    have nearest := abs_halfEven_sub_le (n := n / d * 1000000 * d' + n') hd'
    have near := abs_unsettledMicros_sub_le n hd
    have zero := halfEven_le_iff (n := n / d * 1000000 * d' + n') (k := 0) hd'
    rw [sum] at nearest zero
    refine ⟨halfEven (n / d * 1000000 * d' + n') d',
      microsOfSeconds?_finite seconds fraction settled, ?_, ?_⟩
    · calc |(halfEven (n / d * 1000000 * d' + n') d' : ℚ) - n / d * 10 ^ 6|
          ≤ |(halfEven (n / d * 1000000 * d' + n') d' : ℚ) - unsettledMicros n d| +
            |unsettledMicros n d - n / d * 10 ^ 6| := abs_sub_le ..
        _ ≤ 1 / 2 + 1 / 2 ^ 34 := add_le_add nearest near
    · rw [← unsettledMicros_le_half_iff n hd, ← Nat.le_zero, zero, le_iff_lt_or_eq]
      simp

/-- A number of the format that is below the seconds of `10 ^ 9` days is below them by more than the
rounding makes up for. -/
theorem magnitude_le_of_lt {m : ℕ} {e : ℤ} (standard : m < 2 ^ 53)
    (below : magnitude m e < 86400000000000) : magnitude m e ≤ 86400000000000 - 1 / 64 := by
  rw [magnitude] at below ⊢
  rcases le_or_gt (-6) e with coarse | fine
  · obtain ⟨k, hk⟩ := Int.eq_ofNat_of_zero_le (by omega : 0 ≤ e + 6)
    have split : (m : ℚ) * 2 ^ e = ((m * 2 ^ k : ℕ) : ℚ) / 64 := by
      rw [show e = -6 + (k : ℤ) by omega, Binary64.two_zpow_add]
      push_cast
      norm_num
      ring
    rw [split, div_lt_iff₀ (by norm_num)] at below
    have whole : m * 2 ^ k < 86400000000000 * 64 := by exact_mod_cast below
    have step : ((m * 2 ^ k : ℕ) : ℚ) ≤ 86400000000000 * 64 - 1 := by
      rw [le_sub_iff_add_le]
      exact_mod_cast whole
    rw [split, div_le_iff₀ (by norm_num)]
    linarith
  · have short : (m : ℚ) ≤ 2 ^ 53 := by exact_mod_cast standard.le
    calc (m : ℚ) * 2 ^ e ≤ 2 ^ 53 * 2 ^ (-7 : ℤ) := by
          gcongr
          · exact one_le_two
          · omega
      _ ≤ 86400000000000 - 1 / 64 := by norm_num

theorem value_le_of_lt {x : Binary64} (standard : x.Standard) (below : x.value < 86400000000000) :
    x.value ≤ 86400000000000 - 1 / 64 := by
  cases x with
  | nan | infinite => norm_num [Binary64.value]
  | finite negative m e =>
    rw [Binary64.value_finite] at below ⊢
    split at below
    · next minus =>
      rw [if_pos minus]
      linarith [Binary64.magnitude_nonneg (m := m) (e := e)]
    · next plus =>
      rw [if_neg plus]
      exact magnitude_le_of_lt standard below

theorem exists_ofMicros?_iff {us : ℕ} : (∃ d, ofMicros? us = some d) ↔ us ≤ 86399999999999999999 := by
  simp only [ofMicros?_eq_some_iff]
  constructor
  · rintro ⟨d, told⟩
    have := d.le_most
    omega
  · intro few
    exact ⟨⟨us, by omega, by omega⟩, rfl⟩

section

variable {x : Binary64}

theorem ofSeconds?_eq (finite : x.isFinite = true) (positive : x.isPositive = true) :
    ∃ us : ℕ, ofSeconds? x = ofMicros? us ∧ |us - x.value * 10 ^ 6| ≤ 1 / 2 + 1 / 2 ^ 34 ∧
      (us = 0 ↔ x.value * 10 ^ 6 ≤ 1 / 2 + 1 / 2 ^ 54) := by
  obtain ⟨us, taken, spec⟩ := microsOfSeconds?_spec finite positive
  exact ⟨us, by rw [ofSeconds?, taken, Option.bind_some], spec⟩

theorem isFinite_of_ofSeconds? {d : Duration} (taken : ofSeconds? x = some d) :
    x.isFinite = true := by
  cases x with
  | finite => rfl
  | nan | infinite => cases taken

/-- Just the numbers of seconds that have fewer than `10 ^ 9` days make a duration. -/
theorem exists_ofSeconds?_iff (standard : x.Standard) (positive : x.isPositive = true) :
    (∃ d, ofSeconds? x = some d) ↔ x.isFinite = true ∧ x.value < 86400000000000 := by
  have fits (finite : x.isFinite = true) :
      (∃ d, ofSeconds? x = some d) ↔ x.value < 86400000000000 := by
    obtain ⟨us, taken, near, -⟩ := ofSeconds?_eq finite positive
    rw [taken, exists_ofMicros?_iff]
    rw [abs_le] at near
    constructor
    · intro few
      have few : (us : ℚ) ≤ 86399999999999999999 := by exact_mod_cast few
      linarith
    · intro below
      have gap := value_le_of_lt standard below
      have few : (us : ℚ) < 86399999999999999999 + 1 := by linarith
      exact Nat.lt_succ_iff.mp (by exact_mod_cast few)
  constructor
  · rintro ⟨d, taken⟩
    have finite := isFinite_of_ofSeconds? taken
    exact ⟨finite, (fits finite).mp ⟨d, taken⟩⟩
  · rintro ⟨finite, below⟩
    exact (fits finite).mpr below

/-- A positive number of seconds becomes the nearest duration, up to what its fraction was rounded by
before, and comes to nothing up to half a microsecond and what the format does not tell from that. -/
theorem ofSeconds?_spec {d : Duration} (positive : x.isPositive = true)
    (taken : ofSeconds? x = some d) :
    0 ≤ d.micros ∧ |d.micros - x.value * 10 ^ 6| ≤ 1 / 2 + 1 / 2 ^ 34 ∧
      (0 < d.micros ↔ 1 / 2 + 1 / 2 ^ 54 < x.value * 10 ^ 6) := by
  obtain ⟨us, told, near, zero⟩ := ofSeconds?_eq (isFinite_of_ofSeconds? taken) positive
  have micros : d.micros = us := ofMicros?_eq_some_iff.mp (told ▸ taken)
  rw [micros, Int.cast_natCast, ← not_le (a := x.value * 10 ^ 6), ← zero]
  exact ⟨by omega, near, by omega⟩

end

end Duration

end NodeRelief
