import NodeRelief.Proofs.Number.Plain
import NodeRelief.Quantity
import Mathlib.Tactic.Positivity

/-! # Quantities as they are written

A quantity is written as a sign or none, digits with at most one point among them, and the symbol of a
multiple or none. If its value fits into 28 places, that is the value that is read. -/

namespace NodeRelief

open Text

namespace Quantity

/-! ## What is written -/

/-- What a number is taken times: a power of 1000 from nano to exa, or of 1024 from kibi to exbi. -/
inductive Multiple where
  | one
  | nano
  | micro
  | milli
  | kilo
  | mega
  | giga
  | tera
  | peta
  | exa
  | kibi
  | mebi
  | gibi
  | tebi
  | pebi
  | exbi
deriving DecidableEq, Repr

namespace Multiple

def symbol : Multiple → List Char
  | .one => []
  | .nano => ['n']
  | .micro => ['u']
  | .milli => ['m']
  | .kilo => ['k']
  | .mega => ['M']
  | .giga => ['G']
  | .tera => ['T']
  | .peta => ['P']
  | .exa => ['E']
  | .kibi => ['K', 'i']
  | .mebi => ['M', 'i']
  | .gibi => ['G', 'i']
  | .tebi => ['T', 'i']
  | .pebi => ['P', 'i']
  | .exbi => ['E', 'i']

def factor : Multiple → ℚ
  | .one => 1
  | .nano => 1000 ^ (-3 : ℤ)
  | .micro => 1000 ^ (-2 : ℤ)
  | .milli => 1000 ^ (-1 : ℤ)
  | .kilo => 1000 ^ (1 : ℤ)
  | .mega => 1000 ^ (2 : ℤ)
  | .giga => 1000 ^ (3 : ℤ)
  | .tera => 1000 ^ (4 : ℤ)
  | .peta => 1000 ^ (5 : ℤ)
  | .exa => 1000 ^ (6 : ℤ)
  | .kibi => 1024 ^ 1
  | .mebi => 1024 ^ 2
  | .gibi => 1024 ^ 3
  | .tebi => 1024 ^ 4
  | .pebi => 1024 ^ 5
  | .exbi => 1024 ^ 6

end Multiple

/-- A quantity as it is written. -/
structure Written where
  number : Numeral.Plain
  multiple : Multiple

namespace Written

variable (w : Written)

def text : String := String.ofList (w.number.text ++ w.multiple.symbol)

def value : ℚ := w.number.value * w.multiple.factor

end Written

/-! ## Suffixes -/

/-- What a number in front of a suffix is taken times. -/
inductive Suffix.Means : Suffix → ℚ → Prop where
  | none : Means .none 1
  | times (m : Multiplier) : Means (.times m) (Decimal.magnitude m.factor m.scale)

theorem decimalPower?_of_isAsciiDigit {c : Char} (h : isAsciiDigit c = true) : decimalPower? c = none := by
  rw [decimalPower?] <;> exact ne_of_isAsciiDigit h (by decide)

section

variable {s : List Char} {c : Char}

theorem split_concat (h : c ≠ 'i') : split (s ++ [c]) =
    match decimalPower? c with
    | some p => (s, .times ⟨1, 3 * p⟩)
    | none => (s ++ [c], .none) := by
  have reversed : (s ++ [c]).reverse = c :: s.reverse := by simp
  rw [split, reversed]
  split
  · next same => exact absurd (List.cons.inj same).1 h
  · next same =>
    obtain ⟨rfl, rfl⟩ := List.cons.inj same
    cases decimalPower? c <;> simp
  · next same => cases same

theorem split_pair {p : ℕ} (h : (decimalPower? c).isSome = true) (hp : binaryPower? c = some p) :
    split (s ++ [c, 'i']) = (s, .times ⟨1024 ^ p, 0⟩) := by
  simp [split, h, hp]

theorem split_symbol (h : ∀ c ∈ s.getLast?, c ≠ 'i' ∧ decimalPower? c = none) (m : Multiple) :
    ∃ suffix, split (s ++ m.symbol) = (s, suffix) ∧ suffix.Means m.factor := by
  have bare : split s = (s, .none) := by
    obtain rfl | ⟨s, c, rfl⟩ := List.eq_nil_or_concat s
    · rfl
    · obtain ⟨plain, digit⟩ := h c (by simp)
      rw [List.concat_eq_append, split_concat plain, digit]
  have letter {c : Char} {p : ℤ} (hc : c ≠ 'i') (hp : decimalPower? c = some p) :
      ∃ suffix, split (s ++ [c]) = (s, suffix) ∧ suffix.Means (1000 ^ p) := by
    refine ⟨_, by rw [split_concat hc, hp], ?_⟩
    have means := Suffix.Means.times ⟨1, 3 * p⟩
    rw [Decimal.magnitude, zpow_mul] at means
    norm_num at means
    exact means
  have pair {c : Char} {p : ℕ} (hc : (decimalPower? c).isSome = true) (hp : binaryPower? c = some p) :
      ∃ suffix, split (s ++ [c, 'i']) = (s, suffix) ∧ suffix.Means (1024 ^ p) := by
    refine ⟨_, split_pair hc hp, ?_⟩
    have means := Suffix.Means.times ⟨1024 ^ p, 0⟩
    rw [Decimal.magnitude, zpow_zero, mul_one] at means
    exact_mod_cast means
  cases m with
  | one => exact ⟨.none, by simpa [Multiple.symbol] using bare, .none⟩
  | nano | micro | milli | kilo | mega | giga | tera | peta | exa => exact letter (by decide) rfl
  | kibi | mebi | gibi | tebi | pebi | exbi => exact pair rfl rfl

end

/-! ## Values -/

theorem Multiple.le_factor (m : Multiple) : 1 / 10 ^ 9 ≤ m.factor := by
  cases m <;> norm_num [factor]

theorem Multiple.factor_le (m : Multiple) : m.factor ≤ 10 ^ 19 := by
  cases m <;> norm_num [factor]

namespace Written

variable {w : Written}

theorem value_eq : w.value = w.number.sign.apply
    (Decimal.magnitude w.number.coefficient (-w.number.places) * w.multiple.factor) := by
  rw [value, Numeral.Plain.value_eq, Numeral.Sign.apply_mul]

/-- A number that is no longer than its value takes to write can be read. -/
theorem readable (h : Decimal.Fits w.value) (nonzero : w.number.coefficient ≠ 0) :
    Decimal.readable w.number.coefficient (-w.number.places) = true := by
  set c := w.number.coefficient
  set e : ℤ := -w.number.places
  have positive : 0 < Decimal.magnitude c e := Decimal.magnitude_pos_iff.mpr nonzero
  have least := w.multiple.le_factor
  have most := w.multiple.factor_le
  have product : Decimal.Fits (Decimal.magnitude c e * w.multiple.factor) := by
    rwa [value_eq, Numeral.Sign.fits_apply] at h
  have size : |Decimal.magnitude c e * w.multiple.factor| =
      Decimal.magnitude c e * w.multiple.factor := abs_of_nonneg (by positivity)
  have small := product.small
  have large := product.le_abs (by positivity)
  rw [size] at small large
  have below : Decimal.magnitude c e < 10 ^ (28 : ℤ) := by
    norm_num at least small ⊢
    nlinarith
  have above : 10 ^ (-28 : ℤ) ≤ Decimal.magnitude c e := by
    norm_num at most large ⊢
    nlinarith
  have := Decimal.places_le nonzero below
  have := Decimal.lt_places above
  rw [Decimal.readable, Bool.and_eq_true, Bool.or_eq_true, decide_eq_true_eq, decide_eq_true_eq,
    Decimal.mostReadable, Decimal.leastLeading]
  exact ⟨by omega, .inl (by omega)⟩

theorem split_text : ∃ suffix,
    split w.text.toList = (w.number.text, suffix) ∧ suffix.Means w.multiple.factor := by
  have final := w.number.forall_mem_text (P := fun c => c ≠ 'i' ∧ decimalPower? c = none)
    (fun c hc => ⟨ne_of_isAsciiDigit hc (by decide), decimalPower?_of_isAsciiDigit hc⟩)
    (by decide) (by decide) (by decide)
  rw [text, String.toList_ofList]
  exact split_symbol (fun c hc => final c (List.mem_of_mem_getLast? hc)) w.multiple

/-- The value of what is written is read without rounding. -/
theorem read_text (h : Decimal.Fits w.value) : ∃ s c e,
    read w.text = .finite s c e ∧ (Decimal.finite s c e).value = w.value := by
  obtain ⟨suffix, parts, means⟩ := w.split_text
  have number := Decimal.ofText?_plain w.number
  have zeros := mt (readable h)
  rw [value_eq] at h ⊢
  rw [read, parse?, parts]
  generalize w.multiple.factor = factor at h means ⊢
  by_cases spelled : Decimal.readable w.number.coefficient (-w.number.places) = true
  · rw [if_pos spelled] at number
    cases means with
    | none =>
        refine ⟨_, _, _, by simp only [number]; rfl, ?_⟩
        rw [Numeral.Sign.value_finite, mul_one]
    | times m =>
        rw [Decimal.magnitude_mul, Numeral.Sign.fits_apply] at h
        obtain ⟨c, e, rounded, same⟩ := Decimal.round?_of_fits w.number.sign.isMinus h
        refine ⟨_, c, e, by simp only [number, Option.bind_some, Decimal.scale?, rounded]; rfl, ?_⟩
        rw [Numeral.Sign.value_finite, same, Decimal.magnitude_mul]
  · -- Zeros without end are read as no number, and so as zero.
    rw [if_neg spelled] at number
    refine ⟨false, 0, 0, by cases means <;> simp [number, Decimal.zero], ?_⟩
    rw [not_not.mp (zeros spelled), Decimal.value_zero, Decimal.magnitude, Nat.cast_zero, zero_mul,
      zero_mul, Numeral.Sign.apply_zero]

end Written

end Quantity

end NodeRelief
