import NodeRelief.Time.Instant
import Mathlib.Tactic.Common

/-! # Days and their numbers

The year, the month and the day of a day number are a date with that number. -/

namespace NodeRelief

open Calendar

namespace Calendar

/-! ## The length of a year -/

@[simp] theorem total_nil : total [] = 0 := rfl

@[simp] theorem total_cons (length : Nat) (rest : List Nat) :
    total (length :: rest) = length + total rest := rfl

theorem total_monthLengths (y : Nat) : total (monthLengths y) = if isLeap y then 366 else 365 := by
  simp only [monthLengths]
  split <;> rfl

theorem isLeap_iff (y : Nat) : isLeap y = true ↔ 4 ∣ y ∧ (¬ 100 ∣ y ∨ 400 ∣ y) := by
  simp [isLeap, Nat.dvd_iff_mod_eq_zero]

/-- A year has as many days as its months. -/
theorem daysThrough_succ (y : Nat) :
    daysThrough (y + 1) = daysThrough y + total (monthLengths (y + 1)) := by
  have fourth : (y + 1) / 4 = y / 4 + if 4 ∣ y + 1 then 1 else 0 := Nat.succ_div
  have hundredth : (y + 1) / 100 = y / 100 + if 100 ∣ y + 1 then 1 else 0 := Nat.succ_div
  have fourHundredth : (y + 1) / 400 = y / 400 + if 400 ∣ y + 1 then 1 else 0 := Nat.succ_div
  rw [total_monthLengths, daysThrough, daysThrough, fourth, hundredth, fourHundredth]
  simp only [isLeap_iff]
  by_cases h4 : 4 ∣ y + 1
  · by_cases h100 : 100 ∣ y + 1
    · by_cases h400 : 400 ∣ y + 1
      · rw [if_pos h4, if_pos h100, if_pos h400, if_pos ⟨h4, .inr h400⟩]
        omega
      · rw [if_pos h4, if_pos h100, if_neg h400, if_neg (by simp [h100, h400])]
        omega
    · have h400 : ¬ 400 ∣ y + 1 := fun h => h100 (Nat.dvd_trans (by decide) h)
      rw [if_pos h4, if_neg h100, if_neg h400, if_pos ⟨h4, .inl h100⟩]
      omega
  · have h100 : ¬ 100 ∣ y + 1 := fun h => h4 (Nat.dvd_trans (by decide) h)
    have h400 : ¬ 400 ∣ y + 1 := fun h => h4 (Nat.dvd_trans (by decide) h)
    rw [if_neg h4, if_neg h100, if_neg h400, if_neg (by simp [h4])]
    omega

theorem daysThrough_mono {x y : Nat} (h : x ≤ y) : daysThrough x ≤ daysThrough y := by
  induction h with
  | refl => exact Nat.le_refl _
  | step _ ih =>
      rw [daysThrough_succ]
      exact Nat.le_add_right_of_le ih

end Calendar

namespace Date

/-! ## From numbers to dates -/

/-- The year of a day number begins before that day and does not end before it. -/
theorem yearOfNumber_spec {n : Nat} (h : 1 ≤ n) :
    1 ≤ yearOfNumber n ∧ daysThrough (yearOfNumber n - 1) < n ∧ n ≤ daysThrough (yearOfNumber n) := by
  simp only [yearOfNumber]
  have lower : 146097 * (400 * (n - 1) / 146097) ≤ 400 * (n - 1) := Nat.mul_div_le _ _
  have upper : 400 * (n - 1) < 146097 * (400 * (n - 1) / 146097 + 1) := by omega
  generalize 400 * (n - 1) / 146097 = q at lower upper
  simp only [Nat.add_sub_cancel]
  split
  · next late =>
    refine ⟨by omega, late, ?_⟩
    simp only [daysThrough]
    omega
  · next notLate =>
    split
    · next early =>
      refine ⟨?_, ?_, early⟩
      · by_contra hq
        obtain rfl : q = 0 := by omega
        have : n ≤ 0 := early
        omega
      · simp only [daysThrough]
        omega
    · next notEarly => exact ⟨by omega, by simpa using notEarly, by simpa using notLate⟩

theorem lt_yearOfNumber {y n : Nat} (h : daysThrough y < n) : y < yearOfNumber n := by
  by_contra early
  have hend := (yearOfNumber_spec (n := n) (by omega)).2.2
  have := daysThrough_mono (show yearOfNumber n ≤ y by omega)
  omega

/-- Counting months off ends in a month that has the day. -/
theorem monthDay_spec {lengths : List Nat} {m n : Nat} (h : 1 ≤ n) (hn : n ≤ total lengths) :
    ∃ i d, monthDay m n lengths = (m + i, d) ∧ i < lengths.length ∧ 1 ≤ d ∧
      d ≤ lengths.getD i 0 ∧ total (lengths.take i) + d = n := by
  induction lengths generalizing m n with
  | nil =>
      rw [total_nil] at hn
      omega
  | cons length rest ih =>
      rw [total_cons] at hn
      simp only [monthDay]
      by_cases hfirst : n ≤ length
      · exact ⟨0, n, by simp [hfirst], by simp, h, by simpa using hfirst, by simp⟩
      · obtain ⟨i, d, hmd, hi, hd, hle, hsum⟩ :=
          ih (m := m + 1) (n := n - length) (by omega) (by omega)
        refine ⟨i + 1, d, ?_, by simpa using hi, hd, by simpa using hle, ?_⟩
        · rw [if_neg hfirst, hmd, Nat.add_assoc, Nat.add_comm 1 i]
        · rw [List.take_succ_cons, total_cons]
          omega

/-- The parts of a day number in the calendar are a date, and the date has that number. -/
theorem partsOfNumber_spec {n : Nat} (h : 1 ≤ n) (hn : n ≤ daysThrough mostYear) :
    ∃ date : Date, date.number = n ∧ date.year = yearOfNumber n ∧
      partsOfNumber n = (date.year, date.month, date.day) := by
  obtain ⟨hy, hbegin, hend⟩ := yearOfNumber_spec h
  have hlast : yearOfNumber n ≤ mostYear := by
    by_contra beyond
    have := daysThrough_mono (show mostYear ≤ yearOfNumber n - 1 by omega)
    omega
  have hlengths := daysThrough_succ (yearOfNumber n - 1)
  rw [Nat.sub_add_cancel hy] at hlengths
  obtain ⟨i, d, hmd, hi, hd, hle, hsum⟩ := monthDay_spec (m := 1)
    (show 1 ≤ n - daysThrough (yearOfNumber n - 1) by omega)
    (show n - daysThrough (yearOfNumber n - 1) ≤ total (monthLengths (yearOfNumber n)) by omega)
  have hi : i < 12 := hi
  refine ⟨⟨yearOfNumber n, 1 + i, d, hy, hlast, by omega, by omega, hd, ?_⟩, ?_, rfl, ?_⟩
  · simpa [daysInMonth] using hle
  · simp only [number, daysBeforeMonth, Nat.add_sub_cancel_left]
    omega
  · simp [partsOfNumber, hmd]

theorem make?_parts (date : Date) : make? date.year date.month date.day = some date := by
  have valid := And.intro date.year_pos (And.intro date.year_le (And.intro date.month_pos
    (And.intro date.month_le (And.intro date.day_pos date.day_le))))
  simp [make?, valid]

theorem day_le_31 (date : Date) : date.day ≤ 31 := by
  have bound : ∀ length ∈ monthLengths date.year, length ≤ 31 := by
    simp only [monthLengths]
    split <;> decide
  refine Nat.le_trans date.day_le ?_
  simp only [daysInMonth]
  rw [List.getD_eq_getElem?_getD]
  cases h : (monthLengths date.year)[date.month - 1]? with
  | none => simp
  | some length => exact bound length (List.mem_of_getElem? h)

end Date

end NodeRelief
