import NodeRelief.Proofs.Cooldown
import Mathlib.Order.Bounds.Defs

/-! # The least deadline

Of the whole seconds that are not before twice the interval from now, to the second, and that are later
than the previous deadline, the next deadline is the first. That it grows with all that it is made from
follows from this, and that the zone of the clock makes no difference from its closed form. -/

namespace NodeRelief.Cooldown

/-- A whole second that is late enough for a deadline. -/
structure Suits (now : LocalTime) (interval : Duration) (previous : Option Instant) (u : Instant) :
    Prop where
  whole : u.floorSecond = u
  ahead : Instant.wholeSecond (now.micros + 2 * interval.micros) ≤ u.micros
  later : ∀ p ∈ previous, p < u

section

variable {now now' : LocalTime} {interval interval' : Duration} {previous previous' : Option Instant}
  {t u : Instant}

/-- What is late enough at a later time, after a longer interval and after a later deadline is late enough
before. -/
theorem Suits.mono (suits : Suits now' interval' previous' u) (hnow : now.micros ≤ now'.micros)
    (hinterval : interval.micros ≤ interval'.micros)
    (hprevious : ∀ p ∈ previous, ∃ p' ∈ previous', p ≤ p') : Suits now interval previous u := by
  refine ⟨suits.whole, ?_, fun p hp => ?_⟩
  · exact Int.le_trans (Instant.wholeSecond_mono (by omega)) suits.ahead
  · obtain ⟨p', hp', earlier⟩ := hprevious p hp
    exact Int.lt_of_le_of_lt earlier (suits.later p' hp')

theorem isLeast_next? (h : next? now interval previous = some t) :
    IsLeast {u | Suits now interval previous u} t := by
  have whole := floorSecond_next? h
  obtain ⟨-, closed⟩ := next?_eq_some_iff.mp h
  obtain ⟨ahead, later⟩ := (nextMicros_le_iff whole).mp (Int.le_of_eq closed.symm)
  refine ⟨⟨whole, ahead, later⟩, fun u suits => ?_⟩
  -- the two bounds of a whole second that suits are those of `nextMicros`
  change t.micros ≤ u.micros
  rw [closed]
  exact (nextMicros_le_iff suits.whole).mpr ⟨suits.ahead, suits.later⟩

theorem next?_mono (h : next? now interval previous = some t)
    (h' : next? now' interval' previous' = some u) (hnow : now.micros ≤ now'.micros)
    (hinterval : interval.micros ≤ interval'.micros)
    (hprevious : ∀ p ∈ previous, ∃ p' ∈ previous', p ≤ p') : t ≤ u :=
  (isLeast_next? h).2 ((isLeast_next? h').1.mono hnow hinterval hprevious)

theorem exists_next?_iff :
    (∃ t, next? now interval previous = some t) ↔ WithinCalendar now interval previous := by
  refine ⟨fun ⟨_, h⟩ => (next?_eq_some_iff.mp h).1, fun within => ?_⟩
  obtain ⟨u, twice⟩ := within.utc
  have floor : Instant.InCalendar (Instant.wholeSecond (now.micros + 2 * interval.micros)) :=
    ⟨u.floorSecond, congrArg Instant.wholeSecond twice⟩
  have made : Instant.InCalendar (nextMicros now interval previous) := by
    cases previous with
    | none => exact floor
    | some p =>
        rcases Int.lt_or_le p.micros (Instant.wholeSecond (now.micros + 2 * interval.micros)) with
          late | early
        · rwa [nextMicros_of_lt late]
        · rw [nextMicros_of_le early]
          exact within.after p rfl early
  obtain ⟨t, closed⟩ := made
  exact ⟨t, next?_eq_some_iff.mpr ⟨within, closed⟩⟩

/-- On a clock in another zone that shows the same time the next deadline is the same. -/
theorem next?_of_micros_eq (h : next? now interval previous = some t) (same : now'.micros = now.micros)
    (within : WithinCalendar now' interval previous) : next? now' interval previous = some t := by
  obtain ⟨-, closed⟩ := next?_eq_some_iff.mp h
  refine next?_eq_some_iff.mpr ⟨within, ?_⟩
  rw [closed]
  simp only [nextMicros, same]

end

/-- As long as no step leaves the calendar, there is a next deadline: the later of twice the interval from
now, to the second, and the second after the previous deadline's. It is the least whole second that suits. A
later time, a longer interval, and a later previous deadline or one where there was none bring no earlier
deadline, and the zone of the clock makes no difference. -/
theorem next_deadline_least (now : LocalTime) (interval : Duration) (previous : Option Instant)
    (within : WithinCalendar now interval previous) :
    ∃ t, next? now interval previous = some t ∧ t.micros = nextMicros now interval previous ∧
      IsLeast {u | Suits now interval previous u} t ∧
      (∀ now' interval' previous' t', now.micros ≤ now'.micros → interval.micros ≤ interval'.micros →
        (∀ p ∈ previous, ∃ p' ∈ previous', p ≤ p') → next? now' interval' previous' = some t' → t ≤ t') ∧
      ∀ now' : LocalTime, now'.micros = now.micros → WithinCalendar now' interval previous →
        next? now' interval previous = some t := by
  obtain ⟨t, h⟩ := exists_next?_iff.mpr within
  refine ⟨t, h, (next?_eq_some_iff.mp h).2, isLeast_next? h, ?_, ?_⟩
  · intro now' interval' previous' t' hnow hinterval hprevious h'
    exact next?_mono h h' hnow hinterval hprevious
  · intro now' same within'
    exact next?_of_micros_eq h same within'

namespace Sample

/-- The first instant of the calendar on a clock that is two hours ahead. In UTC it is before the
calendar. -/
def dawn : LocalTime := ⟨⟨-62135596800000000, by decide, by decide⟩, 7200000000⟩

/-- The same time on a clock that is three hours ahead. -/
def dawnAbroad : LocalTime := ⟨⟨-62135593200000000, by decide, by decide⟩, 10800000000⟩

/-- An hour and a half. -/
def interval : Duration := ⟨5400000000, by decide, by decide⟩

def longer : Duration := ⟨7200000000, by decide, by decide⟩

/-- A quarter of a second past twice the interval from then. -/
def previous : Instant := ⟨-62135593199750000, by decide, by decide⟩

def due : Instant := ⟨-62135593199000000, by decide, by decide⟩

def dueLater : Instant := ⟨-62135589600000000, by decide, by decide⟩

end Sample

open Sample in
/-- The previous deadline is in the second that is twice the interval ahead, so the next one is a second
after that. -/
theorem next_deadline_least_sample :
    WithinCalendar dawn interval (some previous) ∧ next? dawn interval (some previous) = some due ∧
      IsLeast {u | Suits dawn interval (some previous) u} due ∧
      (∃ t, next? dawn longer (some previous) = some t ∧ due ≤ t) ∧
      next? dawnAbroad interval (some previous) = some due := by
  have within : WithinCalendar dawn interval (some previous) :=
    ⟨by decide, by decide, by rintro _ ⟨⟩ -; decide⟩
  have abroad : WithinCalendar dawnAbroad interval (some previous) :=
    ⟨by decide, by decide, by rintro _ ⟨⟩ -; decide⟩
  obtain ⟨t, h, closed, least, mono, anywhere⟩ := next_deadline_least dawn interval (some previous) within
  obtain rfl : t = due := Instant.eq_of_micros_eq closed
  have further : next? dawn longer (some previous) = some dueLater := by decide
  refine ⟨within, h, least, ⟨dueLater, further, ?_⟩, anywhere dawnAbroad rfl abroad⟩
  exact mono dawn longer (some previous) dueLater (Int.le_refl _) (by decide)
    (fun p hp => ⟨p, hp, Int.le_refl p.micros⟩) further

end NodeRelief.Cooldown
