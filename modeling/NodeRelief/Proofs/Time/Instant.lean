import NodeRelief.Time.Instant

/-! # Instants by their microseconds

Instants and durations are compared, made and cut to the second by their microseconds, before the epoch
as after it. -/

namespace NodeRelief

theorem Duration.ofMicros?_eq_some_iff {us : Int} {d : Duration} :
    ofMicros? us = some d ↔ d.micros = us := by
  obtain ⟨micros, least, most⟩ := d
  rw [ofMicros?]
  split
  · simp [eq_comm]
  · next outside =>
    refine iff_of_false nofun ?_
    rintro rfl
    exact outside ⟨least, most⟩

namespace Instant

theorem ofMicros?_eq_some_iff {us : Int} {t : Instant} : ofMicros? us = some t ↔ t.micros = us := by
  simp only [ofMicros?]
  constructor
  · intro h
    split at h
    · cases h
      rfl
    · cases h
  · rintro rfl
    rw [dif_pos ⟨t.ge_first, t.le_last⟩]

theorem ofMicros?_eq_none_iff {us : Int} :
    ofMicros? us = none ↔ us < -62135596800000000 ∨ 253402300799999999 < us := by
  simp only [ofMicros?]
  split
  · exact iff_of_false (by simp) (by omega)
  · exact iff_of_true rfl (by omega)

/-- Some microseconds are those of an instant. -/
def InCalendar (us : Int) : Prop := ∃ t : Instant, t.micros = us

theorem ofMicros?_isSome_iff {us : Int} : (ofMicros? us).isSome = true ↔ InCalendar us := by
  simp only [Option.isSome_iff_exists, ofMicros?_eq_some_iff, InCalendar]

instance (us : Int) : Decidable (InCalendar us) := decidable_of_iff _ ofMicros?_isSome_iff

/-! ## Order -/

theorem not_lt {a b : Instant} : ¬ a < b ↔ b ≤ a := Int.not_lt

theorem not_le {a b : Instant} : ¬ a ≤ b ↔ b < a := Int.not_le

theorem eq_of_micros_eq {a b : Instant} (h : a.micros = b.micros) : a = b := by
  cases a
  cases b
  cases h
  rfl

theorem eq_iff_micros_eq {a b : Instant} : a = b ↔ a.micros = b.micros :=
  ⟨congrArg micros, eq_of_micros_eq⟩

theorem lt_trichotomy (t u : Instant) : t < u ∨ t = u ∨ u < t := by
  rcases Int.lt_trichotomy t.micros u.micros with before | same | after
  · exact .inl before
  · exact .inr (.inl (eq_of_micros_eq same))
  · exact .inr (.inr after)

/-! ## Whole seconds -/

/-- The last whole second up to some microseconds. -/
def wholeSecond (us : Int) : Int := us / secondMicros * secondMicros

theorem wholeSecond_le (us : Int) : wholeSecond us ≤ us :=
  Int.ediv_mul_le us (by decide)

theorem wholeSecond_mono {a b : Int} (h : a ≤ b) : wholeSecond a ≤ wholeSecond b :=
  Int.mul_le_mul_of_nonneg_right (Int.ediv_le_ediv (by decide) h) (by decide)

theorem floorSecond_mono {t u : Instant} (h : t ≤ u) : t.floorSecond ≤ u.floorSecond :=
  wholeSecond_mono h

theorem floorSecond_eq_self_iff {t : Instant} :
    t.floorSecond = t ↔ wholeSecond t.micros = t.micros := eq_iff_micros_eq

theorem wholeSecond_wholeSecond (us : Int) : wholeSecond (wholeSecond us) = wholeSecond us := by
  simp only [wholeSecond, secondMicros]
  omega

/-- A whole second is later than an instant just if it is past that instant's second. -/
theorem lt_iff_of_whole {p u : Instant} (whole : u.floorSecond = u) :
    p < u ↔ wholeSecond p.micros + secondMicros ≤ u.micros := by
  have aligned := floorSecond_eq_self_iff.mp whole
  change p.micros < u.micros ↔ _
  simp only [wholeSecond, secondMicros] at aligned ⊢
  omega

end Instant

@[simp] theorem LocalTime.micros_utc (t : Instant) : (utc t).micros = t.micros := Int.sub_zero t.micros

end NodeRelief
