import NodeRelief.Cycle.Cooldown
import NodeRelief.Proofs.Fault
import NodeRelief.Proofs.Time.Written

/-! # Deadlines

The next deadline is the later of two whole seconds. So it is later than the one that it follows, and it is
read back from the annotation that it is written to. -/

namespace NodeRelief

namespace Cooldown

/-- A cooldown is over if the deadline is absent or not ahead. -/
theorem active_eq_none_iff {mark : Document} {o : Owner} {now : Instant} :
    active mark o now = .ok none ↔ ∃ d, deadline mark o = .ok d ∧ ∀ t ∈ d, t ≤ now := by
  simp only [active]
  rw [Fault.map_eq_ok_iff]
  apply exists_congr
  intro d
  apply and_congr_right
  intro _
  cases d with
  | none => simp
  | some t =>
      rw [Option.filter_some]
      split
      · next h => exact iff_of_false (by simp) fun h' => Instant.not_lt.mpr (h' t rfl) (by simpa using h)
      · next h =>
        refine iff_of_true rfl ?_
        rintro _ ⟨⟩
        exact Instant.not_lt.mp (by simpa using h)

/-! ## The next deadline -/

/-- The instant at twice the interval from now, if it is in the calendar. -/
def ahead? (now : Instant) (interval : Duration) : Option Instant :=
  Instant.ofMicros? (now.micros + 2 * interval.micros)

/-- Twice the interval from now is an instant if the calendar has it on now's own clock and in UTC. -/
theorem add_double_eq_some_iff {now : LocalTime} {interval : Duration} {t : Instant} :
    interval.double?.bind now.add? = some t ↔
      Instant.InCalendar (now.clock.micros + 2 * interval.micros) ∧
        t.micros = now.micros + 2 * interval.micros := by
  simp only [Option.bind_eq_some_iff, Duration.double?, Duration.ofMicros?_eq_some_iff, LocalTime.add?,
    Instant.ofMicros?_eq_some_iff, LocalTime.micros]
  constructor
  · rintro ⟨d, hd, clock, hclock, ht⟩
    exact ⟨⟨clock, by omega⟩, by omega⟩
  · rintro ⟨⟨clock, hclock⟩, ht⟩
    -- the calendar is shorter than the longest duration
    have := now.clock.ge_first
    have := now.clock.le_last
    have := clock.ge_first
    have := clock.le_last
    exact ⟨⟨2 * interval.micros, by omega, by omega⟩, rfl, clock, hclock, by omega⟩

/-- The later of twice the interval from now, to the second, and the second after the previous
deadline's, in microseconds. -/
def nextMicros (now : LocalTime) (interval : Duration) (previous : Option Instant) : Int :=
  let ahead := Instant.wholeSecond (now.micros + 2 * interval.micros)
  match previous with
  | some p => max ahead (Instant.wholeSecond p.micros + secondMicros)
  | none => ahead

/-- No step towards the next deadline leaves the calendar. -/
structure WithinCalendar (now : LocalTime) (interval : Duration) (previous : Option Instant) : Prop where
  /-- Twice the interval from now as now's own clock will show it. -/
  clock : Instant.InCalendar (now.clock.micros + 2 * interval.micros)
  utc : Instant.InCalendar (now.micros + 2 * interval.micros)
  /-- The second after the previous deadline's, where it is needed. -/
  after : ∀ p ∈ previous, Instant.wholeSecond (now.micros + 2 * interval.micros) ≤ p.micros →
    Instant.InCalendar (Instant.wholeSecond p.micros + secondMicros)

section

variable {now : LocalTime} {interval : Duration} {previous : Option Instant} {p t u : Instant}

/-- A whole second that is not past the previous deadline is not past that deadline's second. -/
theorem nextMicros_of_le (early : Instant.wholeSecond (now.micros + 2 * interval.micros) ≤ p.micros) :
    nextMicros now interval (some p) = Instant.wholeSecond p.micros + secondMicros := by
  simp only [nextMicros, Instant.wholeSecond, secondMicros] at early ⊢
  omega

theorem nextMicros_of_lt (late : p.micros < Instant.wholeSecond (now.micros + 2 * interval.micros)) :
    nextMicros now interval (some p) = Instant.wholeSecond (now.micros + 2 * interval.micros) := by
  simp only [nextMicros, Instant.wholeSecond, secondMicros] at late ⊢
  omega

/-- The branch taken at the previous deadline comes to the later of the two seconds. -/
theorem settle_eq_some_iff (twice : u.micros = now.micros + 2 * interval.micros) :
    (match previous with
      | some p => if u.floorSecond ≤ p then p.floorSecond.nextSecond? else some u.floorSecond
      | none => some u.floorSecond) = some t ↔
    (∀ p ∈ previous, Instant.wholeSecond (now.micros + 2 * interval.micros) ≤ p.micros →
      Instant.InCalendar (Instant.wholeSecond p.micros + secondMicros)) ∧
      t.micros = nextMicros now interval previous := by
  have floor : u.floorSecond.micros = Instant.wholeSecond (now.micros + 2 * interval.micros) :=
    congrArg Instant.wholeSecond twice
  have kept : some u.floorSecond = some t ↔ t.micros = u.floorSecond.micros := by
    rw [Option.some.injEq, eq_comm, Instant.eq_iff_micros_eq]
  cases previous with
  | none => simp [kept, floor, nextMicros]
  | some p =>
      simp only [Option.mem_some, forall_eq']
      by_cases early : u.floorSecond ≤ p
      · have behind : Instant.wholeSecond (now.micros + 2 * interval.micros) ≤ p.micros := floor ▸ early
        rw [if_pos early, nextMicros_of_le behind]
        exact Instant.ofMicros?_eq_some_iff.trans ⟨fun h => ⟨fun _ => ⟨t, h⟩, h⟩, And.right⟩
      · have past : p.micros < Instant.wholeSecond (now.micros + 2 * interval.micros) :=
          floor ▸ Instant.not_le.mp early
        rw [if_neg early, nextMicros_of_lt past, kept, floor]
        exact (and_iff_right fun behind => absurd past (Int.not_lt.mpr behind)).symm

/-- The next deadline in closed form; there is one only if no step towards it leaves the calendar. -/
theorem next?_eq_some_iff : next? now interval previous = some t ↔
    WithinCalendar now interval previous ∧ t.micros = nextMicros now interval previous := by
  rw [next?, Option.bind_eq_some_iff]
  constructor
  · rintro ⟨u, hu, h⟩
    obtain ⟨clock, twice⟩ := add_double_eq_some_iff.mp hu
    obtain ⟨after, closed⟩ := (settle_eq_some_iff twice).mp h
    exact ⟨⟨clock, ⟨u, twice⟩, after⟩, closed⟩
  · rintro ⟨⟨clock, ⟨u, twice⟩, after⟩, closed⟩
    exact ⟨u, add_double_eq_some_iff.mpr ⟨clock, twice⟩, (settle_eq_some_iff twice).mpr ⟨after, closed⟩⟩

/-- The next deadline is a whole second. -/
theorem floorSecond_next? (h : next? now interval previous = some t) : t.floorSecond = t := by
  rw [Instant.floorSecond_eq_self_iff, (next?_eq_some_iff.mp h).2]
  cases previous with
  | none => exact Instant.wholeSecond_wholeSecond _
  | some p =>
      simp only [nextMicros, Instant.wholeSecond, secondMicros]
      omega

/-- The next deadline is not after a whole second just if twice the interval from now, to the second, is
not, and the previous deadline is before it. -/
theorem nextMicros_le_iff (whole : u.floorSecond = u) : nextMicros now interval previous ≤ u.micros ↔
    Instant.wholeSecond (now.micros + 2 * interval.micros) ≤ u.micros ∧ ∀ p ∈ previous, p < u := by
  cases previous with
  | none => simp [nextMicros]
  | some p => simp [nextMicros, Instant.lt_iff_of_whole whole]

end

section

variable {now t : Instant} {interval : Duration} {previous : Option Instant}

/-- The next deadline is at least twice the interval ahead, to the second, later than the one before,
and a whole second. -/
theorem next?_spec (h : next? (.utc now) interval previous = some t) :
    (now.micros + 2 * interval.micros) / secondMicros * secondMicros ≤ t.micros ∧
      (∀ p ∈ previous, p < t) ∧ t.floorSecond = t := by
  have whole := floorSecond_next? h
  obtain ⟨-, closed⟩ := next?_eq_some_iff.mp h
  obtain ⟨ahead, later⟩ := (nextMicros_le_iff whole).mp (Int.le_of_eq closed.symm)
  rw [LocalTime.micros_utc] at ahead
  exact ⟨ahead, later, whole⟩

/-- A deadline that follows one that is over is not bumped past twice the interval from now, if that is a
second at least. -/
theorem next?_le (h : next? (.utc now) interval previous = some t) (expired : ∀ p ∈ previous, p ≤ now)
    (second : secondMicros ≤ 2 * interval.micros) :
    t.micros ≤ now.micros + 2 * interval.micros := by
  obtain ⟨-, closed⟩ := next?_eq_some_iff.mp h
  have floored := Instant.wholeSecond_le (now.micros + 2 * interval.micros)
  cases previous with
  | none =>
      simp only [nextMicros, LocalTime.micros_utc] at closed
      omega
  | some p =>
      have early : p.micros ≤ now.micros := expired p rfl
      have := Instant.wholeSecond_le p.micros
      simp only [nextMicros, LocalTime.micros_utc] at closed
      omega

/-- If twice the interval from now is after the year 1000, the next deadline is after it too. -/
theorem yearThousand_le_of_ahead (h : next? (.utc now) interval previous = some t)
    (modern : Instant.yearThousand.micros ≤ now.micros + 2 * interval.micros) : .yearThousand ≤ t := by
  have modern : -30610224000000000 ≤ now.micros + 2 * interval.micros := modern
  have ahead := (next?_spec h).1
  change -30610224000000000 ≤ t.micros
  simp only [secondMicros] at ahead
  omega

/-- After the year 1000 the next deadline is after it too. -/
theorem yearThousand_le_next? (h : next? (.utc now) interval previous = some t)
    (modern : .yearThousand ≤ now) (positive : 0 < interval.micros) : .yearThousand ≤ t := by
  have modern : Instant.yearThousand.micros ≤ now.micros := modern
  exact yearThousand_le_of_ahead h (by omega)

/-- As long as twice the interval from now is in the calendar, there is no next deadline only if the
previous one is still ahead of that time and in the last second of the calendar. -/
theorem next?_eq_none_iff (ahead : (ahead? now interval).isSome = true) :
    next? (.utc now) interval previous = none ↔
      ∃ d, previous = some d ∧ d.floorSecond.nextSecond? = none ∧
        ∀ t ∈ ahead? now interval, t.floorSecond ≤ d := by
  obtain ⟨t, ht⟩ := Option.isSome_iff_exists.mp ahead
  have twice : t.micros = now.micros + 2 * interval.micros := Instant.ofMicros?_eq_some_iff.mp ht
  have added : interval.double?.bind (LocalTime.utc now).add? = some t :=
    add_double_eq_some_iff.mpr ⟨⟨t, twice⟩, by rw [LocalTime.micros_utc, twice]⟩
  rw [next?, added, ht]
  cases previous with
  | none => simp
  | some d =>
      simp only [Option.bind_some, Option.mem_some, forall_eq', Option.some.injEq, exists_eq_left']
      by_cases early : t.floorSecond ≤ d <;> simp [early]

end

/-! ## The annotation -/

/-- The annotation that a deadline is kept in. -/
def entry (mark : Document) (t : Instant) : Mapping :=
  .ofPairs [(mark, .text (Timestamp.write t))]

theorem merge_entry (m : Mapping) (mark : Document) (t : Instant) :
    m.merge (entry mark t) = m.set mark (.text (Timestamp.write t)) := rfl

theorem deadline_eq_ok_iff {mark : Document} {o : Owner} {d : Option Instant} :
    deadline mark o = .ok d ↔ mark.isKey = true ∧
      (o.annotations.get? mark = none ∧ d = none ∨
        ∃ value, o.annotations.get? mark = some value ∧ instant value = .ok d) := by
  simp only [deadline]
  simp only [Fault.bind_eq_ok_iff, Fault.ifKey_eq_ok_iff, and_true, exists_const]
  apply and_congr_right
  intro _
  cases o.annotations.get? mark with
  | none => simp [pure, Except.pure, eq_comm]
  | some value => simp

/-- A deadline that was written to an owner is the owner's deadline. -/
theorem deadline_annotate {mark : Document} {o : Owner} {t : Instant} (hmark : mark.isKey = true)
    (ht : .yearThousand ≤ t) (whole : t.floorSecond = t) :
    deadline mark (o.annotate (entry mark t)) = .ok (some t) := by
  refine deadline_eq_ok_iff.mpr ⟨hmark, .inr ⟨.text (Timestamp.write t), ?_, ?_⟩⟩
  · simp [Owner.annotate, merge_entry]
  · rw [instant, Timestamp.read_write ht, whole]

/-- What an annotation holds is no deadline, or one that another can follow. -/
def isTimely (d : Document) : Bool :=
  match instant d with
  | .ok previous => previous.all fun t => t.floorSecond.nextSecond?.isSome
  | .error _ => false

def Timely (mark : Document) (o : Owner) : Prop :=
  ∀ d ∈ o.annotations.get? mark, isTimely d = true

/-- A timely annotation can be read, and the second after it is in the calendar. -/
theorem Timely.deadline_isOk {mark : Document} {o : Owner} (h : Timely mark o)
    (hmark : mark.isKey = true) :
    ∃ previous, deadline mark o = .ok previous ∧
      ∀ t ∈ previous, t.floorSecond.nextSecond?.isSome = true := by
  cases hd : o.annotations.get? mark with
  | none => exact ⟨none, deadline_eq_ok_iff.mpr ⟨hmark, .inl ⟨hd, rfl⟩⟩, by simp⟩
  | some d =>
      have timely := h d hd
      simp only [isTimely] at timely
      cases hi : instant d with
      | error f => simp [hi] at timely
      | ok previous =>
          refine ⟨previous, deadline_eq_ok_iff.mpr ⟨hmark, .inr ⟨d, hd, hi⟩⟩, fun t ht => ?_⟩
          cases ht
          simpa [hi] using timely

/-- A timely annotation is followed by a later one. -/
theorem Timely.next?_ne_none {mark : Document} {o : Owner} (h : Timely mark o)
    (hmark : mark.isKey = true) {now : Instant} {interval : Duration}
    (ahead : (ahead? now interval).isSome = true) {previous : Option Instant}
    (hd : deadline mark o = .ok previous) : Cooldown.next? (.utc now) interval previous ≠ none := by
  intro none
  obtain ⟨previous', hd', followed⟩ := h.deadline_isOk hmark
  obtain rfl : previous = previous' := Except.ok.inj (hd.symm.trans hd')
  obtain ⟨d, rfl, last, -⟩ := (next?_eq_none_iff ahead).mp none
  have next := followed d rfl
  rw [last] at next
  cases next

end Cooldown

end NodeRelief
