import NodeRelief.Proofs.Time.Timestamp

/-! # Every stamp of RFC 3339 is understood

A stamp is a date, a time of day, a fraction of a second of any length and a zone. The reader brings
the fraction to six places and the zone to an offset, and what is left has a fixed layout. -/

namespace NodeRelief

open Calendar Text

namespace Timestamp

/-! ## Fractions -/

/-- A fraction of a second: the digits behind the point, at least one. -/
structure Fraction where
  digits : List Char
  nonempty : digits ≠ []
  ascii : ∀ c ∈ digits, isAsciiDigit c = true

namespace Fraction

/-- The whole microseconds; what the seventh digit and the later ones say is cut off. -/
def micros (f : Fraction) : Nat := Nat.ofDigitChars 10 f.digits 0 * 10 ^ 6 / 10 ^ f.digits.length

/-- The first six digits, with zeros for those that are missing. -/
def six (f : Fraction) : List Char :=
  f.digits.take 6 ++ List.replicate (6 - f.digits.length) '0'

theorem spells_six (f : Fraction) : Spells 6 f.six f.micros := by
  refine ⟨by simp [six]; omega, ?_, ?_⟩
  · intro c hc
    rcases List.mem_append.mp hc with hc | hc
    · exact f.ascii c (List.mem_of_mem_take hc)
    · rw [List.eq_of_mem_replicate hc]
      rfl
  · rw [six, Nat.ofDigitChars_append, Nat.ofDigitChars_replicate_zero, micros]
    rcases Nat.le_total f.digits.length 6 with short | long
    · rw [List.take_of_length_le short]
      have split : 10 ^ 6 = 10 ^ (6 - f.digits.length) * 10 ^ f.digits.length := by
        rw [← Nat.pow_add, Nat.sub_add_cancel short]
      rw [split, ← Nat.mul_assoc, Nat.mul_div_cancel _ (Nat.pow_pos (by decide)), Nat.mul_comm]
    · -- the digits from the seventh on make up less than a microsecond
      have tail := ofDigitChars_lt fun c hc => f.ascii c (List.mem_of_mem_drop (i := 6) hc)
      rw [List.length_drop] at tail
      have value : Nat.ofDigitChars 10 f.digits 0 =
          10 ^ (f.digits.length - 6) * Nat.ofDigitChars 10 (f.digits.take 6) 0 +
            Nat.ofDigitChars 10 (f.digits.drop 6) 0 := by
        rw [← List.length_drop, ← Nat.ofDigitChars_eq_ofDigitChars_zero, ← Nat.ofDigitChars_append,
          List.take_append_drop]
      have split : 10 ^ f.digits.length = 10 ^ (f.digits.length - 6) * 10 ^ 6 := by
        rw [← Nat.pow_add, Nat.sub_add_cancel long]
      rw [split, Nat.mul_div_mul_right _ _ (by decide), value,
        Nat.mul_add_div (Nat.pow_pos (by decide)), Nat.div_eq_of_lt tail,
        Nat.sub_eq_zero_of_le long, Nat.pow_zero, Nat.one_mul, Nat.add_zero]

end Fraction

/-! ## Zones -/

/-- A zone as it is written: a `Z` in either case, or an offset behind UTC or ahead of it. -/
inductive Zone where
  | zulu (capital : Bool)
  | offset (behind : Bool) (hour : Fin 24) (minute : Fin 60)

namespace Zone

def text : Zone → List Char
  | .zulu capital => [if capital then 'Z' else 'z']
  | .offset behind hour minute =>
    offsetMark behind :: ((paddedNumeral 2 hour).toList ++ ':' :: (paddedNumeral 2 minute).toList)

/-- What the zone's clocks are ahead of UTC, in microseconds. -/
def ahead : Zone → Int
  | .zulu _ => 0
  | .offset behind hour minute =>
    let us : Int := (hour.val * 3600 + minute.val * 60 : Nat) * secondMicros
    if behind then -us else us

/-- The zone with its `Z` written out. -/
def expanded : Zone → Zone
  | .zulu _ => .offset false 0 0
  | .offset behind hour minute => .offset behind hour minute

theorem ahead_expanded (zone : Zone) : zone.expanded.ahead = zone.ahead := by
  cases zone <;> rfl

theorem spells_pair {n : Nat} (h : n < 100) : Spells 2 (paddedNumeral 2 n).toList n :=
  spells_paddedNumeral (by decide) h

theorem forall_mem_offset {P : Char → Prop} (digit : ∀ c, isAsciiDigit c = true → P c)
    (marks : P '+' ∧ P '-' ∧ P ':') (behind : Bool) (hour : Fin 24) (minute : Fin 60) :
    ∀ c ∈ (offset behind hour minute).text, P c := by
  simp only [text, List.mem_cons, List.mem_append]
  rintro c (rfl | hc | rfl | hc)
  · cases behind
    · exact marks.1
    · exact marks.2.1
  · exact digit c ((spells_pair (n := hour) (by omega)).digits c hc)
  · exact marks.2.2
  · exact digit c ((spells_pair (n := minute) (by omega)).digits c hc)

theorem isBlank_text (zone : Zone) : ∀ c ∈ zone.text, isBlank c = false := by
  cases zone with
  | zulu capital => cases capital <;> exact List.forall_mem_singleton.mpr (by decide)
  | offset behind hour minute =>
      exact forall_mem_offset (fun c => isBlank_of_isAsciiDigit) (by decide) behind hour minute

theorem expandZulu_zone {s : List Char} (hs : ∀ c ∈ s, c ≠ 'Z' ∧ c ≠ 'z') (zone : Zone) :
    expandZulu (s ++ zone.text) = s ++ zone.expanded.text := by
  cases zone with
  | zulu capital => exact expandZulu_append (by cases capital <;> simp) s
  | offset behind hour minute =>
      apply expandZulu_eq_self
      intro c hc
      rcases List.mem_append.mp hc with hc | hc
      · exact hs c hc
      · exact forall_mem_offset (P := fun c => c ≠ 'Z' ∧ c ≠ 'z')
          (fun c hc => ⟨ne_of_isAsciiDigit hc (by decide), ne_of_isAsciiDigit hc (by decide)⟩)
          (by decide) behind hour minute c hc

/-- Written out, a zone has no point and begins with no digit. -/
theorem expanded_text (zone : Zone) :
    '.' ∉ zone.expanded.text ∧ ∀ c ∈ zone.expanded.text.head?, isDigit c = false := by
  have pairs (behind : Bool) (hour : Fin 24) (minute : Fin 60) :
      '.' ∉ (offset behind hour minute).text ∧
        ∀ c ∈ (offset behind hour minute).text.head?, isDigit c = false := by
    constructor
    · intro point
      exact forall_mem_offset (P := (· ≠ '.')) (fun c hc => ne_of_isAsciiDigit hc (by decide))
        (by decide) behind hour minute '.' point rfl
    · rintro c ⟨⟩
      cases behind <;> rfl
  cases zone with
  | zulu capital => exact pairs false 0 0
  | offset behind hour minute => exact pairs behind hour minute

/-- The written-out zone is an offset that is read. -/
theorem zonedTime?_zone {s : List Char} {c : Clock} (hs : ∀ a ∈ s, isOffsetMark a = false)
    (hc : clock? s = some (c, false)) (hour : c.hour < 24) (minute : c.minute < 60)
    (second : c.second < 60) (zone : Zone) :
    zonedTime? (s ++ zone.expanded.text) = some (c.seconds * secondMicros + c.micro, zone.ahead) := by
  have pairs (behind : Bool) (h : Fin 24) (m : Fin 60) :
      zonedTime? (s ++ (offset behind h m).text) =
        some (c.seconds * secondMicros + c.micro, (offset behind h m).ahead) := by
    refine zonedTime?_append hs hc hour minute second
      (clock?_minutes (spells_pair (n := h) (by omega)) (spells_pair (n := m) (by omega))) ?_
    have day : ((h * 3600 + m * 60 : Nat) : Int) * secondMicros < dayMicros := by
      simp only [secondMicros, dayMicros]
      omega
    simp only [offset?, Clock.seconds, ahead, Nat.add_zero, Int.natCast_zero, Int.add_zero]
    by_cases zero : h.val * 3600 + m.val * 60 = 0
    · simp only [zero]
      cases behind <;> rfl
    · rw [if_neg zero, if_pos day]
  rw [← ahead_expanded]
  cases zone with
  | zulu capital => exact pairs false 0 0
  | offset behind h m => exact pairs behind h m

end Zone

/-! ## Stamps -/

structure Stamp where
  date : Date
  hour : Fin 24
  minute : Fin 60
  second : Fin 60
  fraction : Option Fraction

namespace Stamp

variable (s : Stamp)

/-- What is written from the hour on, and what follows the seconds. -/
def fromHour (rest : List Char) : List Char :=
  (paddedNumeral 2 s.hour).toList ++ ':' :: ((paddedNumeral 2 s.minute).toList ++ ':' ::
    ((paddedNumeral 2 s.second).toList ++ rest))

def fromMonth (rest : List Char) : List Char :=
  (paddedNumeral 2 s.date.month).toList ++ '-' ::
    ((paddedNumeral 2 s.date.day).toList ++ 'T' :: s.fromHour rest)

def fromYear (rest : List Char) : List Char :=
  (paddedNumeral 4 s.date.year).toList ++ '-' :: s.fromMonth rest

/-- The stamp as RFC 3339 has it, without the zone. -/
def text : List Char := s.fromYear (s.fraction.elim [] ('.' :: ·.digits))

/-- The microseconds since the epoch on the zone's clock, the fraction cut off behind the sixth
digit. -/
def micros : Int :=
  Instant.microsOfParts s.date.number (s.hour * 3600 + s.minute * 60 + s.second)
    (s.fraction.elim 0 Fraction.micros)

/-- The fraction as the reader brings it to six places. -/
def sixText : List Char := s.fraction.elim [] ('.' :: ·.six)

variable {s}

theorem fromHour_append (a b : List Char) : s.fromHour a ++ b = s.fromHour (a ++ b) := by
  simp [fromHour]

theorem fromMonth_append (a b : List Char) : s.fromMonth a ++ b = s.fromMonth (a ++ b) := by
  simp [fromMonth, fromHour]

theorem fromYear_append (a b : List Char) : s.fromYear a ++ b = s.fromYear (a ++ b) := by
  simp [fromYear, fromMonth_append]

theorem spells_year : Spells 4 (paddedNumeral 4 s.date.year).toList s.date.year := by
  have := s.date.year_le
  have : mostYear = 9999 := rfl
  exact spells_paddedNumeral (by decide) (by omega)

theorem spells_month : Spells 2 (paddedNumeral 2 s.date.month).toList s.date.month :=
  Zone.spells_pair (by have := s.date.month_le; omega)

theorem spells_day : Spells 2 (paddedNumeral 2 s.date.day).toList s.date.day :=
  Zone.spells_pair (by have := s.date.day_le_31; omega)

/-- What holds of the digits and of the marks holds of all that is written of the time of day. -/
theorem forall_mem_fromHour {P : Char → Prop} (digit : ∀ c, isAsciiDigit c = true → P c)
    (colon : P ':') {rest : List Char} (hrest : ∀ c ∈ rest, P c) : ∀ c ∈ s.fromHour rest, P c := by
  have pair {n : Nat} (hn : n < 100) (c : Char) (hc : c ∈ (paddedNumeral 2 n).toList) : P c :=
    digit c ((Zone.spells_pair hn).digits c hc)
  simp only [fromHour, List.mem_append, List.mem_cons]
  rintro c (hc | rfl | hc | rfl | hc | hc)
  · exact pair (by omega) c hc
  · exact colon
  · exact pair (by omega) c hc
  · exact colon
  · exact pair (by omega) c hc
  · exact hrest c hc

theorem forall_mem_fromMonth {P : Char → Prop} (digit : ∀ c, isAsciiDigit c = true → P c)
    (marks : P '-' ∧ P 'T' ∧ P ':') {rest : List Char} (hrest : ∀ c ∈ rest, P c) :
    ∀ c ∈ s.fromMonth rest, P c := by
  simp only [fromMonth, List.mem_append, List.mem_cons]
  rintro c (hc | rfl | hc | rfl | hc)
  · exact digit c (spells_month.digits c hc)
  · exact marks.1
  · exact digit c (spells_day.digits c hc)
  · exact marks.2.1
  · exact forall_mem_fromHour digit marks.2.2 hrest c hc

theorem forall_mem_fromYear {P : Char → Prop} (digit : ∀ c, isAsciiDigit c = true → P c)
    (marks : P '-' ∧ P 'T' ∧ P ':') {rest : List Char} (hrest : ∀ c ∈ rest, P c) :
    ∀ c ∈ s.fromYear rest, P c := by
  simp only [fromYear, List.mem_append, List.mem_cons]
  rintro c (hc | rfl | hc)
  · exact digit c (spells_year.digits c hc)
  · exact marks.1
  · exact forall_mem_fromMonth digit marks hrest c hc

theorem forall_mem_text {P : Char → Prop} (digit : ∀ c, isAsciiDigit c = true → P c)
    (marks : P '-' ∧ P 'T' ∧ P ':') (point : P '.') : ∀ c ∈ s.text, P c := by
  refine forall_mem_fromYear digit marks ?_
  cases s.fraction with
  | none => simp
  | some f =>
      simp only [Option.elim, List.mem_cons]
      rintro c (rfl | hc)
      · exact point
      · exact digit c (f.ascii c hc)

theorem isBlank_text : ∀ c ∈ s.text, isBlank c = false :=
  forall_mem_text (fun c => isBlank_of_isAsciiDigit) (by decide) (by decide)

theorem text_no_zulu : ∀ c ∈ s.text, c ≠ 'Z' ∧ c ≠ 'z' :=
  forall_mem_text
    (fun c hc => ⟨ne_of_isAsciiDigit hc (by decide), ne_of_isAsciiDigit hc (by decide)⟩)
    (by decide) (by decide)

/-! ### What the reader makes of a stamp -/

/-- The only point is the one in front of the fraction. -/
theorem sixPlaces_text {zone : List Char} (pointless : '.' ∉ zone)
    (parted : ∀ c ∈ zone.head?, isDigit c = false) :
    sixPlaces (s.text ++ zone) = s.fromYear (s.sixText ++ zone) := by
  have front : '.' ∉ s.fromYear [] := by
    intro point
    exact forall_mem_fromYear (P := (· ≠ '.')) (fun c hc => ne_of_isAsciiDigit hc (by decide))
      (by decide) (by simp) '.' point rfl
  rw [text, sixText, ← List.nil_append (s.fraction.elim [] _), ← fromYear_append,
    List.append_assoc, sixPlaces_append front]
  cases s.fraction with
  | none =>
      simp only [Option.elim, List.nil_append]
      rw [sixPlaces_eq_self pointless, fromYear_append, List.nil_append]
  | some f =>
      simp only [Option.elim, List.cons_append]
      rw [sixPlaces_fraction f.nonempty f.ascii parted, fromYear_append]
      rfl

theorem clock?_six : clock? (s.fromHour s.sixText) =
    some (⟨s.hour, s.minute, s.second, s.fraction.elim 0 Fraction.micros⟩, false) := by
  have hour : Spells 2 (paddedNumeral 2 s.hour).toList s.hour := Zone.spells_pair (by omega)
  have minute : Spells 2 (paddedNumeral 2 s.minute).toList s.minute := Zone.spells_pair (by omega)
  have second : Spells 2 (paddedNumeral 2 s.second).toList s.second := Zone.spells_pair (by omega)
  simp only [fromHour, sixText]
  cases s.fraction with
  | none =>
      simp only [Option.elim, List.append_nil]
      exact clock?_seconds hour minute second
  | some f => exact clock?_fraction hour minute second f.spells_six

theorem isOffsetMark_six : ∀ c ∈ s.fromHour s.sixText, isOffsetMark c = false := by
  refine forall_mem_fromHour (fun c => isOffsetMark_of_isAsciiDigit) (by decide) ?_
  rw [sixText]
  cases s.fraction with
  | none => simp
  | some f =>
      simp only [Option.elim, List.mem_cons]
      rintro c (rfl | hc)
      · decide
      · exact isOffsetMark_of_isAsciiDigit (f.spells_six.digits c hc)

theorem micros?_fromYear (rest : List Char) : micros? (s.fromYear rest) =
    (zonedTime? (s.fromHour rest)).map fun (time, offset) =>
      Instant.microsOfParts s.date.number 0 0 + time - offset :=
  micros?_dashed spells_year spells_month spells_day _

end Stamp

open Stamp

/-- With a zone, a stamp denotes what its clock shows less what the zone is ahead. -/
theorem denoted?_stamp (s : Stamp) (zone : Zone) {before after : List Char}
    (hbefore : ∀ c ∈ before, isBlank c = true) (hafter : ∀ c ∈ after, isBlank c = true) :
    denoted? (String.ofList (before ++ (s.text ++ zone.text) ++ after)) =
      some (s.micros - zone.ahead) := by
  have core : ∀ c ∈ s.text ++ zone.text, isBlank c = false := by
    intro c hc
    rcases List.mem_append.mp hc with hc | hc
    · exact isBlank_text c hc
    · exact zone.isBlank_text c hc
  obtain ⟨pointless, parted⟩ := zone.expanded_text
  have time : zonedTime? (s.fromHour (s.sixText ++ zone.expanded.text)) =
      some ((s.hour.val * 3600 + s.minute.val * 60 + s.second.val : Nat) * secondMicros +
        (s.fraction.elim 0 Fraction.micros : Nat), zone.ahead) := by
    rw [← fromHour_append]
    exact zone.zonedTime?_zone isOffsetMark_six clock?_six s.hour.isLt s.minute.isLt s.second.isLt
  rw [denoted?_eq, String.toList_ofList, strip_padded hbefore core hafter,
    zone.expandZulu_zone text_no_zulu, sixPlaces_text pointless parted, micros?_fromYear, time]
  simp only [Option.map_some, micros, Instant.microsOfParts, Option.some.injEq]
  omega

/-- Without a zone it denotes nothing. -/
theorem denoted?_unzoned (s : Stamp) {before after : List Char}
    (hbefore : ∀ c ∈ before, isBlank c = true) (hafter : ∀ c ∈ after, isBlank c = true) :
    denoted? (String.ofList (before ++ s.text ++ after)) = none := by
  have six : sixPlaces s.text = s.fromYear s.sixText := by
    have text : sixPlaces (s.text ++ []) = s.fromYear (s.sixText ++ []) :=
      sixPlaces_text (by simp) (by simp)
    rwa [List.append_nil, List.append_nil] at text
  rw [denoted?_eq, String.toList_ofList, strip_padded hbefore isBlank_text hafter,
    expandZulu_eq_self text_no_zulu, six, micros?_fromYear, zonedTime?_unmarked isOffsetMark_six]
  rfl

/-- A stamp between blanks is read as the instant that it stands for, to the microsecond; without
its zone it is read as none. -/
theorem stamp_understood (s : Stamp) (zone : Zone) {before after : List Char}
    (hbefore : ∀ c ∈ before, isBlank c = true) (hafter : ∀ c ∈ after, isBlank c = true) :
    (∀ t : Instant, t.micros = s.micros - zone.ahead →
      read (String.ofList (before ++ (s.text ++ zone.text) ++ after)) = .ok (some t)) ∧
    read (String.ofList (before ++ s.text ++ after)) = .ok none := by
  constructor
  · intro t ht
    rw [read_eq_some_iff, denoted?_stamp s zone hbefore hafter, ht]
  · rw [read_eq_none_iff, denoted?_unzoned s hbefore hafter]

namespace Sample

/-- The last second of a leap day, with seven digits of a fraction. -/
def stamp : Stamp where
  date := ⟨2024, 2, 29, by decide, by decide, by decide, by decide, by decide, by decide⟩
  hour := 23
  minute := 59
  second := 59
  fraction := some ⟨"1234567".toList, by decide, List.all_eq_true.mp (by decide)⟩

end Sample

/-- An hour and a half behind UTC the leap day ends when March has begun. -/
theorem stamp_understood_sample :
    (∀ c ∈ [' ', '\t'], isBlank c = true) ∧ (∀ c ∈ ['\n'], isBlank c = true) ∧
      read " \t2024-02-29T23:59:59.1234567-01:30\n" =
        .ok (some ⟨1709256599123456, by decide, by decide⟩) ∧
      read " \t2024-02-29T23:59:59.1234567\n" = .ok none := by
  have blanks : (∀ c ∈ [' ', '\t'], isBlank c = true) ∧ ∀ c ∈ ['\n'], isBlank c = true :=
    ⟨List.all_eq_true.mp (by decide), List.all_eq_true.mp (by decide)⟩
  obtain ⟨zoned, unzoned⟩ :=
    stamp_understood Sample.stamp (.offset true 1 30) blanks.1 blanks.2
  exact ⟨blanks.1, blanks.2, zoned ⟨1709256599123456, by decide, by decide⟩ (by decide), unzoned⟩

end Timestamp

end NodeRelief
