import NodeRelief.Proofs.Time.Stamp
import Mathlib.Data.String.Basic

/-! # Timestamps that were written

An instant is written as the stamp of its second in UTC. From the year 1000 on the stamp is read
back, and such texts stand in the order of their seconds. An earlier year lacks its zeros in front, and
the text is read as none. -/

namespace NodeRelief

open Calendar Text

/-! ## Dates in order -/

namespace Calendar

theorem total_take_succ {lengths : List Nat} {i : Nat} :
    total (lengths.take (i + 1)) = total (lengths.take i) + lengths.getD i 0 := by
  induction lengths generalizing i with
  | nil => simp
  | cons length rest ih =>
      cases i with
      | zero => simp
      | succ i =>
          rw [List.take_succ_cons, total_cons, ih, List.take_succ_cons, total_cons,
            List.getD_cons_succ, Nat.add_assoc]

theorem total_take_mono {lengths : List Nat} {i j : Nat} (h : i ≤ j) :
    total (lengths.take i) ≤ total (lengths.take j) := by
  induction h with
  | refl => exact Nat.le_refl _
  | step _ ih =>
      rw [total_take_succ]
      exact Nat.le_add_right_of_le ih

end Calendar

namespace Date

/-- Before a date lie the days of the months before it, and it lies in its own month. -/
theorem number_le (date : Date) :
    date.number ≤ daysThrough (date.year - 1) + total ((monthLengths date.year).take date.month) := by
  have month : date.month = date.month - 1 + 1 := (Nat.sub_add_cancel date.month_pos).symm
  have day : date.day ≤ (monthLengths date.year).getD (date.month - 1) 0 := date.day_le
  rw [month, total_take_succ, number, daysBeforeMonth]
  omega

theorem number_le_daysThrough (date : Date) : date.number ≤ daysThrough date.year := by
  have months : (monthLengths date.year).take 12 = monthLengths date.year := rfl
  have year := daysThrough_succ (date.year - 1)
  rw [Nat.sub_add_cancel date.year_pos] at year
  have last : total ((monthLengths date.year).take date.month) ≤
      total ((monthLengths date.year).take 12) := total_take_mono date.month_le
  rw [months] at last
  have := number_le date
  omega

/-- An earlier year, or an earlier month of the year, or an earlier day of the month. -/
def Before (a b : Date) : Prop :=
  a.year < b.year ∨ a.year = b.year ∧ (a.month < b.month ∨ a.month = b.month ∧ a.day < b.day)

theorem number_lt {a b : Date} (h : a.Before b) : a.number < b.number := by
  have hb := b.day_pos
  rcases h with year | ⟨year, month | ⟨month, day⟩⟩
  · have := number_le_daysThrough a
    have := daysThrough_mono (show a.year ≤ b.year - 1 by omega)
    rw [number.eq_1 b]
    omega
  · have := number_le a
    have : total ((monthLengths a.year).take a.month) ≤
        total ((monthLengths a.year).take (b.month - 1)) := total_take_mono (by omega)
    rw [number.eq_1 b, daysBeforeMonth, ← year]
    omega
  · rw [number, number, year, month]
    omega

theorem before_trichotomy (a b : Date) : a.Before b ∨ a = b ∨ b.Before a := by
  by_cases same : a.year = b.year ∧ a.month = b.month ∧ a.day = b.day
  · obtain ⟨year, month, day⟩ := same
    cases a
    cases b
    simp_all
  · simp only [Before]
    omega

/-- Dates are numbered in their order, each with a number of its own. -/
theorem number_lt_iff {a b : Date} : a.number < b.number ↔ a.Before b := by
  refine ⟨fun h => ?_, number_lt⟩
  rcases before_trichotomy a b with before | rfl | after
  · exact before
  · exact absurd h (Nat.lt_irrefl _)
  · exact absurd (number_lt after) (Nat.lt_asymm h)

theorem number_injective {a b : Date} (h : a.number = b.number) : a = b := by
  rcases before_trichotomy a b with before | same | after
  · exact absurd h (Nat.ne_of_lt (number_lt before))
  · exact same
  · exact absurd h.symm (Nat.ne_of_lt (number_lt after))

end Date

/-! ## Texts in order -/

namespace Text

/-- Of two numerals of one width the one of the smaller number comes first, whatever follows. -/
theorem digits_append_lt {a b : List Char} (ha : ∀ c ∈ a, isAsciiDigit c = true)
    (hb : ∀ c ∈ b, isAsciiDigit c = true) (width : a.length = b.length)
    (h : Nat.ofDigitChars 10 a 0 < Nat.ofDigitChars 10 b 0) (x y : List Char) : a ++ x < b ++ y := by
  induction a generalizing b with
  | nil =>
      obtain rfl := List.length_eq_zero_iff.mp width.symm
      exact absurd h (Nat.lt_irrefl _)
  | cons c a ih =>
      obtain ⟨d, b, rfl⟩ := List.exists_cons_of_length_pos (l := b) (by simp [← width])
      replace width : a.length = b.length := by simpa using width
      have hc := toNat_of_isAsciiDigit (ha c (by simp))
      have hd := toNat_of_isAsciiDigit (hb d (by simp))
      have ha' : ∀ e ∈ a, isAsciiDigit e = true := fun e he => ha e (by simp [he])
      have hb' : ∀ e ∈ b, isAsciiDigit e = true := fun e he => hb e (by simp [he])
      have restA := ofDigitChars_lt ha'
      have restB := ofDigitChars_lt hb'
      rw [ofDigitChars_cons_zero, ofDigitChars_cons_zero, width] at h
      rw [width] at restA
      rw [List.cons_append, List.cons_append, List.cons_lt_cons_iff]
      rcases lt_trichotomy c d with less | rfl | greater
      · exact .inl less
      · exact .inr ⟨rfl, ih ha' hb' width (by omega)⟩
      · have greater : d.toNat < c.toNat := by
          simpa [Char.lt_def, UInt32.lt_iff_toNat_lt] using greater
        have first : 10 ^ b.length * (d.toNat - 48 + 1) ≤ 10 ^ b.length * (c.toNat - 48) :=
          Nat.mul_le_mul_left _ (by omega)
        rw [Nat.mul_add] at first
        omega

theorem paddedNumeral_append_lt {width m n : Nat} (hw : 0 < width) (hm : m < 10 ^ width)
    (hn : n < 10 ^ width) {x y : List Char} (h : m < n ∨ m = n ∧ x < y) :
    (paddedNumeral width m).toList ++ x < (paddedNumeral width n).toList ++ y := by
  have a := spells_paddedNumeral hw hm
  have b := spells_paddedNumeral hw hn
  rcases h with less | ⟨rfl, less⟩
  · exact digits_append_lt a.digits b.digits (a.length.trans b.length.symm)
      (by rw [a.value, b.value]; exact less) x y
  · exact List.append_left_lt less

theorem mark_lt {c : Char} {x y : List Char} (h : x < y) : c :: x < c :: y :=
  List.cons_lt_cons_iff.mpr (.inr ⟨rfl, h⟩)

end Text

namespace Timestamp

namespace Stamp

theorem fromHour_lt {a b : Stamp} (h : a.hour.val * 3600 + a.minute * 60 + a.second <
    b.hour.val * 3600 + b.minute * 60 + b.second) (x y : List Char) :
    a.fromHour x < b.fromHour y := by
  refine paddedNumeral_append_lt (by decide) (by omega) (by omega) ?_
  by_cases hour : a.hour.val < b.hour
  · exact .inl hour
  refine .inr ⟨by omega, mark_lt (paddedNumeral_append_lt (by decide) (by omega) (by omega) ?_)⟩
  by_cases minute : a.minute.val < b.minute
  · exact .inl minute
  exact .inr ⟨by omega,
    mark_lt (paddedNumeral_append_lt (by decide) (by omega) (by omega) (.inl (by omega)))⟩

/-- Of two stamps of whole seconds the earlier one comes first as a text. -/
theorem fromYear_lt {a b : Stamp} (ha : a.fraction = none) (hb : b.fraction = none)
    (h : a.micros < b.micros) (x y : List Char) : a.fromYear x < b.fromYear y := by
  have wide (s : Stamp) : s.date.year < 10 ^ 4 ∧ s.date.month < 10 ^ 2 ∧ s.date.day < 10 ^ 2 :=
    ⟨Nat.lt_succ_of_le s.date.year_le, Nat.lt_of_le_of_lt s.date.month_le (by decide),
      Nat.lt_of_le_of_lt s.date.day_le_31 (by decide)⟩
  obtain ⟨yearA, monthA, dayA⟩ := wide a
  obtain ⟨yearB, monthB, dayB⟩ := wide b
  simp only [micros, ha, hb, Option.elim, Instant.microsOfParts, dayMicros, secondMicros] at h
  refine paddedNumeral_append_lt (by decide) yearA yearB ?_
  simp only [fromMonth]
  by_cases day : a.date.number < b.date.number
  · rcases Date.number_lt_iff.mp day with year | ⟨year, month | ⟨month, day⟩⟩
    · exact .inl year
    · exact .inr ⟨year, mark_lt (paddedNumeral_append_lt (by decide) monthA monthB (.inl month))⟩
    · exact .inr ⟨year, mark_lt (paddedNumeral_append_lt (by decide) monthA monthB
        (.inr ⟨month, mark_lt (paddedNumeral_append_lt (by decide) dayA dayB (.inl day))⟩))⟩
  · have sameDay : a.date = b.date := Date.number_injective (by omega)
    rw [sameDay]
    refine .inr ⟨rfl, mark_lt (List.append_left_lt (mark_lt (List.append_left_lt (mark_lt ?_))))⟩
    rw [sameDay] at h
    exact fromHour_lt (by omega) x y

end Stamp

end Timestamp

/-! ## What is written -/

namespace Instant

/-- The beginning of the year 1000. -/
def yearThousand : Instant := ⟨-30610224000000000, by decide, by decide⟩

theorem dayNumber_bounds (t : Instant) : 1 ≤ t.dayNumber ∧ t.dayNumber ≤ daysThrough mostYear := by
  have last : daysThrough mostYear = 3652059 := rfl
  have := t.ge_first
  have := t.le_last
  rw [last]
  simp only [dayNumber, dayMicros]
  omega

theorem daySecond_lt (t : Instant) : t.daySecond < 86400 := by
  simp only [daySecond, dayMicros, secondMicros]
  omega

/-- The day and the second of the day make up the second of an instant. -/
theorem micros_floorSecond (t : Instant) :
    t.floorSecond.micros = microsOfParts t.dayNumber t.daySecond 0 := by
  have := t.ge_first
  unfold floorSecond microsOfParts dayNumber daySecond dayMicros secondMicros
  simp only
  omega

/-- The year of an instant in UTC. -/
def year (t : Instant) : Nat := Date.yearOfNumber t.dayNumber

theorem year_ge_thousand_iff {t : Instant} : 1000 ≤ t.year ↔ yearThousand ≤ t := by
  have first : daysThrough 999 = 364877 := rfl
  have start : yearThousand ≤ t ↔ daysThrough 999 < t.dayNumber := by
    have ge : yearThousand ≤ t ↔ -30610224000000000 ≤ t.micros := Iff.rfl
    rw [ge, first]
    simp only [dayNumber, dayMicros]
    omega
  rw [start]
  refine ⟨fun late => ?_, fun late => Date.lt_yearOfNumber late⟩
  obtain ⟨-, begun, -⟩ := Date.yearOfNumber_spec t.dayNumber_bounds.1
  have := daysThrough_mono (show 999 ≤ t.year - 1 by omega)
  rw [year] at this
  omega

theorem dayNumber_floorSecond (t : Instant) : t.floorSecond.dayNumber = t.dayNumber := by
  simp only [dayNumber, floorSecond, dayMicros, secondMicros]
  omega

theorem daySecond_floorSecond (t : Instant) : t.floorSecond.daySecond = t.daySecond := by
  simp only [daySecond, floorSecond, dayMicros, secondMicros]
  omega

end Instant

namespace Timestamp

theorem write_floorSecond (t : Instant) : write t.floorSecond = write t := by
  simp only [write, t.dayNumber_floorSecond, t.daySecond_floorSecond]

/-- The text is that of a stamp, but the year has no zeros in front. -/
theorem toList_write (t : Instant) : ∃ s : Stamp, s.fraction = none ∧
    s.micros = t.floorSecond.micros ∧ s.date.year = t.year ∧
      (write t).toList = Nat.toDigits 10 t.year ++ '-' :: s.fromMonth ['Z'] := by
  obtain ⟨hfirst, hlast⟩ := t.dayNumber_bounds
  obtain ⟨date, hnumber, hyear, hparts⟩ := Date.partsOfNumber_spec hfirst hlast
  have := t.daySecond_lt
  refine ⟨⟨date, ⟨t.daySecond / 3600, by omega⟩, ⟨t.daySecond / 60 % 60, by omega⟩,
    ⟨t.daySecond % 60, by omega⟩, none⟩, rfl, ?_, hyear, ?_⟩
  · have seconds : t.daySecond / 3600 * 3600 + t.daySecond / 60 % 60 * 60 + t.daySecond % 60 =
        t.daySecond := by omega
    rw [Instant.micros_floorSecond, Stamp.micros, hnumber]
    simp only [Option.elim, seconds]
  · rw [Instant.year, ← hyear, write, hparts]
    simp [Stamp.fromMonth, Stamp.fromHour, numeral, String.toList_append]

theorem write_eq_stamp {t : Instant} (h : .yearThousand ≤ t) : ∃ s : Stamp, s.fraction = none ∧
    s.micros = t.floorSecond.micros ∧ (write t).toList = s.fromYear ['Z'] := by
  obtain ⟨s, whole, micros, year, text⟩ := toList_write t
  have four : 4 ≤ (Nat.toDigits 10 t.year).length := by
    by_contra short
    have := (Nat.length_toDigits_le_iff (b := 10) (n := t.year) (k := 3) (by decide) (by decide)).mp
      (by omega)
    have := Instant.year_ge_thousand_iff.mpr h
    omega
  refine ⟨s, whole, micros, ?_⟩
  rw [text, Stamp.fromYear, year, paddedNumeral]
  simp [Nat.sub_eq_zero_of_le four]

/-- A text that was written is read as the instant that it was written for, to the second. -/
theorem read_write {t : Instant} (h : .yearThousand ≤ t) : read (write t) = .ok (some t.floorSecond) := by
  obtain ⟨s, whole, micros, text⟩ := write_eq_stamp h
  have stamp : write t = String.ofList ([] ++ (s.text ++ (Zone.zulu true).text) ++ []) := by
    rw [← String.ofList_toList (s := write t), text, Stamp.text, whole]
    simp [Stamp.fromYear_append, Zone.text]
  rw [read_eq_some_iff, stamp, denoted?_stamp s (.zulu true) (by simp) (by simp), micros]
  simp [Zone.ahead]

/-- From the year 1000 on the texts stand in the order of their seconds. -/
theorem write_lt {t u : Instant} (ht : .yearThousand ≤ t) (hu : .yearThousand ≤ u)
    (h : t.floorSecond < u.floorSecond) : write t < write u := by
  obtain ⟨a, wholeA, microsA, textA⟩ := write_eq_stamp ht
  obtain ⟨b, wholeB, microsB, textB⟩ := write_eq_stamp hu
  have h : t.floorSecond.micros < u.floorSecond.micros := h
  rw [← microsA, ← microsB] at h
  rw [String.lt_iff_toList_lt, textA, textB]
  exact Stamp.fromYear_lt wholeA wholeB h _ _

theorem write_eq_iff {t u : Instant} (ht : .yearThousand ≤ t) (hu : .yearThousand ≤ u) :
    write t = write u ↔ t.floorSecond = u.floorSecond := by
  constructor
  · intro same
    have read := read_write ht
    rw [same, read_write hu] at read
    simpa using read.symm
  · intro same
    rw [← write_floorSecond t, same, write_floorSecond u]

theorem write_le_iff {t u : Instant} (ht : .yearThousand ≤ t) (hu : .yearThousand ≤ u) :
    write t ≤ write u ↔ t.floorSecond ≤ u.floorSecond := by
  rcases Instant.lt_trichotomy t.floorSecond u.floorSecond with before | same | after
  · exact iff_of_true (write_lt ht hu before).le (Int.le_of_lt before)
  · exact iff_of_true ((write_eq_iff ht hu).mpr same).le (same ▸ Int.le_refl _)
  · exact iff_of_false (write_lt hu ht after).not_ge (Int.not_le.mpr after)

/-! ## Years without four places -/

theorem mapM_asciiDigit?_eq_none {s : List Char} {c : Char} (hc : c ∈ s)
    (h : isAsciiDigit c = false) : s.mapM asciiDigit? = none := by
  induction s with
  | nil => cases hc
  | cons a s ih =>
      rw [List.mapM_cons]
      rcases List.mem_cons.mp hc with rfl | hc
      · rw [asciiDigit?, if_neg (by simp [h])]
        rfl
      · cases asciiDigit? a with
        | none => rfl
        | some d => simp [ih hc]

theorem dateLength_ge (s : List Char) : 7 ≤ dateLength s := by
  simp only [dateLength]
  split_ifs <;> omega

/-- A year of fewer than four digits before the hyphen begins no date. -/
theorem micros?_shortYear {y : List Char} (h : y.length < 4) (rest : List Char) :
    micros? (y ++ '-' :: rest) = none := by
  have hyphen : '-' ∈ (y ++ '-' :: rest).take 4 := by
    obtain ⟨k, hk⟩ : ∃ k, 4 - y.length = k + 1 := ⟨3 - y.length, by omega⟩
    rw [List.take_append, hk, List.take_succ_cons]
    simp
  have noYear (n : Nat) (hn : 7 ≤ n) : date? ((y ++ '-' :: rest).take n) = none := by
    have four : ((y ++ '-' :: rest).take n).take 4 = (y ++ '-' :: rest).take 4 := by
      rw [List.take_take, Nat.min_eq_left (by omega)]
    have places : places? 4 ((y ++ '-' :: rest).take n) = none := by
      rw [places?, four, mapM_asciiDigit?_eq_none hyphen (by decide)]
      simp
    simp only [date?, places, Option.bind_none]
  simp only [micros?, noYear _ (dateLength_ge _)]
  simp

/-- Before the year 1000 what is written is no timestamp. -/
theorem read_write_early {t : Instant} (h : ¬ .yearThousand ≤ t) : read (write t) = .ok none := by
  obtain ⟨s, -, -, -, text⟩ := toList_write t
  have short : (Nat.toDigits 10 t.year).length < 4 := by
    have := mt Instant.year_ge_thousand_iff.mp h
    have := (Nat.length_toDigits_le_iff (b := 10) (n := t.year) (k := 3) (by decide) (by decide)).mpr
      (by omega)
    omega
  -- what holds of digits and of marks holds of the text, its last character apart
  have front {P : Char → Prop} (digit : ∀ c, isAsciiDigit c = true → P c)
      (marks : P '-' ∧ P 'T' ∧ P ':') :
      ∀ c ∈ Nat.toDigits 10 t.year ++ '-' :: s.fromMonth [], P c := by
    simp only [List.mem_append, List.mem_cons]
    rintro c (hc | rfl | hc)
    · exact digit c (Nat.isDigit_of_mem_toDigits (by decide) (by decide) hc)
    · exact marks.1
    · exact Stamp.forall_mem_fromMonth digit marks (by simp) c hc
  have split : (write t).toList = Nat.toDigits 10 t.year ++ '-' :: s.fromMonth [] ++ ['Z'] := by
    rw [text, List.append_assoc, List.cons_append, Stamp.fromMonth_append, List.nil_append]
  have plain : ∀ c ∈ (write t).toList, isBlank c = false := by
    rw [split]
    intro c hc
    rcases List.mem_append.mp hc with hc | hc
    · exact front (fun c => isBlank_of_isAsciiDigit) (by decide) c hc
    · rw [List.mem_singleton.mp hc]
      decide
  have pointless : '.' ∉ Nat.toDigits 10 t.year ++ '-' :: s.fromMonth [] ++ "+00:00".toList := by
    intro point
    rcases List.mem_append.mp point with point | point
    · exact front (P := (· ≠ '.')) (fun c hc => ne_of_isAsciiDigit hc (by decide)) (by decide) '.' point rfl
    · exact absurd point (by decide)
  have bare : strip isBlank (write t).toList = (write t).toList := by
    have padded : strip isBlank ([] ++ (write t).toList ++ []) = (write t).toList :=
      strip_padded (by simp) plain (by simp)
    rwa [List.nil_append, List.append_nil] at padded
  rw [read_eq_none_iff, denoted?_eq, bare, split, expandZulu_append (.inl rfl),
    sixPlaces_eq_self pointless, List.append_assoc, List.cons_append, micros?_shortYear short]

/-- What is written of an instant of the year 1000 or later is read as its second, and written again
it is the same; two such texts agree for one second only, and their order is that of the instants. An
earlier year is written without zeros, and the text is read as none. -/
theorem written_read_back (z : ZonedInstant) :
    (1000 ≤ z.instant.year → read (write z.instant) = .ok (some z.instant.floorSecond) ∧
      write z.instant.floorSecond = write z.instant) ∧
    (z.instant.year < 1000 → read (write z.instant) = .ok none ∧
      ∃ rest, (write z.instant).toList = Nat.toDigits 10 z.instant.year ++ '-' :: rest) ∧
    ∀ w : ZonedInstant, 1000 ≤ z.instant.year → 1000 ≤ w.instant.year →
      (write z.instant = write w.instant ↔ z.instant.floorSecond = w.instant.floorSecond) ∧
      (write z.instant ≤ write w.instant ↔ z.instant.floorSecond ≤ w.instant.floorSecond) ∧
      (z.instant ≤ w.instant → write z.instant ≤ write w.instant) := by
  refine ⟨fun late => ?_, fun early => ?_, fun w lateZ lateW => ?_⟩
  · exact ⟨read_write (Instant.year_ge_thousand_iff.mp late), write_floorSecond z.instant⟩
  · have early : ¬ .yearThousand ≤ z.instant :=
      fun late => absurd (Instant.year_ge_thousand_iff.mpr late) (Nat.not_le.mpr early)
    obtain ⟨s, -, -, -, text⟩ := toList_write z.instant
    exact ⟨read_write_early early, s.fromMonth ['Z'], text⟩
  · have hz := Instant.year_ge_thousand_iff.mp lateZ
    have hw := Instant.year_ge_thousand_iff.mp lateW
    refine ⟨write_eq_iff hz hw, write_le_iff hz hw, fun h => ?_⟩
    exact (write_le_iff hz hw).mpr (Instant.floorSecond_mono h)

namespace Sample

/-- Half a second before the epoch, on a clock that is two hours ahead. -/
def clock : ZonedInstant := ⟨⟨-500000, by decide, by decide⟩, 7200000000, by decide, by decide⟩

end Sample

/-- The half second is cut off towards the past. -/
theorem written_read_back_sample :
    1000 ≤ Sample.clock.instant.year ∧ write Sample.clock.instant = "1969-12-31T23:59:59Z" ∧
      read "1969-12-31T23:59:59Z" = .ok (some ⟨-1000000, by decide, by decide⟩) := by
  have year : 1000 ≤ Sample.clock.instant.year := by decide
  have text : write Sample.clock.instant = "1969-12-31T23:59:59Z" := by decide
  refine ⟨year, text, ?_⟩
  have read := ((written_read_back Sample.clock).1 year).1
  rwa [text] at read

end Timestamp

end NodeRelief
