import NodeRelief.Proofs.Fault
import NodeRelief.Proofs.Text.Digit
import NodeRelief.Proofs.Time.Calendar
import NodeRelief.Proofs.Time.Instant
import NodeRelief.Time.Timestamp
import Mathlib.Algebra.Group.Nat.Defs
import Mathlib.Data.List.TakeWhile

/-! # The parts of a timestamp

A reader takes a text apart from the front: numerals of a fixed width, the date that they make up, the
time of day, the offset behind it. Each part comes with the text that it is read from, whatever
follows. -/

namespace NodeRelief

open Calendar Text

namespace Timestamp

/-- A numeral in front is read off as a whole. -/
theorem places?_append {width n : Nat} {s : List Char} (h : Spells width s n) (rest : List Char) :
    places? width (s ++ rest) = some (n, rest) := by
  obtain ⟨rfl, digits, rfl⟩ := h
  simp only [places?]
  rw [if_neg (by simp), List.take_left, List.drop_left, mapM_asciiDigit? digits]
  simp [ofPlaces, Nat.ofDigitChars_eq_foldl, List.foldl_map]

/-! ## Dates and times of day -/

theorem Spells.ne_nil {width n : Nat} {s : List Char} (h : Spells width s n) (hw : 0 < width) :
    s ≠ [] := by
  rintro rfl
  exact absurd h.length (by simp; omega)

theorem date?_dashed {y m d : List Char} {date : Date} (hy : Spells 4 y date.year)
    (hm : Spells 2 m date.month) (hd : Spells 2 d date.day) :
    date? (y ++ '-' :: (m ++ '-' :: d)) = some date := by
  have monthFirst (s : List Char) : m ++ '-' :: d ≠ 'W' :: s := by
    intro week
    obtain ⟨c, m, rfl⟩ := List.exists_cons_of_ne_nil (Spells.ne_nil hm (by decide))
    obtain ⟨rfl, -⟩ := List.cons.inj week
    exact absurd (hm.digits 'W' (by simp)) (by decide)
  simp only [date?]
  rw [places?_append hy]
  -- what follows the year is no week, as `monthFirst` says
  simp only [Option.bind_some, List.head?_cons, if_true, List.drop_one, List.tail_cons]
  rw [places?_append hm]
  simp only [Option.bind_some, List.head?_cons, ne_eq, not_true, and_false, if_false, List.tail_cons]
  rw [← List.append_nil d, places?_append hd]
  exact Date.make?_parts date

theorem next_colon {rest : List Char} (h : rest ≠ []) : next true (':' :: rest) = .pair rest := by
  cases rest with
  | nil => exact absurd rfl h
  | cons c rest => rfl

/-- Hour, minute and second are read off before anything that follows them is looked at. -/
theorem clock?_append {h m s : List Char} {hour minute second : Nat} (hh : Spells 2 h hour)
    (hm : Spells 2 m minute) (hs : Spells 2 s second) (rest : List Char) :
    clock? (h ++ ':' :: (m ++ ':' :: (s ++ rest))) =
      match next true rest with
      | .malformed => none
      | .stop left => some (⟨hour, minute, second, 0⟩, left)
      | .fraction f | .pair f =>
        (fraction? f).map fun (us, left) => (⟨hour, minute, second, us⟩, left) := by
  simp only [clock?]
  rw [places?_append hh]
  simp only [Option.bind_some, List.head?_cons, decide_true]
  rw [next_colon (by simp)]
  simp only [places?_append hm, Option.bind_some]
  rw [next_colon (by simp [Spells.ne_nil hs (by decide)])]
  dsimp only
  rw [places?_append hs]
  rfl

theorem clock?_seconds {h m s : List Char} {hour minute second : Nat} (hh : Spells 2 h hour)
    (hm : Spells 2 m minute) (hs : Spells 2 s second) :
    clock? (h ++ ':' :: (m ++ ':' :: s)) = some (⟨hour, minute, second, 0⟩, false) := by
  have read := clock?_append hh hm hs []
  rwa [List.append_nil] at read

theorem clock?_minutes {h m : List Char} {hour minute : Nat} (hh : Spells 2 h hour)
    (hm : Spells 2 m minute) : clock? (h ++ ':' :: m) = some (⟨hour, minute, 0, 0⟩, false) := by
  have last := places?_append hm []
  rw [List.append_nil] at last
  simp only [clock?]
  rw [places?_append hh]
  simp only [Option.bind_some, List.head?_cons, decide_true]
  rw [next_colon (Spells.ne_nil hm (by decide))]
  simp only [last, Option.bind_some, next]

theorem clock?_fraction {h m s f : List Char} {hour minute second micro : Nat} (hh : Spells 2 h hour)
    (hm : Spells 2 m minute) (hs : Spells 2 s second) (hf : Spells 6 f micro) :
    clock? (h ++ ':' :: (m ++ ':' :: (s ++ '.' :: f))) =
      some (⟨hour, minute, second, micro⟩, false) := by
  have point : next true ('.' :: f) = .fraction f := by
    cases f with
    | nil => exact absurd hf.length (by decide)
    | cons c f => rfl
  have micros : fraction? f = some (micro, false) := by
    have six := places?_append hf []
    rw [List.append_nil] at six
    simp [fraction?, hf.length, six, isOver]
  rw [clock?_append hh hm hs, point]
  simp only [micros, Option.map_some]

/-! ## Zones -/

/-- The mark of an offset: a zone is behind UTC or ahead of it. -/
def offsetMark : Bool → Char
  | true => '-'
  | false => '+'

theorem zonedTime?_append {s o : List Char} {c zone : Clock} {left behind : Bool} {us : Int}
    (hs : ∀ a ∈ s, isOffsetMark a = false) (hc : clock? s = some (c, left)) (hour : c.hour < 24)
    (minute : c.minute < 60) (second : c.second < 60) (ho : clock? o = some (zone, false))
    (hus : offset? behind zone = some us) :
    zonedTime? (s ++ offsetMark behind :: o) = some (c.seconds * secondMicros + c.micro, us) := by
  have unmarked : ∀ a ∈ s, (!isOffsetMark a) = true := fun a ha => by rw [hs a ha]; rfl
  have marked : (!isOffsetMark (offsetMark behind)) = false := by cases behind <;> rfl
  have read (time : Int) : zonedTime?.zone behind o time = some (time, us) := by
    rw [zonedTime?.zone, ho]
    simp only [hus, Option.map_some]
  simp only [zonedTime?]
  rw [List.takeWhile_append_of_pos unmarked, List.dropWhile_append_of_pos unmarked,
    List.takeWhile_cons_of_neg (by simp [marked]), List.dropWhile_cons_of_neg (by simp [marked]),
    List.append_nil, hc]
  cases behind <;>
    simp only [offsetMark, Option.bind_some, hour, minute, second, and_self, if_true, read]

/-- A time of day without an offset is no instant. -/
theorem zonedTime?_unmarked {s : List Char} (hs : ∀ a ∈ s, isOffsetMark a = false) :
    zonedTime? s = none := by
  have unmarked : ∀ a ∈ s, (!isOffsetMark a) = true := fun a ha => by rw [hs a ha]; rfl
  have bare : s.dropWhile (!isOffsetMark ·) = [] := List.dropWhile_eq_nil_iff.mpr unmarked
  simp only [zonedTime?, bare]
  cases clock? (s.takeWhile (!isOffsetMark ·)) with
  | none => rfl
  | some read => simp

/-! ## Whole texts -/

theorem dateLength_dashed {y m : List Char} {year month : Nat} (hy : Spells 4 y year)
    (hm : Spells 2 m month) {rest : List Char} (h : 2 < rest.length) :
    dateLength (y ++ '-' :: (m ++ rest)) = 10 := by
  obtain ⟨c, m', rfl⟩ := List.exists_cons_of_ne_nil (Spells.ne_nil hm (by decide))
  have notWeek : c ≠ 'W' := by
    rintro rfl
    exact absurd (hm.digits 'W' (by simp)) (by decide)
  have hlength := hm.length
  simp only [dateLength]
  rw [if_neg (by simp [hy.length] at hlength ⊢; omega)]
  have fifth : (y ++ '-' :: (c :: m' ++ rest))[4]? = some '-' := by
    rw [List.getElem?_append_right (by simp [hy.length])]
    simp [hy.length]
  have sixth : (y ++ '-' :: (c :: m' ++ rest))[5]? = some c := by
    rw [List.getElem?_append_right (by simp [hy.length])]
    simp [hy.length]
  rw [if_pos fifth, if_neg (by rw [sixth]; simpa using notWeek)]

theorem micros?_dashed {y m d : List Char} {date : Date} (hy : Spells 4 y date.year)
    (hm : Spells 2 m date.month) (hd : Spells 2 d date.day) (s : List Char) :
    micros? (y ++ '-' :: (m ++ '-' :: (d ++ 'T' :: s))) =
      (zonedTime? s).map fun (time, offset) =>
        Instant.microsOfParts date.number 0 0 + time - offset := by
  have hlength : (y ++ '-' :: (m ++ '-' :: d)).length = 10 := by
    simp [hy.length, hm.length, hd.length]
  have hdate : dateLength (y ++ '-' :: (m ++ '-' :: (d ++ 'T' :: s))) = 10 :=
    dateLength_dashed hy hm (by simp only [List.length_append, List.length_cons, hd.length]; omega)
  have front : y ++ '-' :: (m ++ '-' :: (d ++ 'T' :: s)) =
      (y ++ '-' :: (m ++ '-' :: d)) ++ 'T' :: s := by simp
  have back : (y ++ '-' :: (m ++ '-' :: d)) ++ 'T' :: s =
      (y ++ '-' :: (m ++ '-' :: d) ++ ['T']) ++ s := by simp
  simp only [micros?]
  rw [if_neg (by simp [hy.length, hm.length, hd.length]; omega)]
  simp only [hdate]
  rw [front, List.take_left' hlength, back, List.drop_left' (by rw [List.length_append, hlength]; rfl),
    date?_dashed hy hm hd]
  rfl

theorem isOffsetMark_of_isAsciiDigit {c : Char} (h : isAsciiDigit c = true) :
    isOffsetMark c = false := by
  have plus : c ≠ '+' := ne_of_isAsciiDigit h (by decide)
  have minus : c ≠ '-' := ne_of_isAsciiDigit h (by decide)
  have zulu : c ≠ 'Z' := ne_of_isAsciiDigit h (by decide)
  simp [isOffsetMark, plus, minus, zulu]

theorem expandZulu_append {c : Char} (h : c = 'Z' ∨ c = 'z') (s : List Char) :
    expandZulu (s ++ [c]) = s ++ "+00:00".toList := by
  simp [expandZulu, h]

theorem expandZulu_eq_self {s : List Char} (h : ∀ c ∈ s, c ≠ 'Z' ∧ c ≠ 'z') : expandZulu s = s := by
  obtain rfl | ⟨s, c, rfl⟩ := List.eq_nil_or_concat s
  · rfl
  · simp [expandZulu, h c (by simp)]

theorem sixPlaces_append {s : List Char} (h : '.' ∉ s) (rest : List Char) :
    sixPlaces (s ++ rest) = s ++ sixPlaces rest := by
  induction s with
  | nil => rfl
  | cons c s ih =>
      obtain ⟨hc, hs⟩ := List.ne_and_not_mem_of_not_mem_cons h
      simp [sixPlaces, Ne.symm hc, ih hs]

theorem sixPlaces_eq_self {s : List Char} (h : '.' ∉ s) : sixPlaces s = s := by
  have kept := sixPlaces_append h []
  rwa [List.append_nil, sixPlaces, List.append_nil] at kept

/-- The first fraction gets six places, however many it was written with. -/
theorem sixPlaces_fraction {digits rest : List Char} (nonempty : digits ≠ [])
    (ascii : ∀ c ∈ digits, isAsciiDigit c = true) (hrest : ∀ c ∈ rest.head?, isDigit c = false) :
    sixPlaces ('.' :: (digits ++ rest)) =
      '.' :: (digits.take 6 ++ List.replicate (6 - digits.length) '0' ++ rest) := by
  have all : ∀ c ∈ digits, isDigit c = true := fun c hc => isDigit_of_isAsciiDigit (ascii c hc)
  have ends : rest.takeWhile isDigit = [] ∧ rest.dropWhile isDigit = rest := by
    cases rest with
    | nil => exact ⟨rfl, rfl⟩
    | cons c rest => simp [hrest c (by simp)]
  rw [sixPlaces]
  simp only [List.takeWhile_append_of_pos all, List.dropWhile_append_of_pos all, ends,
    List.append_nil]
  simp [nonempty]

/-! ## What a text denotes -/

/-- The microseconds since the epoch that a text denotes, in the calendar or not. -/
def denoted? (text : String) : Option Int :=
  if text = "" then none else micros? (sixPlaces (expandZulu (strip isBlank text.toList)))

/-- The text denotes an instant that is outside the calendar in UTC. -/
def Escapes (text : String) : Prop := ∃ us, denoted? text = some us ∧ Instant.ofMicros? us = none

theorem denoted?_eq (text : String) :
    denoted? text = micros? (sixPlaces (expandZulu (strip isBlank text.toList))) := by
  rw [denoted?]
  split
  · next empty =>
    rw [empty]
    rfl
  · rfl

theorem read_eq (text : String) :
    read text = (denoted? text).elim (.ok none) fun us =>
      (Fault.orOutOfRange (Instant.ofMicros? us)).map some := by
  simp only [read, denoted?]
  split
  · rfl
  · cases micros? (sixPlaces (expandZulu (strip isBlank text.toList))) with
    | none => rfl
    | some us =>
        simp only [Option.elim]
        cases Instant.ofMicros? us <;> rfl

theorem read_eq_none_iff {text : String} : read text = .ok none ↔ denoted? text = none := by
  rw [read_eq]
  cases denoted? text <;> simp

theorem read_eq_some_iff {text : String} {t : Instant} :
    read text = .ok (some t) ↔ denoted? text = some t.micros := by
  rw [read_eq]
  cases denoted? text with
  | none => simp
  | some us => simpa [Instant.ofMicros?_eq_some_iff] using eq_comm

theorem read_eq_error_iff {text : String} {f : Fault} :
    read text = .error f ↔ f = .beyondCalendar ∧ Escapes text := by
  rw [read_eq, Escapes]
  cases denoted? text with
  | none => simp
  | some us => simp [and_comm]

end Timestamp

end NodeRelief
