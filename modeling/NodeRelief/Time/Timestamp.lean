import NodeRelief.Fault
import NodeRelief.Text.Blank
import NodeRelief.Time.Instant

/-!
# Timestamps

Instants as text. Writing gives date, `T`, time of day to the second and `Z`. Reading takes many more
forms: calendar and week dates, with and without separators, any character between date and time,
fractions, and an offset written like a time of day. A character NUL behind a complete offset ends
the text.
-/

namespace NodeRelief.Timestamp

open NodeRelief.Text

/-- The instant in UTC to the second; the year has no zeros in front. -/
def write (t : Instant) : String :=
  let (y, m, d) := Date.partsOfNumber t.dayNumber
  let s := t.daySecond
  numeral y ++ "-" ++ paddedNumeral 2 m ++ "-" ++ paddedNumeral 2 d ++ "T" ++
    paddedNumeral 2 (s / 3600) ++ ":" ++ paddedNumeral 2 (s / 60 % 60) ++ ":" ++
    paddedNumeral 2 (s % 60) ++ "Z"

/-! ## Reading -/

/-- The number in the first `width` characters, all of which have to be digits, and the rest. -/
def places? (width : Nat) (s : List Char) : Option (Nat × List Char) :=
  if s.length < width then none
  else ((s.take width).mapM asciiDigit?).map fun ds => (ofPlaces ds, s.drop width)

/-- The length of the date at the front, told by its fifth and sixth characters and, for week dates,
by the digits and hyphens that follow. -/
def dateLength (s : List Char) : Nat :=
  let digitAt (i : Nat) : Bool := (s[i]?.map isAsciiDigit).getD false
  if s.length = 7 then 7
  else if s[4]? = some '-' then
    if s[5]? = some 'W' then
      if s[8]? = some '-' then (if digitAt 10 then 8 else 10) else 8
    else 10
  else if s[4]? = some 'W' then
    let stop := 7 + ((s.drop 7).takeWhile isAsciiDigit).length
    if stop < 9 then stop else if stop % 2 = 0 then 7 else 8
  else 8

def date? (s : List Char) : Option Date :=
  (places? 4 s).bind fun (y, s) =>
    let dashed := s.head? = some '-'
    let s := if dashed then s.drop 1 else s
    match s with
    | 'W' :: s =>
      (places? 2 s).bind fun (week, s) =>
        match s with
        | [] => Date.ofWeek? y week 1
        | c :: rest =>
          if dashed ∧ c ≠ '-' then none
          else
            (places? 1 (if dashed then rest else s)).bind fun (day, _) => Date.ofWeek? y week day
    | s =>
      (places? 2 s).bind fun (m, s) =>
        if dashed ∧ s.head? ≠ some '-' then none
        else (places? 2 (if dashed then s.drop 1 else s)).bind fun (d, _) => Date.make? y m d

/-- Hours, minutes, seconds and microseconds as written, none of them bounded by its unit. -/
structure Clock where
  hour : Nat
  minute : Nat
  second : Nat
  micro : Nat
deriving DecidableEq, Repr

/-- The character that ends a text. -/
def terminator : Char := '\x00'

/-- Whether there is nothing before the end of a text. -/
def isOver : List Char → Bool
  | [] => true
  | c :: _ => c == terminator

/-- The microseconds of a fraction: its first six digits at most, and whether anything but digits
follows them. -/
def fraction? (s : List Char) : Option (Nat × Bool) :=
  let width := min 6 s.length
  (places? width s).map fun (n, rest) =>
    (n * Nat.pow 10 (6 - width), !isOver (rest.dropWhile isAsciiDigit))

/-- What follows a pair of digits. -/
inductive Next where
  | stop (leftOver : Bool)
  | pair (rest : List Char)
  | fraction (rest : List Char)
  | malformed

/-- Decides what follows a pair of digits, in a text with colons or in one without. A last character
of ASCII is left over, unless it is the one that ends a text. -/
def next (colons : Bool) : List Char → Next
  | [] => .stop false
  | [c] => if c.toNat < 128 then .stop (c != terminator) else .malformed
  | c :: rest =>
    if colons && c == ':' then .pair rest
    else if c == '.' || c == ',' then .fraction rest
    else if colons then .malformed
    else .pair (c :: rest)

/-- A time of day or an offset: pairs of digits for hour, minute and second, each but the first
optional, then a fraction; and whether something is left over behind it. -/
def clock? (s : List Char) : Option (Clock × Bool) :=
  (places? 2 s).bind fun (h, s) =>
    let colons := s.head? = some ':'
    match next colons s with
    | .malformed => none
    | .stop left => some (⟨h, 0, 0, 0⟩, left)
    | .fraction s => (fraction? s).map fun (us, left) => (⟨h, 0, 0, us⟩, left)
    | .pair s =>
      (places? 2 s).bind fun (m, s) =>
        match next colons s with
        | .malformed => none
        | .stop left => some (⟨h, m, 0, 0⟩, left)
        | .fraction s => (fraction? s).map fun (us, left) => (⟨h, m, 0, us⟩, left)
        | .pair s =>
          (places? 2 s).bind fun (sec, s) =>
            match next colons s with
            | .malformed => none
            | .stop left => some (⟨h, m, sec, 0⟩, left)
            | .fraction s | .pair s =>
              (fraction? s).map fun (us, left) => (⟨h, m, sec, us⟩, left)

def Clock.seconds (c : Clock) : Nat := c.hour * 3600 + c.minute * 60 + c.second

/-- The offset in microseconds; without whole seconds it is none at all. It has to be less than a
day. -/
def offset? (negative : Bool) (c : Clock) : Option Int :=
  let us : Int := c.seconds * secondMicros + c.micro
  if c.seconds = 0 then some 0
  else if us < dayMicros then some (if negative then -us else us)
  else none

def isOffsetMark (c : Char) : Bool := c == '+' || c == '-' || c == 'Z'

/-- The time of day in microseconds and the offset of the zone, which has to be there. -/
def zonedTime? (s : List Char) : Option (Int × Int) :=
  (clock? (s.takeWhile (!isOffsetMark ·))).bind fun (c, _) =>
    if c.hour < 24 ∧ c.minute < 60 ∧ c.second < 60 then
      let time : Int := c.seconds * secondMicros + c.micro
      match s.dropWhile (!isOffsetMark ·) with
      | 'Z' :: rest => if isOver rest then some (time, 0) else none
      | '+' :: rest => zone false rest time
      | '-' :: rest => zone true rest time
      | _ => none
    else none
where
  zone (negative : Bool) (rest : List Char) (time : Int) : Option (Int × Int) :=
    match clock? rest with
    | some (o, false) => (offset? negative o).map (time, ·)
    | _ => none

/-- Microseconds since the epoch, not bounded. -/
def micros? (s : List Char) : Option Int :=
  if s.length < 7 then none
  else
    let n := dateLength s
    (date? (s.take n)).bind fun date =>
      (zonedTime? (s.drop (n + 1))).map fun (time, offset) =>
        Instant.microsOfParts date.number 0 0 + time - offset

/-- A final `Z`, in either case, as the offset it stands for. -/
def expandZulu (s : List Char) : List Char :=
  match s.reverse with
  | c :: rest => if c = 'Z' ∨ c = 'z' then rest.reverse ++ "+00:00".toList else s
  | [] => s

/-- Brings the first fraction, a point with digits of any script behind it, to six places. -/
def sixPlaces : List Char → List Char
  | [] => []
  | c :: rest =>
    let digits := rest.takeWhile isDigit
    if c = '.' ∧ !digits.isEmpty then
      '.' :: (digits.take 6 ++ List.replicate (6 - digits.length) '0') ++ rest.dropWhile isDigit
    else c :: sixPlaces rest

/-- The instant a text denotes. A text that denotes none is read as none; an instant outside the
calendar is a fault. -/
def read (text : String) : Except Fault (Option Instant) :=
  if text = "" then .ok none
  else
    match micros? (sixPlaces (expandZulu (strip isBlank text.toList))) with
    | none => .ok none
    | some us =>
      match Instant.ofMicros? us with
      | some t => .ok (some t)
      | none => .error .beyondCalendar

end NodeRelief.Timestamp
