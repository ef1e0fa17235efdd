import NodeRelief.Number.Binary64
import NodeRelief.Time.Calendar

/-!
# Instants and durations

Both are counted in microseconds and bounded: an instant lies in the years 1 to 9999, a duration has
less than 10 ^ 9 days. Arithmetic that leaves the bounds has no result.
-/

namespace NodeRelief

def secondMicros : Int := 1000000

def dayMicros : Int := 86400000000

structure Duration where
  micros : Int
  ge_least : -86399999913600000000 ≤ micros
  le_most : micros ≤ 86399999999999999999
deriving DecidableEq, Repr

namespace Duration

def ofMicros? (us : Int) : Option Duration :=
  if h : -86399999913600000000 ≤ us ∧ us ≤ 86399999999999999999 then some ⟨us, h.1, h.2⟩ else none

/-- What is told of microseconds that are too many for a duration, or too few. -/
def rangeText (us : Int) : String :=
  let days := us / dayMicros
  if -2147483648 ≤ days ∧ days ≤ 2147483647 then
    "days=" ++ Text.signedNumeral days ++ "; must have magnitude <= 999999999"
  else "Python int too large to convert to C int"

def zero : Duration := ⟨0, by decide, by decide⟩

instance : Inhabited Duration := ⟨zero⟩

/-- A duration of up to 10000 seconds. -/
def ofSeconds (n : Fin 10001) : Duration :=
  ⟨secondMicros * n.val, by unfold secondMicros; omega, by unfold secondMicros; omega⟩

def double? (d : Duration) : Option Duration := ofMicros? (2 * d.micros)

/-- The whole microseconds in a number of seconds. The seconds' fraction is brought to microseconds
within the binary format, and what then falls between two microseconds goes to the nearer one, or to
the even one from the middle. -/
def microsOfSeconds? : Binary64 → Option Int
  | .finite negative m e =>
    let (n, d) := Binary64.ratio m e
    match Binary64.ofRatio false (n % d * 1000000) d with
    | .finite _ m' e' =>
      let (n', d') := Binary64.ratio m' e'
      let us : Int := halfEven (n / d * 1000000 * d' + n') d'
      some (if negative then -us else us)
    | _ => none
  | _ => none

def ofSeconds? (x : Binary64) : Option Duration := (microsOfSeconds? x).bind ofMicros?

end Duration

structure Instant where
  /-- Since the beginning of 1970. -/
  micros : Int
  ge_first : -62135596800000000 ≤ micros
  le_last : micros ≤ 253402300799999999
deriving DecidableEq, Repr

namespace Instant

def ofMicros? (us : Int) : Option Instant :=
  if h : -62135596800000000 ≤ us ∧ us ≤ 253402300799999999 then some ⟨us, h.1, h.2⟩ else none

def epoch : Instant := ⟨0, by decide, by decide⟩

instance : Inhabited Instant := ⟨epoch⟩

instance : LT Instant := ⟨fun a b => a.micros < b.micros⟩

instance : LE Instant := ⟨fun a b => a.micros ≤ b.micros⟩

instance (a b : Instant) : Decidable (a < b) := inferInstanceAs (Decidable (a.micros < b.micros))

instance (a b : Instant) : Decidable (a ≤ b) := inferInstanceAs (Decidable (a.micros ≤ b.micros))

/-- The last whole second that is not later. -/
def floorSecond (t : Instant) : Instant :=
  ⟨t.micros / secondMicros * secondMicros,
    by have := t.ge_first; unfold secondMicros; omega,
    by have := t.le_last; unfold secondMicros; omega⟩

def nextSecond? (t : Instant) : Option Instant := ofMicros? (t.micros + secondMicros)

/-- The number of the day, as in `Date.number`. -/
def dayNumber (t : Instant) : Nat := (t.micros / dayMicros + 719163).toNat

/-- The second of the day. -/
def daySecond (t : Instant) : Nat := (t.micros % dayMicros / secondMicros).toNat

/-- An instant from a day number, a second of that day and microseconds. -/
def microsOfParts (day second micro : Nat) : Int :=
  ((day : Int) - 719163) * dayMicros + second * secondMicros + micro

end Instant

/-- The time on a clock in some zone. In UTC it may lie outside the calendar. -/
structure LocalTime where
  /-- What the clock shows, counted as if it were in UTC. -/
  clock : Instant
  /-- What the zone's clocks are ahead of UTC, in microseconds. -/
  offset : Int
deriving DecidableEq, Repr

namespace LocalTime

/-- Since the beginning of 1970 in UTC. -/
def micros (z : LocalTime) : Int := z.clock.micros - z.offset

def utc (t : Instant) : LocalTime := ⟨t, 0⟩

/-- A later or earlier instant. It has to be in range on the zone's clock and in UTC. -/
def add? (z : LocalTime) (d : Duration) : Option Instant :=
  (Instant.ofMicros? (z.clock.micros + d.micros)).bind fun clock =>
    Instant.ofMicros? (clock.micros - z.offset)

end LocalTime

/-- An instant as a clock in some zone shows it; what the clock shows is in range too. -/
structure ZonedInstant where
  instant : Instant
  /-- What the zone's clocks are ahead of UTC, in microseconds. -/
  offset : Int
  clock_ge_first : -62135596800000000 ≤ instant.micros + offset
  clock_le_last : instant.micros + offset ≤ 253402300799999999
deriving DecidableEq, Repr

namespace ZonedInstant

def make? (t : Instant) (offset : Int) : Option ZonedInstant :=
  if h : -62135596800000000 ≤ t.micros + offset ∧ t.micros + offset ≤ 253402300799999999 then
    some ⟨t, offset, h.1, h.2⟩
  else none

def toLocalTime (z : ZonedInstant) : LocalTime :=
  ⟨⟨z.instant.micros + z.offset, z.clock_ge_first, z.clock_le_last⟩, z.offset⟩

instance : Coe ZonedInstant LocalTime := ⟨toLocalTime⟩

end ZonedInstant

end NodeRelief
